import Chip8.Span
import Mathlib.Data.List.Perm.Subperm

/-! Joined spans as a canonical form. They are the longest runs of addresses among those that the
spans cover, in ascending order, so they depend on nothing but what is covered, and no fewer spans
cover the same. -/
namespace Chip8

namespace Span

instance : Membership Int Span := ⟨fun s a => s.first ≤ a ∧ a ≤ s.last⟩

@[simp] theorem mem_iff (s : Span) (a : Int) : a ∈ s ↔ s.first ≤ a ∧ a ≤ s.last := Iff.rfl

instance (s : Span) (a : Int) : Decidable (a ∈ s) := decidable_of_iff _ (s.mem_iff a).symm

def Covered (spans : List Span) (a : Int) : Prop := ∃ s ∈ spans, a ∈ s

@[simp] theorem covered_cons (s : Span) (spans : List Span) (a : Int) :
    Covered (s :: spans) a ↔ a ∈ s ∨ Covered spans a := by
  simp [Covered]

theorem covered_congr {spans others : List Span} (same : ∀ s, s ∈ spans ↔ s ∈ others) (a : Int) :
    Covered spans a ↔ Covered others a := by
  simp only [Covered, same]

/-- A run of addresses that cannot be made longer. -/
structure Maximal (A : Int → Prop) (s : Span) : Prop where
  filled : s.first ≤ s.last
  inside : ∀ a ∈ s, A a
  before : ¬ A (s.first - 1)
  behind : ¬ A (s.last + 1)

/-- Spans in ascending order with gaps between them. -/
structure Joined (spans : List Span) : Prop where
  filled : ∀ s ∈ spans, s.first ≤ s.last
  apart : spans.Pairwise fun s t => s.last + 1 < t.first

variable {spans others : List Span} {s t : Span}

namespace Joined

theorem eq_or_apart (joined : Joined spans) (one : s ∈ spans) (other : t ∈ spans) :
    s = t ∨ s.last + 1 < t.first ∨ t.last + 1 < s.first := by
  have apart := joined.apart
  clear joined
  induction spans with
  | nil => cases one
  | cons u rest ih =>
    obtain ⟨behind, apart⟩ := List.pairwise_cons.1 apart
    obtain first | one := List.mem_cons.1 one <;> obtain second | other := List.mem_cons.1 other
    · exact .inl (first.trans second.symm)
    · exact .inr (.inl (first ▸ behind t other))
    · exact .inr (.inr (second ▸ behind s one))
    · exact ih one other apart

theorem mem_iff_maximal (joined : Joined spans) : s ∈ spans ↔ Maximal (Covered spans) s := by
  have maximal {s : Span} (member : s ∈ spans) : Maximal (Covered spans) s := by
    have filled := joined.filled s member
    refine ⟨filled, fun a inside => ⟨s, member, inside⟩, ?_, ?_⟩
    all_goals
      rintro ⟨t, other, low, high⟩
      have filled' := joined.filled t other
      obtain rfl | before | behind := joined.eq_or_apart member other <;> omega
  refine ⟨maximal, fun run => ?_⟩
  have filled := run.filled
  obtain ⟨t, member, low, high⟩ := run.inside s.first ⟨Int.le_refl _, filled⟩
  have other := maximal member
  have first : t.first = s.first := by
    by_contra apart
    exact run.before ⟨t, member, by omega, by omega⟩
  have last : t.last = s.last := by
    obtain shorter | same | longer := Int.lt_trichotomy t.last s.last
    · exact absurd (run.inside (t.last + 1) ⟨by omega, by omega⟩) other.behind
    · exact same
    · exact absurd ⟨t, member, by omega, by omega⟩ run.behind
  obtain ⟨_, _⟩ := s
  obtain ⟨_, _⟩ := t
  cases first
  cases last
  exact member

theorem nodup (joined : Joined spans) : spans.Nodup :=
  joined.apart.imp_of_mem fun member _ apart same => by
    have filled := joined.filled _ member
    rw [← same] at apart
    omega

theorem nodup_firsts (joined : Joined spans) : (spans.map first).Nodup := by
  refine List.pairwise_map.2 (joined.apart.imp_of_mem fun member _ apart same => ?_)
  have filled := joined.filled _ member
  omega

theorem eq_of_covered (joined : Joined spans) (joined' : Joined others)
    (same : ∀ a, Covered spans a ↔ Covered others a) : spans = others := by
  have covered : Covered spans = Covered others := funext fun a => propext (same a)
  have perm : spans.Perm others := by
    refine (List.perm_ext_iff_of_nodup joined.nodup joined'.nodup).2 fun s => ?_
    rw [joined.mem_iff_maximal, joined'.mem_iff_maximal, covered]
  refine perm.eq_of_pairwise (fun s t one other before behind => ?_) joined.apart joined'.apart
  have filled := joined.filled s one
  have filled' := joined'.filled t other
  omega

theorem length_le (joined : Joined spans) (same : ∀ a, Covered others a ↔ Covered spans a) :
    spans.length ≤ others.length := by
  have firsts : spans.map first ⊆ others.map first := by
    intro a begins
    obtain ⟨s, member, rfl⟩ := List.mem_map.1 begins
    have run := joined.mem_iff_maximal.1 member
    obtain ⟨t, other, low, high⟩ := (same s.first).2 (run.inside _ ⟨Int.le_refl _, run.filled⟩)
    refine List.mem_map.2 ⟨t, other, ?_⟩
    by_contra apart
    exact run.before ((same _).1 ⟨t, other, by omega, by omega⟩)
  simpa using (joined.nodup_firsts.subperm firsts).length_le

end Joined

theorem joined_joinFrom {current : Span} {rest : List Span}
    (filled : ∀ s ∈ current :: rest, s.first ≤ s.last)
    (ascending : (current :: rest).Pairwise fun s t => s.first ≤ t.first) :
    Joined (joinFrom current rest) ∧ (∀ s ∈ joinFrom current rest, current.first ≤ s.first) ∧
      ∀ a, Covered (joinFrom current rest) a ↔ Covered (current :: rest) a := by
  induction rest generalizing current with
  | nil =>
    exact ⟨⟨filled, List.pairwise_singleton _ _⟩, by simp [joinFrom], fun _ => Iff.rfl⟩
  | cons next rest ih =>
    obtain ⟨whole, wholes⟩ := List.forall_mem_cons.1 filled
    obtain ⟨above, ascending⟩ := List.pairwise_cons.1 ascending
    have next_filled := wholes next List.mem_cons_self
    have next_above := above next List.mem_cons_self
    rw [joinFrom]
    split
    · next touching =>
      obtain ⟨joined, behind, covered⟩ := @ih ⟨current.first, max current.last next.last⟩
        (List.forall_mem_cons.2 ⟨by simp only; omega, (List.forall_mem_cons.1 wholes).2⟩)
        (List.pairwise_cons.2 ⟨fun s member => above s (List.mem_cons_of_mem _ member),
          (List.pairwise_cons.1 ascending).2⟩)
      refine ⟨joined, behind, fun a => ?_⟩
      rw [covered a]
      simp only [covered_cons, mem_iff, ← or_assoc]
      refine or_congr_left ?_
      omega
    · next apart =>
      obtain ⟨joined, behind, covered⟩ := ih wholes ascending
      refine ⟨⟨List.forall_mem_cons.2 ⟨whole, joined.filled⟩, List.pairwise_cons.2
        ⟨fun s member => ?_, joined.apart⟩⟩,
        List.forall_mem_cons.2 ⟨Int.le_refl _, fun s member => ?_⟩, fun a => ?_⟩
      · have := behind s member
        omega
      · have := behind s member
        omega
      · simp only [covered_cons, covered a]

theorem pairwise_mergeSort_before (spans : List Span) :
    (spans.mergeSort before).Pairwise fun s t => s.first ≤ t.first := by
  have sorted : (spans.mergeSort before).Pairwise fun s t => before s t = true :=
    List.pairwise_mergeSort (fun s t u => by simp [before]; omega)
      (fun s t => by simp [before]; omega) spans
  refine sorted.imp fun {s t} ordered => ?_
  simp [before] at ordered
  omega

theorem joined_join (any : spans ≠ []) (filled : ∀ s ∈ spans, s.first ≤ s.last) :
    Joined (join spans) ∧ ∀ a, Covered (join spans) a ↔ Covered spans a := by
  have sorted := pairwise_mergeSort_before spans
  have same (s : Span) : s ∈ spans.mergeSort before ↔ s ∈ spans := List.mem_mergeSort
  unfold join
  cases order : spans.mergeSort before with
  | nil =>
    refine absurd (List.eq_nil_iff_forall_not_mem.2 fun s member => ?_) any
    rw [← same, order] at member
    cases member
  | cons s rest =>
    rw [order] at sorted same
    obtain ⟨joined, _, covered⟩ :=
      joined_joinFrom (fun t member => filled t ((same t).1 member)) sorted
    exact ⟨joined, fun a => (covered a).trans (covered_congr same a)⟩

theorem join_nil : join [] = [whole] := by
  simp [join]

/-- What is asked for by some spans, where none stand for all of memory. -/
def Asked (spans : List Span) (a : Int) : Prop := spans = [] ∧ a ∈ whole ∨ Covered spans a

theorem joined_asked (filled : ∀ s ∈ spans, s.first ≤ s.last) :
    Joined (join spans) ∧ ∀ a, Covered (join spans) a ↔ Asked spans a := by
  by_cases none : spans = []
  · subst none
    rw [join_nil]
    exact ⟨⟨by decide, List.pairwise_singleton _ _⟩, fun a => by simp [Asked, Covered]⟩
  · obtain ⟨joined, covered⟩ := joined_join none filled
    exact ⟨joined, fun a => by simp [covered a, Asked, none]⟩

theorem join_ne_nil (filled : ∀ s ∈ spans, s.first ≤ s.last) : join spans ≠ [] := by
  have some : ∃ a, Asked spans a := by
    cases spans with
    | nil => exact ⟨0, .inl ⟨rfl, by decide⟩⟩
    | cons s rest =>
      have first := filled s List.mem_cons_self
      exact ⟨s.first, .inr ⟨s, List.mem_cons_self, Int.le_refl _, first⟩⟩
  obtain ⟨a, asked⟩ := some
  obtain ⟨s, member, _⟩ := ((joined_asked filled).2 a).2 asked
  exact List.ne_nil_of_mem member

/-- Joining brings spans into a form that depends on nothing but the addresses they cover, and that
is the shortest with these addresses. -/
theorem join_canonical (any : spans ≠ []) (filled : ∀ s ∈ spans, s.first ≤ s.last) :
    Joined (join spans) ∧ (∀ a, Covered (join spans) a ↔ Covered spans a) ∧
      (∀ others : List Span, (∀ s ∈ others, s.first ≤ s.last) →
        (∀ a, Covered others a ↔ Covered spans a) → join others = join spans) ∧
      (∀ others : List Span, (∀ s, s ∈ others ↔ s ∈ spans) → join others = join spans) ∧
      join (join spans) = join spans ∧
      (∀ others : List Span, (∀ a, Covered others a ↔ Covered spans a) →
        (join spans).length ≤ others.length) ∧
      join [] = [⟨0, 0xFFF⟩] := by
  obtain ⟨joined, covered⟩ := joined_join any filled
  have alike (others : List Span) (filled' : ∀ s ∈ others, s.first ≤ s.last)
      (same : ∀ a, Covered others a ↔ Covered spans a) : join others = join spans := by
    -- something is covered, so the others are not the empty list, which would stand for all
    have any' : others ≠ [] := by
      rintro rfl
      obtain ⟨s, member⟩ := List.exists_mem_of_ne_nil spans any
      obtain ⟨t, absent, _⟩ := (same s.first).2 ⟨s, member, Int.le_refl _, filled s member⟩
      cases absent
    obtain ⟨joined', covered'⟩ := joined_join any' filled'
    exact joined'.eq_of_covered joined fun a => (covered' a).trans ((same a).trans (covered a).symm)
  refine ⟨joined, covered, alike, fun others same => ?_, ?_, fun others same => ?_, join_nil⟩
  · exact alike others (fun s member => filled s ((same s).1 member)) (covered_congr same)
  · exact alike (join spans) joined.filled covered
  · exact joined.length_le fun a => (same a).trans (covered a).symm

def overlapping : List Span := [⟨0x20, 0x2F⟩, ⟨0, 0xFF⟩, ⟨0x100, 0x10F⟩, ⟨0x20, 0x2F⟩]

theorem overlapping_joined : (∀ s ∈ overlapping, s.first ≤ s.last) ∧
    join overlapping = join [⟨0, 0x10F⟩] ∧ (join overlapping).length ≤ 1 := by
  have filled : ∀ s ∈ overlapping, s.first ≤ s.last := by decide
  obtain ⟨_, _, alike, _, _, least, _⟩ := join_canonical (List.cons_ne_nil _ _) filled
  have same (a : Int) : Covered [⟨0, 0x10F⟩] a ↔ Covered overlapping a := by
    simp only [Covered, overlapping, List.mem_cons, List.not_mem_nil, or_false, exists_eq_left,
      exists_eq_or_imp, mem_iff]
    omega
  exact ⟨filled, (alike _ (by decide) same).symm, least _ same⟩

end Span

end Chip8
