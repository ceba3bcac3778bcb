import Chip8.Proofs.Watching
import Mathlib.Data.Nat.Find

/-! Runs of limited length. A run under a fresh limit makes the cycles that the machine would make
alone, until the limit is filled or one of them fails. So it does not matter whether cycles are
made in one run or in two, or one by one. -/
namespace Chip8

variable {ρ η ε : Type}

namespace Session

/-- The same session under a fresh limit. -/
def limited (m : Session ρ (World η)) (n : Nat) : Session ρ (World η) :=
  { m with world := { m.world with observer := some (.limit (.ofNat n)) } }

/-- Sessions that differ in nothing but their observers and what they have reported. -/
structure SameOutcome (m k : Session ρ (World η)) : Prop extends SameMachine m k where
  host : k.world.host = m.world.host
  stopping : k.stopping = m.stopping
  reason : k.reason = m.reason
  running : k.running = m.running

theorem voices_limit (pcs : Nat → Int) (n k : Nat) :
    (Observer.limit (.ofNat n)).voices pcs k =
      if n ≤ k + 1 then [CycleLimit.message] else [] := by
  rw [Observer.voices_of_leaf _ _ rfl]
  simp only [Observer.fires?, CycleLimit.ofNat, Nat.zero_add]
  split <;> rfl

theorem Ends.shift {cycles extra : Nat} {requested : Option CodePoints}
    {failure : Option (Failure ε)} {short long : Except (Failure ε) (Option Outcome)}
    {reason reason' : CodePoints} (one : Ends false cycles requested failure [] short reason)
    (other : Ends false (extra + cycles) requested failure [] long reason') :
    reason' = reason ∧
      long = short.map (·.map fun o => { o with cycles := extra + o.cycles }) := by
  cases one with
  | stopped asked =>
    cases other with
    | stopped asked' =>
      obtain rfl := Option.some.inj (asked.symm.trans asked')
      exact ⟨rfl, rfl⟩
  | verdict verdict once first =>
    cases other with
    | verdict verdict' once' first' =>
      obtain rfl := Option.some.inj (verdict.symm.trans verdict')
      cases once
      cases once'
      cases first
      cases first'
      exact ⟨rfl, rfl⟩
    | escaped none _ =>
      rw [verdict] at none
      cases none
  | escaped none first =>
    cases other with
    | verdict verdict _ _ =>
      rw [verdict] at none
      cases none
    | escaped _ first' =>
      cases first
      cases first'
      exact ⟨rfl, rfl⟩

theorem Ends.finishes {cycles : Nat} {requested : Option CodePoints}
    {failure : Option (Failure ε)} {result : Except (Failure ε) (Option Outcome)}
    {reason : CodePoints} (ends : Ends false cycles requested failure [] result reason) :
    result ≠ .ok none := by
  rintro rfl
  generalize told : ([] : List (Call ε)) = calls at ends
  generalize unfinished : (Except.ok none : Except (Failure ε) (Option Outcome)) = result at ends
  cases ends with
  | stopped => cases unfinished
  | verdict _ once _ =>
    cases told
    cases once
    cases unfinished
  | escaped => cases unfinished

theorem Ends.of_completed {cycles : Nat} {reason reason' : CodePoints}
    {result : Except (Failure ε) (Option Outcome)}
    (ends : Ends false cycles (some reason) none [] result reason') :
    result = .ok (some ⟨cycles, none, reason⟩) := by
  cases ends with
  | stopped asked => rw [Option.some.inj asked]

section Unobserved

variable [RandomSource ρ] (host : Option (Host η ε))

def Passes (m : Session ρ (World η)) (k : Nat) : Prop :=
  Changed.failure? (cycle (unwatched host) (unobserved host m k)) = none

theorem unobserved_add (m : Session ρ (World η)) (j k : Nat) :
    unobserved host (unobserved host m j) k = unobserved host m (j + k) := by
  induction k with
  | zero => rfl
  | succ k ih => rw [unobserved, ih, ← Nat.add_assoc, unobserved]

theorem cycles_unobserved (m : Session ρ (World η)) (k : Nat) :
    m.cycles ≤ (unobserved host m k).cycles := by
  induction k with
  | zero => exact Nat.le_refl _
  | succ k ih =>
    have counted := cycles_cycle (unwatched host) (unobserved host m k)
    rw [unobserved, counted]
    omega

theorem uneventful_limit_iff (m : Session ρ (World η)) (n k : Nat) :
    Uneventful host m (.limit (.ofNat n)) k ↔ k + 1 < n ∧ Passes host m k := by
  unfold Uneventful Passes
  rw [voices_limit]
  split <;> simp <;> omega

variable {host}

theorem cycles_passed {m : Session ρ (World η)} {n : Nat} (passed : ∀ k < n, Passes host m k) :
    (unobserved host m n).cycles = m.cycles + n := by
  induction n with
  | zero => rfl
  | succ n ih =>
    have before := ih fun k below => passed k (Nat.lt_succ_of_lt below)
    have passes := passed n (Nat.lt_succ_self n)
    rw [unobserved, Nat.add_succ, ← before]
    unfold Passes at passes
    cases done : cycle (unwatched host) (unobserved host m n) with
    | error e k =>
      rw [done] at passes
      cases passes
    | ok _ k =>
      obtain ⟨ins, _, advances⟩ := cycle_ok done
      rw [Change.after_of_ok done]
      exact advances.cycles

/-- Cycle `k` of the machine alone is the first that fills a limit of `n` or fails. -/
structure Last (host : Option (Host η ε)) (m : Session ρ (World η)) (n k : Nat) : Prop where
  below : k < n
  passed : ∀ j < k, Passes host m j
  last : k + 1 = n ∨ ¬ Passes host m k

theorem Last.unique {m : Session ρ (World η)} {n k l : Nat} (one : Last host m n k)
    (other : Last host m n l) : l = k := by
  have below := one.below
  have below' := other.below
  obtain earlier | same | later := Nat.lt_trichotomy l k
  · exact absurd (one.passed l earlier) (other.last.resolve_left (by omega))
  · exact same
  · exact absurd (other.passed k later) (one.last.resolve_left (by omega))

theorem Last.add {m : Session ρ (World η)} {j n k : Nat} (passed : ∀ i < j, Passes host m i)
    (later : Last host (unobserved host m j) n k) : Last host m (j + n) (j + k) where
  below := Nat.add_lt_add_left later.below j
  passed i before := by
    obtain early | late := Nat.lt_or_ge i j
    · exact passed i early
    · have passes := later.passed (i - j) (by omega)
      rwa [Passes, unobserved_add, Nat.add_sub_cancel' late] at passes
  last := by
    have ended := later.last
    rw [Passes, unobserved_add] at ended
    exact ended.imp (fun filled => by omega) id

end Unobserved

section Limited

variable [RandomSource ρ] {Fit : η → Prop} {host : Option (Host η ε)}
  {w a final : Session ρ (World η)} {n k : Nat} {result : Except (Failure ε) (Option Outcome)}

/-- A run under a limit of `n` that ends with cycle `k`, told by the cycles of the machine alone. -/
structure EndsAt (Fit : η → Prop) (host : Option (Host η ε)) (a : Session ρ (World η)) (n k : Nat)
    (result : Except (Failure ε) (Option Outcome)) (final : Session ρ (World η)) : Prop
    extends Last host a n k where
  same : SameMachine (unobserved host a (k + 1)) final
  hosts : final.world.host = (unobserved host a (k + 1)).world.host
  fit : Fit final.world.host
  stopping : final.stopping = true
  running : final.running = false
  ends : Ends false ((unobserved host a (k + 1)).cycles - a.cycles)
    (if n ≤ k + 1 then some CycleLimit.message else none)
    (Changed.failure? (cycle (unwatched host) (unobserved host a k))) [] result final.reason

theorem exists_first_eventful {a : Session ρ (World η)} {o : Observer}
    (eventful : ∃ k, ¬ Uneventful host a o k) :
    ∃ k, ¬ Uneventful host a o k ∧ ∀ j < k, Uneventful host a o j := by
  classical
  exact ⟨Nat.find eventful, Nat.find_spec eventful,
    fun j below => not_not.1 (Nat.find_min eventful below)⟩

theorem run_limited (quiet : ∀ h ∈ host, h.Quiet Fit) (same : SameMachine w a)
    (hosts : a.world.host = w.world.host) (whole : w.state.WellFormed) (fit : Fit w.world.host)
    (positive : 0 < n) (spare : Nat) :
    let final := run (World.surroundings host) none (n + spare) (w.limited n)
    ∃ k, EndsAt Fit host a n k final.1 final.2 := by
  intro final
  have opened : Twin Fit (some (.limit (.ofNat n))) none (w.limited n).openRun a :=
    ⟨⟨same.machine, same.last, same.cycles⟩, hosts, fit, rfl, rfl⟩
  have filled : ∃ k, ¬ Uneventful host a (.limit (.ofNat n)) k :=
    ⟨n, by rw [uneventful_limit_iff]; omega⟩
  obtain ⟨k, eventful, calm⟩ := exists_first_eventful filled
  have below : k < n := by
    by_contra beyond
    have early := (uneventful_limit_iff host a n (n - 1)).1 (calm (n - 1) (by omega))
    omega
  have fuel : k + 1 + (n - (k + 1) + spare) = n + spare := by omega
  have finished := run_eventful quiet opened whole k calm eventful (n - (k + 1) + spare)
  rw [fuel] at finished
  have ends := finished.ends
  have asked : ((Observer.limit (.ofNat n)).voices (counters host a) k).head? =
      if n ≤ k + 1 then some CycleLimit.message else none := by
    rw [voices_limit]
    split <;> rfl
  rw [asked] at ends
  refine ⟨k, ?_⟩
  exact {
    below
    passed := fun j before => ((uneventful_limit_iff host a n j).1 (calm j before)).2
    last := by
      by_cases passes : Passes host a k
      · have filled : ¬ k + 1 < n := fun short =>
          eventful ((uneventful_limit_iff host a n k).2 ⟨short, passes⟩)
        exact .inl (by omega)
      · exact .inr passes
    same := finished.same
    hosts := finished.hosts
    fit := finished.fit
    stopping := finished.stopping
    running := finished.running
    ends }

theorem EndsAt.complete {o : Outcome} (ended : EndsAt Fit host a n k (.ok (some o)) final)
    (clean : o.error = none) :
    k + 1 = n ∧ Passes host a k ∧
      o = ⟨(unobserved host a n).cycles - a.cycles, none, CycleLimit.message⟩ := by
  have ends := ended.ends
  generalize succeeded : (Except.ok (some o) : Except (Failure ε) (Option Outcome)) = result at ends
  generalize finished : Changed.failure? (cycle (unwatched host) (unobserved host a k)) = failure
    at ends
  cases ends with
  | stopped asked =>
    have full : k + 1 = n := ended.last.resolve_right fun fails => fails finished
    have filled : n ≤ k + 1 := by omega
    rw [if_pos filled] at asked
    have told := Option.some.inj (Except.ok.inj succeeded)
    exact ⟨full, finished, by rw [told, ← Option.some.inj asked, full]⟩
  | @verdict e f _ answer _ _ once _ =>
    cases once
    cases succeeded
    cases clean
  | escaped => cases succeeded

theorem EndsAt.joined {m first : Session ρ (World η)} {j : Nat}
    {whole : Except (Failure ε) (Option Outcome)}
    (later : EndsAt Fit host (unobserved host m j) n k result final)
    (all : EndsAt Fit host m (j + n) (j + k) whole first) :
    whole ≠ .ok none ∧
      whole = result.map (·.map fun o =>
        { o with cycles := ((unobserved host m j).cycles - m.cycles) + o.cycles }) ∧
      SameOutcome final first := by
  have same := later.same
  have hosts := later.hosts
  have ends := later.ends
  have total := all.ends
  have filled : j + n ≤ j + k + 1 ↔ n ≤ k + 1 := by omega
  have before := cycles_unobserved host m j
  have after := cycles_unobserved host (unobserved host m j) (k + 1)
  rw [unobserved_add, ← Nat.add_assoc] at same hosts ends after
  rw [unobserved_add] at ends
  have counted : (unobserved host m (j + k + 1)).cycles - m.cycles =
      ((unobserved host m j).cycles - m.cycles) +
        ((unobserved host m (j + k + 1)).cycles - (unobserved host m j).cycles) := by
    omega
  rw [counted] at total
  simp only [filled] at total
  obtain ⟨reason, shifted⟩ := ends.shift total
  refine ⟨total.finishes, shifted, ?_⟩
  exact {
    toSameMachine := same.symm.trans all.same
    host := all.hosts.trans hosts.symm
    stopping := all.stopping.trans later.stopping.symm
    reason
    running := all.running.trans later.running.symm }

end Limited

section Splitting

variable [RandomSource ρ] {Fit : η → Prop} {host : Option (Host η ε)}

/-- Two runs one after the other under fresh limits, of which the first ends without a fault, come
to the same as one run under the sum of the limits, and so do single cycles. -/
theorem split_run_is_invisible (quiet : ∀ h ∈ host, h.Quiet Fit) {m : Session ρ (World η)}
    (whole : m.state.WellFormed) (fit : Fit m.world.host) {j n : Nat} (early : 0 < j)
    (late : 0 < n) :
    (∀ spare spare' spare'' o,
      let first := run (World.surroundings host) none (j + spare) (m.limited j)
      let second := run (World.surroundings host) none (n + spare') (first.2.limited n)
      let single := run (World.surroundings host) none (j + n + spare'') (m.limited (j + n))
      first.1 = .ok (some o) → o.error = none →
        single.1 ≠ .ok none ∧
        single.1 = second.1.map (·.map fun p => { p with cycles := o.cycles + p.cycles }) ∧
        SameOutcome second.2 single.2) ∧
    ((∀ k < j, Passes host m k) → ∀ spare,
      let single := run (World.surroundings host) none (j + spare) (m.limited j)
      single.1 = .ok (some ⟨j, none, CycleLimit.message⟩) ∧
      SameMachine (unobserved host m j) single.2 ∧
      single.2.world.host = (unobserved host m j).world.host) := by
  have unchanged : SameMachine m m := ⟨rfl, rfl, rfl⟩
  refine ⟨?_, ?_⟩
  · intro spare spare' spare'' o first second single ended clean
    obtain ⟨i, one⟩ := run_limited quiet unchanged rfl whole fit early spare
    rw [ended] at one
    obtain ⟨full, passes, rfl⟩ := one.complete clean
    have passed : ∀ k < j, Passes host m k := by
      intro k before
      obtain earlier | rfl := Nat.lt_or_eq_of_le (show k ≤ i by omega)
      · exact one.passed k earlier
      · exact passes
    obtain ⟨trace, advances⟩ :=
      run_trace (World.surroundings host) none (j + spare) (m.limited j)
    have whole' : first.2.state.WellFormed := advances.trail.wellFormed whole
    have same : SameMachine first.2 (unobserved host m j) := full ▸ one.same.symm
    have hosts : (unobserved host m j).world.host = first.2.world.host := full ▸ one.hosts.symm
    obtain ⟨k, two⟩ := run_limited quiet same hosts whole' one.fit late spare'
    obtain ⟨l, all⟩ := run_limited quiet unchanged rfl whole fit (Nat.add_pos_left early n) spare''
    obtain rfl := (Last.add passed two.toLast).unique all.toLast
    exact two.joined all
  · intro passed spare single
    obtain ⟨i, one⟩ := run_limited quiet unchanged rfl whole fit early spare
    have full : i + 1 = j := one.last.resolve_right fun fails => fails (passed i one.below)
    have ends := one.ends
    have completes : Changed.failure? (cycle (unwatched host) (unobserved host m i)) = none :=
      passed i one.below
    rw [completes, full, if_pos (Nat.le_refl j), cycles_passed passed, Nat.add_sub_cancel_left]
      at ends
    exact ⟨ends.of_completed, full ▸ one.same, full ▸ one.hosts⟩

def strayReturn : Session Script (World Headless) :=
  observed Headless.fresh.keys pauses [0x00, 0xE0, 0x60, 0x05, 0x00, 0xEE]

theorem split_before_fault :
    let first := run (World.surroundings headless) none 2 (strayReturn.limited 2)
    let second := run (World.surroundings headless) none 2 (first.2.limited 2)
    let single := run (World.surroundings headless) none 4 (strayReturn.limited 4)
    single.1 = second.1.map (·.map fun p => { p with cycles := 2 + p.cycles }) ∧
      SameOutcome second.2 single.2 ∧ SameMachine (unobserved headless strayReturn 2) first.2 := by
  intro first second single
  have whole : strayReturn.state.WellFormed := wellFormed_observed _ _ _
  have passed : ∀ k < 2, Passes headless strayReturn k := by
    unfold Passes
    decide +kernel
  obtain ⟨split, steps⟩ :=
    split_run_is_invisible quiet_headless whole trivial (j := 2) (n := 2) (by decide) (by decide)
  obtain ⟨ended, same, _⟩ := steps passed 0
  obtain ⟨_, result, outcome⟩ := split 0 0 0 _ ended rfl
  exact ⟨result, outcome, same⟩

end Splitting

end Session

end Chip8
