import Chip8.Proofs.Diagnosis
import Chip8.Proofs.Events
import Chip8.Proofs.HexTable

/-! Numbers as they are spelled in base sixteen. A number has many spellings, with capital and small
letters, zeros in front, a tag and blanks around, and every one of them is read as the number. Other
texts may be numerals too, with signs, underscores or digits of other scripts; whatever they are,
what is read from them is an address or a key, or it is refused. -/
namespace Chip8

theorem Hex.digits_ne_nil (n : Nat) : Hex.digits n ≠ [] := by
  rw [Hex.digits]
  split
  · exact List.cons_ne_nil _ _
  · exact List.append_ne_nil_of_right_ne_nil _ (List.cons_ne_nil _ _)

namespace Numeral

variable {cs : List Char} {ds : List Nat}

theorem digits?_cons {base total d : Nat} {c : Char} (digit : Digit.value? base c = some d) :
    digits? base total (c :: cs) = digits? base (base * total + d) cs := by
  have plain : c ≠ '_' := by
    rintro rfl
    cases digit
  cases cs with
  | nil => simp [digits?, digit]
  | cons c' cs => simp [digits?, digit, plain]

theorem digits?_eq_foldl {base : Nat}
    (read : List.Forall₂ (fun c d => Digit.value? base c = some d) cs ds) (total : Nat) :
    digits? base total cs = some (ds.foldl (fun total d => base * total + d) total) := by
  induction read generalizing total with
  | nil => rfl
  | cons digit _ ih => rw [digits?_cons digit, ih, List.foldl_cons]

theorem magnitude?_eq_value (any : cs ≠ [])
    (read : List.Forall₂ (fun c d => Digit.value? 16 c = some d) cs ds) :
    magnitude? 16 cs = some (Hex.value ds) := by
  cases read with
  | nil => exact absurd rfl any
  | cons digit others =>
    rw [magnitude?, digit]
    simp only [digits?_eq_foldl others, Hex.value, List.foldl_cons, Nat.mul_zero, Nat.zero_add]

def marks : List Char :=
  'x' :: 'X' :: (List.range 16).flatMap fun d => [Hex.lowerDigit d, Hex.upperDigit d]

/-- A character that the readers pass on as it is. -/
structure Plain (c : Char) : Prop where
  solid : isBlank c = false
  kept : Blank.isBlank c.toNat = false
  whole : CodePoints.isSurrogate c.toNat = false
  ne_colon : c.toNat ≠ Written.colon
  unsigned : c ≠ '-' ∧ c ≠ '+'

theorem plain_of_mem_marks {c : Char} (member : c ∈ marks) : Plain c := by
  have tested : marks.all (fun c => !isBlank c && !Blank.isBlank c.toNat &&
      !CodePoints.isSurrogate c.toNat && c.toNat != Written.colon && (c != '-' && c != '+')) =
        true := by decide +kernel
  have plain := List.all_eq_true.1 tested c member
  simp only [Bool.and_eq_true, Bool.not_eq_true', bne_iff_ne] at plain
  obtain ⟨⟨⟨⟨solid, kept⟩, whole⟩, ne_colon⟩, unsigned⟩ := plain
  exact ⟨solid, kept, whole, ne_colon, unsigned⟩

/-- A character that is a digit of this value, in either case. -/
def Shows (c : Char) (d : Nat) : Prop := d < 16 ∧ (c = Hex.lowerDigit d ∨ c = Hex.upperDigit d)

theorem Shows.value? {c : Char} {d : Nat} (shows : Shows c d) : Digit.value? 16 c = some d := by
  have both : ∀ d < 16, Digit.value? 16 (Hex.lowerDigit d) = some d ∧
      Digit.value? 16 (Hex.upperDigit d) = some d := by decide +kernel
  obtain ⟨small, rfl | rfl⟩ := shows
  · exact (both d small).1
  · exact (both d small).2

theorem Shows.mem_marks {c : Char} {d : Nat} (shows : Shows c d) : c ∈ marks := by
  obtain ⟨small, cased⟩ := shows
  refine List.mem_cons_of_mem _ (List.mem_cons_of_mem _ ?_)
  exact List.mem_flatMap.2 ⟨d, List.mem_range.2 small, by simpa using cased⟩

theorem mem_marks_of_shows (shows : List.Forall₂ Shows cs ds) : ∀ c ∈ cs, c ∈ marks := by
  induction shows with
  | nil => nofun
  | cons first _ ih => exact List.forall_mem_cons.2 ⟨first.mem_marks, ih⟩

theorem ne_tag_of_value? {c : Char} {d : Nat} (digit : Digit.value? 16 c = some d) :
    ¬ (c = 'x' ∨ c = 'X') := by
  rintro (rfl | rfl) <;> cases digit

theorem afterTag?_of_digits (read : List.Forall₂ (fun c d => Digit.value? 16 c = some d) cs ds) :
    afterTag? cs = none := by
  cases read with
  | nil => rfl
  | cons _ others =>
    cases others with
    | nil => rfl
    | cons digit _ => exact if_neg fun ⟨_, tag⟩ => ne_tag_of_value? digit tag

theorem afterTag?_tagged {x : Char} (tag : x = 'x' ∨ x = 'X')
    (read : List.Forall₂ (fun c d => Digit.value? 16 c = some d) cs ds) :
    afterTag? ('0' :: x :: cs) = some cs := by
  have zero : Digit.decimal? '0' = some 0 := by decide
  rw [afterTag?, if_pos ⟨zero, tag⟩]
  rintro rest rfl
  cases read with
  | cons digit _ => cases digit

theorem hexMagnitude?_tagged {tag : List Char} (any : cs ≠ [])
    (tagged : tag = [] ∨ tag = ['0', 'x'] ∨ tag = ['0', 'X'])
    (read : List.Forall₂ (fun c d => Digit.value? 16 c = some d) cs ds) :
    hexMagnitude? (tag ++ cs) = some (Hex.value ds) := by
  have untagged : (afterTag? (tag ++ cs)).getD (tag ++ cs) = cs := by
    obtain rfl | rfl | rfl := tagged
    · rw [List.nil_append, afterTag?_of_digits read, Option.getD_none]
    · exact congrArg (Option.getD · _) (afterTag?_tagged (.inl rfl) read)
    · exact congrArg (Option.getD · _) (afterTag?_tagged (.inr rfl) read)
  rw [hexMagnitude?, untagged, magnitude?_eq_value any read]

theorem hex?_of_plain {n : Nat} (plain : ∀ c ∈ cs, Plain c) (read : hexMagnitude? cs = some n) :
    hex? (cs.map Char.toNat) = some (n : Int) := by
  have whole : ¬ (cs.map Char.toNat).any CodePoints.isSurrogate = true := by
    rw [List.any_map, List.any_eq_true]
    rintro ⟨c, member, surrogate⟩
    rw [Function.comp, (plain c member).whole] at surrogate
    cases surrogate
  have chars : CodePoints.toChars? (cs.map Char.toNat) = some cs := by
    rw [CodePoints.toChars?, if_neg whole, List.map_map]
    simp [Function.comp_def]
  have trimmed : trim cs = cs := by
    have solid : ∀ c ∈ cs, isBlank c = false := fun c member => (plain c member).solid
    simpa [trim] using @Blank.trim_surrounded _ _ [] cs [] nofun solid
  rw [hex?, chars, Option.bind_some, signed?, trimmed]
  split
  · exact absurd rfl (plain '-' List.mem_cons_self).unsigned.1
  · exact absurd rfl (plain '+' List.mem_cons_self).unsigned.2
  · rw [read]
    rfl

theorem hexMagnitude?_singleton (c : Char) : hexMagnitude? [c] = Digit.value? 16 c := by
  simp only [hexMagnitude?, afterTag?, Option.getD_none, magnitude?]
  cases Digit.value? 16 c <;> rfl

theorem digit_of_signed? {c : Char} {i : Int} (read : signed? hexMagnitude? [c] = some i) :
    ∃ d, Digit.value? 16 c = some d ∧ i = (d : Int) := by
  have trimmed : trim [c] = [] ∨ trim [c] = [c] := by
    cases blank : isBlank c <;> simp [trim, blank]
  rw [signed?] at read
  obtain nothing | same := trimmed
  · rw [nothing] at read
    cases read
  · rw [same] at read
    split at read
    · next signed =>
      cases signed
      cases read
    · next signed =>
      cases signed
      cases read
    · rw [hexMagnitude?_singleton] at read
      cases digit : Digit.value? 16 c with
      | none =>
        rw [digit] at read
        cases read
      | some d =>
        rw [digit] at read
        cases read
        exact ⟨d, rfl, rfl⟩

theorem range_of_singleton {point : Nat} {i : Int} (read : hex? [point] = some i) :
    0 ≤ i ∧ i < 16 := by
  obtain ⟨cs, chars, read⟩ := Option.bind_eq_some_iff.1 read
  simp only [CodePoints.toChars?] at chars
  split at chars <;> cases chars
  obtain ⟨d, digit, rfl⟩ := digit_of_signed? read
  have small := Digit.value?_lt digit
  omega

end Numeral

namespace Written

variable {n : Nat} {t : CodePoints}

/-- A way to write a number in base sixteen. -/
structure Spelling (n : Nat) where
  before : CodePoints
  tag : List Char
  zeros : Nat
  digits : List Char
  after : CodePoints
  blank : ∀ point ∈ before ++ after, Blank.isBlank point = true
  tagged : tag = [] ∨ tag = ['0', 'x'] ∨ tag = ['0', 'X']
  shown : List.Forall₂ Numeral.Shows digits (Hex.digits n)

namespace Spelling

def filled (s : Spelling n) : List Char := List.replicate s.zeros '0' ++ s.digits

def text (s : Spelling n) : CodePoints :=
  s.before ++ (s.tag ++ s.filled).map Char.toNat ++ s.after

theorem shows_filled (s : Spelling n) :
    List.Forall₂ Numeral.Shows s.filled (List.replicate s.zeros 0 ++ Hex.digits n) := by
  unfold filled
  induction s.zeros with
  | zero => exact s.shown
  | succ k ih => exact .cons ⟨by decide, .inl rfl⟩ ih

theorem filled_ne_nil (s : Spelling n) : s.filled ≠ [] := by
  intro none
  have shows := s.shows_filled
  rw [none, List.forall₂_nil_left_iff, List.append_eq_nil_iff] at shows
  exact Hex.digits_ne_nil n shows.2

theorem plain (s : Spelling n) : ∀ c ∈ s.tag ++ s.filled, Numeral.Plain c := by
  have shown : Numeral.Shows '0' 0 := ⟨by decide, .inl rfl⟩
  have zero : '0' ∈ Numeral.marks := shown.mem_marks
  have tag : ∀ c ∈ s.tag, c ∈ Numeral.marks := by
    obtain tag | tag | tag := s.tagged <;> rw [tag]
    · nofun
    · exact List.forall_mem_cons.2 ⟨zero, List.forall_mem_singleton.2 List.mem_cons_self⟩
    · exact List.forall_mem_cons.2
        ⟨zero, List.forall_mem_singleton.2 (List.mem_cons_of_mem _ List.mem_cons_self)⟩
  have filled := Numeral.mem_marks_of_shows s.shows_filled
  exact fun c member => Numeral.plain_of_mem_marks (List.forall_mem_append.2 ⟨tag, filled⟩ c member)

theorem hex?_text (s : Spelling n) : Numeral.hex? (Blank.trim s.text) = some (n : Int) := by
  have trimmed : Blank.trim s.text = (s.tag ++ s.filled).map Char.toNat := by
    refine Blank.trim_surrounded s.blank fun point member => ?_
    obtain ⟨c, inside, rfl⟩ := List.mem_map.1 member
    exact (s.plain c inside).kept
  have read := Numeral.hexMagnitude?_tagged s.filled_ne_nil s.tagged
    (s.shows_filled.imp fun _ _ => Numeral.Shows.value?)
  rw [Hex.value_zeros_append, Hex.value_digits] at read
  rw [trimmed, Numeral.hex?_of_plain s.plain read]

theorem colon_not_mem (s : Spelling n) : colon ∉ s.text := by
  obtain ⟨front, behind⟩ := List.forall_mem_append.1 s.blank
  have solid : Blank.isBlank colon = false := by decide
  simp only [text, List.mem_append, not_or]
  refine ⟨⟨fun member => ?_, fun member => ?_⟩, fun member => ?_⟩
  · exact absurd (front _ member) (by rw [solid]; exact Bool.false_ne_true)
  · obtain ⟨c, inside, same⟩ := List.mem_map.1 member
    exact (s.plain c inside).ne_colon same
  · exact absurd (behind _ member) (by rw [solid]; exact Bool.false_ne_true)

end Spelling

theorem hex_eq_ok_iff {i : Int} : hex t = .ok i ↔ Numeral.hex? t = some i := by
  unfold hex
  cases Numeral.hex? t <;> simp

theorem address_eq_ok_iff {a : Nat} :
    address t = .ok a ↔ Numeral.hex? (Blank.trim t) = some (a : Int) ∧ a < 0x1000 := by
  rw [← hex_eq_ok_iff, address]
  cases hex (Blank.trim t) with
  | error fault => simp [bind, Except.bind]
  | ok i =>
    simp only [bind, Except.bind, Except.ok.injEq]
    split <;> simp <;> omega

theorem span_of_no_colon (none : colon ∉ t) : span t = .error .noColon := by
  have apart : ∀ point ∈ t, decide (point ≠ colon) = true := fun point member =>
    decide_eq_true fun same => none (same ▸ member)
  have all : (t ++ []).takeWhile (· ≠ colon) = t ++ [] := List.takeWhile_append_of_pos apart
  rw [List.append_nil] at all
  simp only [span, all, List.drop_length]

theorem span_of_colon {before after : CodePoints} (first : colon ∉ before) :
    span (before ++ colon :: after) = (do
      let first ← address before
      let last ← address after
      if last < first then .error .reversed else .ok (first, last)) := by
  have apart : ∀ point ∈ before, decide (point ≠ colon) = true := fun point member =>
    decide_eq_true fun same => first (same ▸ member)
  have cut : (before ++ colon :: after).takeWhile (· ≠ colon) = before := by
    rw [List.takeWhile_append_of_pos apart, List.takeWhile_cons_of_neg (by simp), List.append_nil]
  simp only [span, cut, List.drop_left]

theorem span_eq_ok_iff {first last : Nat} : span t = .ok (first, last) ↔
    ∃ before after, t = before ++ colon :: after ∧ colon ∉ before ∧
      address before = .ok first ∧ address after = .ok last ∧ first ≤ last := by
  constructor
  · intro done
    by_cases some : colon ∈ t
    · obtain ⟨before, after, rfl, plain⟩ := List.eq_append_cons_of_mem some
      rw [span_of_colon plain] at done
      cases one : address before with
      | error fault =>
        rw [one] at done
        cases done
      | ok a =>
        cases other : address after with
        | error fault =>
          rw [one, other] at done
          cases done
        | ok b =>
          simp only [one, other, bind, Except.bind] at done
          split at done <;> cases done
          exact ⟨before, after, rfl, plain, one, other, by omega⟩
    · rw [span_of_no_colon some] at done
      cases done
  · rintro ⟨before, after, rfl, plain, one, other, ordered⟩
    rw [span_of_colon plain]
    simp only [one, other, bind, Except.bind, if_neg (Nat.not_lt.2 ordered)]

theorem range_of_keys {known : List Int} (done : keys t = .ok known) :
    ∀ key ∈ known, 0 ≤ key ∧ key < 16 := by
  have read : List.Forall₂ (fun point key => hex [point] = .ok key) (Blank.trim t) known :=
    forall₂_mapM done
  clear done
  generalize Blank.trim t = points at read
  induction read with
  | nil => nofun
  | cons first _ ih =>
    exact List.forall_mem_cons.2 ⟨Numeral.range_of_singleton (hex_eq_ok_iff.1 first), ih⟩

end Written

namespace Headless

def pressAll (keys : List Int) (h : Headless) : Except Fault Headless :=
  keys.foldlM (fun h key => h.setKey key true) h

theorem pressAll_eq {h : Headless} {keys : List Int} (room : 16 ≤ h.keys.size)
    (inside : ∀ key ∈ keys, 0 ≤ key ∧ key < 16) : h.pressAll keys =
      .ok (keys.foldl (fun h key => ((h.setKey key true).toOption).getD h) h) := by
  induction keys generalizing h with
  | nil => rfl
  | cons key rest ih =>
    obtain ⟨range, ranges⟩ := List.forall_mem_cons.1 inside
    have pressed : h.setKey key true =
        .ok { h with keys := h.keys.setIfInBounds key.toNat true } := by
      rw [setKey, if_neg (by omega), if_pos (by omega)]
    have kept := Diagnostics.size_keys_setKey h key true
    rw [pressAll, List.foldlM_cons, List.foldl_cons, pressed]
    rw [pressed] at kept
    exact ih (kept ▸ room) ranges

end Headless

namespace Written

theorem address_of_text {a : Nat} (small : a ≤ 0xFFF) (s : Spelling a) :
    address s.text = .ok a :=
  address_eq_ok_iff.2 ⟨s.hex?_text, by omega⟩

/-- Whatever a text is, what is read from it is an address, a span of addresses or keys that a host
can press, or else it is refused; without a colon it is no span. And however the ends of a span are
spelled, they are read. -/
theorem readers_bounded_and_faithful (t : CodePoints) :
    ((∃ fault, address t = .error fault) ∨ ∃ a, address t = .ok a ∧ a ≤ 0xFFF) ∧
    ((∃ fault, span t = .error fault) ∨
      ∃ first last, span t = .ok (first, last) ∧ first ≤ last ∧ last ≤ 0xFFF) ∧
    (colon ∉ t → span t = .error .noColon) ∧
    ((∃ fault, keys t = .error fault) ∨ ∃ known, keys t = .ok known ∧
      List.Forall₂ (fun point key => hex [point] = .ok key) (Blank.trim t) known ∧
      (∀ key ∈ known, 0 ≤ key ∧ key < 16) ∧
      (∀ h : Headless, 16 ≤ h.keys.size → ∃ pressed, h.pressAll known = .ok pressed) ∧
      ({ Headless.fresh with keepFrames := false } : Headless).pressAll known =
        .ok (Diagnostics.hold known)) ∧
    ∀ s e, s ≤ e → e ≤ 0xFFF → ∀ (first : Spelling s) (last : Spelling e),
      span (first.text ++ colon :: last.text) = .ok (s, e) := by
  refine ⟨?_, ?_, span_of_no_colon, ?_, fun s e ordered small first last => ?_⟩
  · cases read : address t with
    | error fault => exact .inl ⟨fault, rfl⟩
    | ok a =>
      have small := (address_eq_ok_iff.1 read).2
      exact .inr ⟨a, rfl, by omega⟩
  · cases read : span t with
    | error fault => exact .inl ⟨fault, rfl⟩
    | ok ends =>
      obtain ⟨_, _, _, _, _, other, ordered⟩ := span_eq_ok_iff.1 read
      have small := (address_eq_ok_iff.1 other).2
      exact .inr ⟨ends.1, ends.2, rfl, ordered, by omega⟩
  · cases read : keys t with
    | error fault => exact .inl ⟨fault, rfl⟩
    | ok known =>
      have inside := range_of_keys read
      exact .inr ⟨known, rfl, forall₂_mapM read, inside,
        fun h room => ⟨_, Headless.pressAll_eq room inside⟩, Headless.pressAll_eq (by decide) inside⟩
  · exact span_eq_ok_iff.2 ⟨first.text, last.text, rfl, first.colon_not_mem,
      address_of_text (Nat.le_trans ordered small) first, address_of_text small last, ordered⟩

def tagged : Spelling 0xAF where
  before := [0x20, 0x3000]
  tag := ['0', 'X']
  zeros := 2
  digits := ['a', 'F']
  after := [0x09]
  blank := by decide
  tagged := .inr (.inr rfl)
  shown := by
    have digits : Hex.digits 0xAF = [0xA, 0xF] := by simp [Hex.digits]
    rw [digits]
    exact .cons ⟨by decide, .inl rfl⟩ (.cons ⟨by decide, .inr rfl⟩ .nil)

def bare : Spelling 0xFFF where
  before := []
  tag := []
  zeros := 0
  digits := ['f', 'F', 'f']
  after := []
  blank := nofun
  tagged := .inl rfl
  shown := by
    have digits : Hex.digits 0xFFF = [0xF, 0xF, 0xF] := by simp [Hex.digits]
    rw [digits]
    exact .cons ⟨by decide, .inl rfl⟩
      (.cons ⟨by decide, .inr rfl⟩ (.cons ⟨by decide, .inl rfl⟩ .nil))

theorem mixed_spellings_read :
    span (.ofString " \u30000X00aF\t:fFf") = .ok (0xAF, 0xFFF) ∧
      colon ∉ CodePoints.ofString "20-2F" ∧ span (.ofString "20-2F") = .error .noColon ∧
      keys (.ofString " 5aF ") = .ok [5, 10, 15] ∧ 16 ≤ Headless.fresh.keys.size ∧
      ∃ pressed, Headless.fresh.pressAll [5, 10, 15] = .ok pressed := by
  have read : keys (.ofString " 5aF ") = .ok [5, 10, 15] := by decide +kernel
  have none : colon ∉ CodePoints.ofString "20-2F" := by decide
  have room : 16 ≤ Headless.fresh.keys.size := by decide
  obtain ⟨_, _, _, listed, spelled⟩ := readers_bounded_and_faithful (.ofString " 5aF ")
  obtain ⟨fault, refused⟩ | ⟨known, accepted, _, _, presses, _⟩ := listed
  · cases read.symm.trans refused
  · cases read.symm.trans accepted
    exact ⟨spelled 0xAF 0xFFF (by decide) (by decide) tagged bare, none,
      (readers_bounded_and_faithful _).2.2.1 none, read, room, presses _ room⟩

end Written

end Chip8
