import Chip8.Player
import Chip8.Proofs.Events

/-! Keymap files. The members of a document are read in order, up to the first that gives no key.
Most mistakes are foreseen, and the player complains about them; a member of which no number can be
made at all, and one that is infinite, are not, and the player fails. -/
namespace Chip8

variable {ρ : Type} [RandomSource ρ]

namespace Keymap

/-- The number that a value stands for. -/
inductive Stands : Json → Int → Prop
  | text {t : CodePoints} {key : Int} (digits : Numeral.hex? t = some key) : Stands (.text t) key
  | truth (b : Bool) : Stands (.truth b) (if b then 1 else 0)
  | whole (i : Int) : Stands (.number (.whole i)) i
  | real (q : Rat) : Stands (.number (.real (.finite q))) (Binary64.truncate q)
  | negativeZero : Stands (.number (.real .negativeZero)) 0

def IsKey (value : Json) : Prop := ∃ key, Stands value key ∧ 0 ≤ key ∧ key < 16

def foreseen : Json → Bool
  | .null | .list _ | .object _ | .number (.real (.infinite _)) => false
  | .truth _ | .text _ | .number _ => true

/-- A document that is no keymap, and whether the first mistake in it is foreseen. -/
inductive Wrong : Json → Bool → Prop
  | document {j : Json} (other : ∀ members, j ≠ .object members) : Wrong j true
  | member {before after : List (CodePoints × Json)} {name : CodePoints} {value : Json}
      (fine : ∀ earlier ∈ before, IsKey earlier.2) (bad : ¬ IsKey value) :
      Wrong (.object (before ++ (name, value) :: after)) (foreseen value)

section Entries

variable {name known : CodePoints} {value : Json} {key : Int}
  {members : List (CodePoints × Json)} {keymap : Keymap} {fault : Fault}

theorem keyOf_eq_ok_iff : keyOf value = .ok key ↔ Stands value key := by
  constructor
  · intro done
    cases value with
    | null | list _ | object _ => cases done
    | truth b =>
      cases done
      exact .truth b
    | text t =>
      simp only [keyOf] at done
      split at done <;> cases done
      exact .text ‹_›
    | number n =>
      cases n with
      | whole i =>
        cases done
        exact .whole _
      | real x =>
        cases x <;> cases done
        · exact .real _
        · exact .negativeZero
  · intro stands
    cases stands with
    | text digits => simp only [keyOf, digits]
    | truth _ | whole _ | real _ | negativeZero => rfl

theorem entry_eq_ok_iff :
    entry name value = .ok (known, key) ↔ known = name ∧ Stands value key ∧ 0 ≤ key ∧ key < 16 := by
  rw [← keyOf_eq_ok_iff]
  constructor
  · intro done
    cases read : keyOf value with
    | error cause => simp [entry, read, bind, Except.bind] at done
    | ok found =>
      simp only [entry, read, bind, Except.bind] at done
      split at done <;> cases done
      exact ⟨rfl, rfl, ‹_›⟩
  · rintro ⟨rfl, read, small⟩
    simp only [entry, read, bind, Except.bind, if_pos small]

theorem not_isKey_of_entry (fails : entry name value = .error fault) : ¬ IsKey value := by
  rintro ⟨key, stands, small⟩
  rw [entry_eq_ok_iff.2 ⟨rfl, stands, small⟩] at fails
  cases fails

theorem isExpected_of_truncate {n : Number} {cause : Number.Fault}
    (fails : n.truncate = .error cause) :
    (Fault.number cause).isExpected = foreseen (.number n) := by
  cases n with
  | whole i => cases fails
  | real x => cases x <;> cases fails <;> rfl

theorem isExpected_of_keyOf (fails : keyOf value = .error fault) :
    fault.isExpected = foreseen value := by
  cases value with
  | null | list _ | object _ => cases fails; rfl
  | truth b => cases fails
  | text t =>
    simp only [keyOf] at fails
    split at fails <;> cases fails
    rfl
  | number n =>
    cases whole : n.truncate with
    | ok key => simp [keyOf, whole, Except.mapError] at fails
    | error cause =>
      simp only [keyOf, whole, Except.mapError, Except.error.injEq] at fails
      rw [← fails, isExpected_of_truncate whole]

theorem Stands.foreseen (stands : Stands value key) : foreseen value = true := by
  cases stands <;> rfl

theorem isExpected_of_entry (fails : entry name value = .error fault) :
    fault.isExpected = foreseen value := by
  cases read : keyOf value with
  | error cause =>
    simp only [entry, read, bind, Except.bind, Except.error.injEq] at fails
    rw [← fails, isExpected_of_keyOf read]
  | ok found =>
    simp only [entry, read, bind, Except.bind] at fails
    split at fails <;> cases fails
    exact (keyOf_eq_ok_iff.1 read).foreseen.symm

theorem entries_of_ofJson (done : ofJson (.object members) = .ok keymap) :
    keymap.map Prod.fst = members.map Prod.fst ∧
      List.Forall₂ (fun member entry => Stands member.2 entry.2) members keymap ∧
      ∀ entry ∈ keymap, 0 ≤ entry.2 ∧ entry.2 < 16 := by
  have related := forall₂_mapM done
  clear done
  induction related with
  | nil => simp
  | cons first _ ih =>
    obtain ⟨named, stands, small⟩ := entry_eq_ok_iff.1 first
    obtain ⟨names, keys, others⟩ := ih
    exact ⟨by rw [List.map_cons, List.map_cons, named, names], .cons stands keys,
      List.forall_mem_cons.2 ⟨small, others⟩⟩

theorem wrong_of_mapM {before : List (CodePoints × Json)}
    (fine : ∀ earlier ∈ before, IsKey earlier.2)
    (fails : (members.mapM fun member => entry member.1 member.2) = .error fault) :
    Wrong (.object (before ++ members)) fault.isExpected := by
  induction members generalizing before with
  | nil => cases fails
  | cons member rest ih =>
    rw [List.mapM_cons] at fails
    cases first : entry member.1 member.2 with
    | error cause =>
      rw [first] at fails
      cases fails
      rw [isExpected_of_entry first]
      exact .member fine (not_isKey_of_entry first)
    | ok known =>
      obtain ⟨_, key⟩ := entry_eq_ok_iff.1 first
      cases others : rest.mapM fun member => entry member.1 member.2 with
      | ok keymap =>
        rw [first, others] at fails
        cases fails
      | error cause =>
        rw [first, others] at fails
        cases fails
        have fine : ∀ earlier ∈ before ++ [member], IsKey earlier.2 :=
          List.forall_mem_append.2 ⟨fine, List.forall_mem_singleton.2 ⟨_, key⟩⟩
        have wrong := ih fine others
        rwa [List.append_assoc] at wrong

theorem ofJson_cases (j : Json) :
    (∃ members keymap, j = .object members ∧ ofJson j = .ok keymap) ∨
      ∃ fault, ofJson j = .error fault ∧ Wrong j fault.isExpected := by
  cases j with
  | object members =>
    cases read : ofJson (.object members) with
    | ok keymap => exact .inl ⟨members, keymap, rfl, rfl⟩
    | error fault => exact .inr ⟨fault, rfl, @wrong_of_mapM members fault [] (by simp) read⟩
  | null | truth _ | number _ | text _ | list _ => exact .inr ⟨_, rfl, .document (by simp)⟩

/-- A file of a disk holds a document, whose containers lie at most `depth` deep. -/
def Holds (depth : Nat) (disk : Disk) (path : Path) (j : Json) : Prop :=
  ∃ bytes cs, disk.read path = .ok bytes ∧ Utf8.decode bytes = .ok cs ∧
    Json.parse depth (Utf8.unifyLines cs) = .ok j

theorem Holds.load {depth : Nat} {disk : Disk} {path : Path} {j : Json}
    (holds : Holds depth disk path j) : load depth disk path = ofJson j := by
  obtain ⟨bytes, cs, found, decoded, parsed⟩ := holds
  simp only [Keymap.load, found, decoded, ofText, parsed, Except.mapError, bind, Except.bind]

end Entries

end Keymap

namespace Player

/-- The player complains about a keymap and does nothing else. -/
def complained (fault : Keymap.Fault) (disk : Disk) : Result :=
  ⟨.code 1, "", complaint "Failed to load keymap: " fault.message, disk, []⟩

/-- The player fails since a mistake in a keymap was not foreseen. -/
def failed (fault : Keymap.Fault) (disk : Disk) : Result :=
  ⟨.escaped (.keymap fault), "", [], disk, []⟩

theorem play_of_fault {o : Options} {depth : Nat} {disk : Disk} {fault : Keymap.Fault}
    (bad : o.keymap? depth disk = .error fault) (traced : Bool) (seeded : Option Int → ρ)
    (patience : Nat) (desktop : Desktop) :
    play o traced seeded patience depth desktop disk =
      if fault.isExpected then complained fault disk else failed fault disk := by
  simp only [play, bad]
  rfl

/-- A document gives a keymap with its names and with keys that the machine has, and then no event
fails; or something is wrong with it. The player complains if the first mistake is foreseen, but it
fails if that is a value which is null, a list, an object or infinite. -/
theorem keymap_file_judged {o : Options} {file : CodePoints} {depth : Nat} {disk : Disk} {j : Json}
    (named : o.keymap = some file) (holds : Keymap.Holds depth disk (Path.ofText file) j)
    (traced : Bool) (seeded : Option Int → ρ) (patience : Nat) (desktop : Desktop) :
    (∃ members keymap, j = .object members ∧ o.keymap? depth disk = .ok keymap ∧
      keymap.map Prod.fst = members.map Prod.fst ∧
      List.Forall₂ (fun member entry => Keymap.Stands member.2 entry.2) members keymap ∧
      (∀ entry ∈ keymap, 0 ≤ entry.2 ∧ entry.2 < 16) ∧
      (∀ keyCode interval w, Window.Opened keyCode keymap interval w →
        ∀ events, ∃ after, Window.handleAll events w = .ok () after) ∧
      ∀ scale interval audio attached caption desktop w opened,
        Window.create scale interval keymap audio caption desktop = .ok w →
        Window.openUp { w with attached } = .ok () opened →
        ∀ events, ∃ after, Window.handleAll events opened = .ok () after) ∨
    ∃ fault expected, o.keymap? depth disk = .error fault ∧ Keymap.Wrong j expected ∧
      play o traced seeded patience depth desktop disk =
        if expected then complained fault disk else failed fault disk := by
  have loaded : o.keymap? depth disk = Keymap.ofJson j := by
    rw [Options.keymap?, named]
    exact holds.load
  obtain ⟨members, keymap, rfl, read⟩ | ⟨fault, bad, wrong⟩ := Keymap.ofJson_cases j
  · obtain ⟨names, keys, small⟩ := Keymap.entries_of_ofJson read
    refine .inl ⟨members, keymap, rfl, loaded.trans read, names, keys, small, ?_, ?_⟩
    · exact fun keyCode interval w opened events =>
        ⟨_, Window.handleAll_eq (opened.ready small) events⟩
    · intro scale interval audio attached caption desktop w opened created opens events
      exact ⟨_, Window.handleAll_eq (Window.ready_of_openUp small created opens) events⟩
  · exact .inr ⟨fault, _, loaded.trans bad, wrong,
      play_of_fault (loaded.trans bad) traced seeded patience desktop⟩

section Examples

def mapped (document : String) : Disk :=
  ((Disk.empty.write (.ofText (.ofString "k.json")) document.toUTF8.toList).toOption).getD .empty

theorem exists_holds {document : String}
    (text : (mapped document).read (.ofText (.ofString "k.json")) = .ok document.toUTF8.toList)
    (parsed : ((Utf8.decode document.toUTF8.toList).toOption.bind fun cs =>
      (Json.parse 1 (Utf8.unifyLines cs)).toOption).isSome = true) :
    ∃ j, Keymap.Holds 1 (mapped document) (.ofText (.ofString "k.json")) j := by
  obtain ⟨j, found⟩ := Option.isSome_iff_exists.1 parsed
  obtain ⟨cs, decoded, parsed⟩ := Option.bind_eq_some_iff.1 found
  exact ⟨j, _, cs, text, ok_of_toOption decoded, ok_of_toOption parsed⟩

def withKeymap : Options :=
  ⟨.ofString "p.ch8", 10, some (.ofString "k.json"), .absent, false, false, false⟩

def keyCode? : CodePoints → Option Int
  | [point] => some point
  | name => if name = .ofString "up" then some 1073741906 else none

def desktop : Desktop := ⟨keyCode?, 4410, true, true, false, [], [], #[]⟩

def upAndQ : String := "\x7b\"up\": 2, \"q\": \"f\"\x7d"

theorem number_and_text_read :
    ∃ keymap w opened after,
      withKeymap.keymap? 1 (mapped upAndQ) = .ok keymap ∧ keymap.map Prod.snd = [2, 15] ∧
      Window.create 10 16 keymap true [] desktop = .ok w ∧
      Window.openUp { w with attached := true } = .ok () opened ∧
      Window.handleAll [.keyDown 113, .keyUp 113] opened = .ok () after := by
  obtain ⟨j, holds⟩ := @exists_holds upAndQ (by decide +kernel) (by decide +kernel)
  have read : withKeymap.keymap? 1 (mapped upAndQ) =
      .ok [(.ofString "up", 2), (.ofString "q", 15)] := by
    decide +kernel
  obtain ⟨members, keymap, _, known, _, _, _, _, handles⟩ | ⟨fault, _, bad, _⟩ :=
    keymap_file_judged (o := withKeymap) rfl holds false (fun _ => Script.ofArray #[]) 0 desktop
  · cases read.symm.trans known
    obtain ⟨w, opened, created, opens⟩ : ∃ w opened,
        Window.create 10 16 [(.ofString "up", 2), (.ofString "q", 15)] true [] desktop = .ok w ∧
        Window.openUp { w with attached := true } = .ok () opened := ⟨_, _, rfl, rfl⟩
    obtain ⟨after, handled⟩ := handles _ _ _ _ _ _ _ _ created opens _
    exact ⟨_, w, opened, after, read, rfl, created, opens, handled⟩
  · cases read.symm.trans bad

def nullKey : String := "\x7b\"a\": null\x7d"

theorem null_escapes :
    (∃ j, Keymap.Holds 1 (mapped nullKey) (.ofText (.ofString "k.json")) j) ∧
      ((run (["p.ch8", "--keymap", "k.json"].map .ofString) false (fun _ => Script.ofArray #[]) 0 1
        desktop (mapped nullKey)).exit matches .escaped (.keymap (.noKey .null))) :=
  ⟨exists_holds (by decide +kernel) (by decide +kernel), by decide +kernel⟩

end Examples

end Player

end Chip8
