import Chip8.Proofs.Footprint
import Chip8.Proofs.History

/-! The bytes below the programs over a history. Programs are loaded above them, but nothing keeps
Fx33 and Fx55 from storing there: a glyph is what it was at the start until one of them overwrites
it, and then what the latest of them has stored. -/
namespace Chip8

theorem State.byteAt_initial {a : Nat} (inside : a < 0x50) :
    State.initial.memory.byteAt a = Font.bytes.getD a 0 := by
  have within : a < Font.bytes.length := inside
  have far : a < 0x1000 := by omega
  rw [initial, blankMemory, Memory.byteAt_overwrite_of_inside _ _ _ far, if_pos (Nat.zero_le a),
    Nat.sub_zero, List.getElem?_eq_getElem within, List.getD_eq_getElem?_getD,
    List.getElem?_eq_getElem within]
  rfl

def State.block (ins : Instruction) (s : State) : List UInt8 :=
  let b := s.v.byte ins.x
  match ins.operation with
  | .decimal => [b / 100, b / 10 % 10, b % 10]
  | .save => s.v.toList.take (ins.x.val + 1)
  | _ => []

theorem State.memoryAfter_eq (s : State) (ins : Instruction) :
    s.memoryAfter ins = s.memory.overwrite s.i.toNat (s.block ins) := by
  unfold memoryAfter block
  cases ins.operation <;> rfl

namespace Completion

/-- The byte that a completed instruction has stored at an address, if it has. -/
def storedAt? (c : Completion) (a : Nat) : Option UInt8 :=
  if c.before.i ≤ a then (c.before.block c.instruction)[a - c.before.i.toNat]? else none

variable {a : Nat}

theorem storedAt?_eq_some {c : Completion} {b : UInt8} (stored : c.storedAt? a = some b) :
    (c.instruction.operation = .decimal ∨ c.instruction.operation = .save) ∧ c.before.i ≤ a := by
  unfold storedAt? at stored
  split at stored
  · next above =>
    refine ⟨?_, above⟩
    cases operation : c.instruction.operation with
    | decimal => exact .inl rfl
    | save => exact .inr rfl
    | _ =>
      rw [State.block, operation] at stored
      cases stored
  · cases stored

def retain (a : Nat) (b : UInt8) (c : Completion) : UInt8 := (c.storedAt? a).getD b

theorem foldl_retain (past : List Completion) (b : UInt8) :
    (∀ c ∈ past, c.storedAt? a = none) ∧ past.foldl (retain a) b = b ∨
      ∃ first c later value, past = first ++ c :: later ∧ c.storedAt? a = some value ∧
        (∀ d ∈ later, d.storedAt? a = none) ∧ past.foldl (retain a) b = value :=
  foldl_latest (fun c => c.storedAt? a) past b

end Completion

theorem recounts_byteAt (ρ : Type) [RandomSource ρ] {a : Nat} (below : a < State.programStart) :
    Recounts ρ (fun s => s.memory.byteAt a) (Completion.retain a) where
  executed {s t r after ins} whole done := by
    obtain ⟨_, _, drawn, _, rfl⟩ := (State.execute_eq_ok_iff whole _ _ _ _).1 done
    have far : a < 0x1000 := by
      unfold State.programStart at below
      omega
    have low := whole.i_nonneg
    have same : s.i ≤ a ↔ s.i.toNat ≤ a := by omega
    simp only [State.effect, State.memoryAfter_eq, Memory.byteAt_overwrite_of_inside _ _ _ far,
      Completion.retain, Completion.storedAt?, same]
  aside _ _ _ _ _ := rfl
  loaded placed := Program.byteAt_place placed (.inl below)

namespace Deed

variable {ρ κ ε : Type} [RandomSource ρ]

/-- A byte of the font table is what it is on a fresh machine, unless Fx33 or Fx55 has stored at its
address; then it is what the latest of these instructions has stored there. -/
theorem font_kept_until_stored (random : ρ) (world : κ) (deeds : List (Deed κ ε)) {a : Nat}
    (inside : a < 0x50) :
    let m := all deeds (.start random world)
    let past := past deeds (.start random world)
    (∀ c ∈ past, c.storedAt? a = none) ∧ m.state.memory.byteAt a = Font.bytes.getD a 0 ∨
      ∃ first c later b, past = first ++ c :: later ∧ c.storedAt? a = some b ∧
        (c.instruction.operation = .decimal ∨ c.instruction.operation = .save) ∧
        c.before.i ≤ (a : Int) ∧ (∀ d ∈ later, d.storedAt? a = none) ∧
        m.state.memory.byteAt a = b := by
  intro m past
  have below : a < State.programStart := by
    unfold State.programStart
    omega
  have recounted := (recounts_byteAt ρ below).all deeds (m := .start random world)
    State.sound_initial.toWellFormed
  have fresh : (Session.start random world).state.memory.byteAt a = Font.bytes.getD a 0 :=
    State.byteAt_initial inside
  rw [fresh] at recounted
  obtain ⟨unstored, same⟩ | ⟨first, c, later, b, split, stored, unstored, same⟩ :=
    Completion.foldl_retain past (Font.bytes.getD a 0)
  · exact .inl ⟨unstored, recounted.trans same⟩
  · obtain ⟨operation, above⟩ := Completion.storedAt?_eq_some stored
    exact .inr ⟨first, c, later, b, split, stored, operation, above, unstored,
      recounted.trans same⟩

def overwriting : List (Deed Unit Empty) :=
  [.loadImage [0xA0, 0x00, 0x60, 0x12, 0xF0, 0x55] [], .step ⟨none, none⟩, .step ⟨none, none⟩,
    .step ⟨none, none⟩]

theorem glyph_overwritten :
    (all overwriting (.start (Script.ofArray #[]) ())).state.memory.byteAt 0 = 0x12 ∧
      Font.bytes.getD 0 0 = 0xF0 := by
  decide +kernel

theorem next_row_kept :
    (all overwriting (.start (Script.ofArray #[]) ())).state.memory.byteAt 1 = 0x90 := by
  have unstored : ∀ c ∈ past overwriting (.start (Script.ofArray #[]) ()),
      c.storedAt? 1 = none := by
    decide +kernel
  obtain ⟨_, kept⟩ | ⟨first, c, later, b, split, stored, _⟩ :=
    font_kept_until_stored (Script.ofArray #[]) () overwriting (a := 1) (by decide)
  · exact kept.trans rfl
  · rw [unstored c (split ▸ List.mem_append_right first List.mem_cons_self)] at stored
    cases stored

end Deed

end Chip8
