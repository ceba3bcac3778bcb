import Chip8.Proofs.Reachable
import Chip8.Proofs.Sprite
import Chip8.Proofs.Standstill

/-! Which cycles fault, and why. Every reason is a condition on the machine before the cycle. At
most one of them holds, and a cycle without a reason completes. -/
namespace Chip8

namespace State

/-- The cells under the set bits of the sprite at I that an instruction would draw. -/
def SpriteCell (s : State) (ins : Instruction) (cell : Nat) : Prop :=
  ∃ row column, row < ins.n ∧ column < 8 ∧
    (s.memory.byteAt (s.i.toNat + row)).toNat.testBit (7 - column) = true ∧
    cell = (s.v.byte ins.x).toNat + column + ((s.v.byte ins.y).toNat + row) * 64

/-- Why an instruction that was fetched is refused. -/
inductive Refuses (s : State) (ins : Instruction) : Fault → Prop
  | call (operation : ins.operation = .call) (full : s.sp = 16) :
      Refuses s ins (.stackOverflow s.pc)
  | ret (operation : ins.operation = .ret) (empty : s.sp = 0) :
      Refuses s ins (.stackUnderflow s.pc)
  | key (operation : ins.operation = .skipIfPressed ∨ ins.operation = .skipUnlessPressed)
      (large : 16 ≤ (s.v.byte ins.x).toNat) : Refuses s ins .noSuchKey
  | block {length : Nat} (asked : ins.blockLength? = some length) (past : 0x1000 < s.i + length) :
      Refuses s ins (.pastEnd length s.i)
  | sprite {cell : Nat} (operation : ins.operation = .draw) (fits : s.i + ins.n ≤ 0x1000)
      (lit : s.SpriteCell ins cell) (below : 2048 ≤ cell)
      (least : ∀ other, s.SpriteCell ins other → 2048 ≤ other → cell ≤ other) :
      Refuses s ins (.spriteOutside cell)

/-- Why a machine cannot complete its next cycle. -/
inductive Faults (s : State) : Fault → Prop
  | fetch (past : 0xFFF ≤ s.pc) : Faults s (.memory .outside)
  | word (inside : s.pc < 0xFFF) (unknown : ∀ op : Operation, ¬ op.pattern.Matches s.word) :
      Faults s (.invalidWord s.word)
  | refused {ins : Instruction} {fault : Fault} (faces : s.Faces ins)
      (refuses : s.Refuses ins fault) : Faults s fault

variable {s : State}

theorem blockRefusal?_eq_some_iff (count : Nat) (fault : Fault) :
    s.blockRefusal? count = some fault ↔ 0x1000 < s.i + count ∧ fault = .pastEnd count s.i := by
  unfold blockRefusal?
  split <;> simp [*, eq_comm]

theorem mem_cellsOf (whole : s.WellFormed) {ins : Instruction} (fits : s.i + ins.n ≤ 0x1000)
    (cell : Nat) : cell ∈ s.cellsOf ins ↔ s.SpriteCell ins cell := by
  rw [cellsOf, Sprite.mem_cells, readAtIndex_of_fits whole.i_nonneg fits]
  unfold SpriteCell
  constructor
  · rintro ⟨row, bits, column, inside, narrow, lit, rfl⟩
    have short : row < ins.n := by
      have := (List.getElem?_eq_some_iff.1 inside).1
      simpa using this
    simp only [List.getElem?_map, List.getElem?_range short, Option.map_some,
      Option.some.injEq] at inside
    exact ⟨row, column, short, narrow, inside ▸ lit, by omega⟩
  · rintro ⟨row, column, short, narrow, lit, rfl⟩
    refine ⟨row, _, column, ?_, narrow, lit, by omega⟩
    simp only [List.getElem?_map, List.getElem?_range short, Option.map_some]

theorem find?_cellsOf_eq_some_iff (whole : s.WellFormed) {ins : Instruction}
    (fits : s.i + ins.n ≤ 0x1000) (cell : Nat) :
    (s.cellsOf ins).find? (2048 ≤ ·) = some cell ↔
      s.SpriteCell ins cell ∧ 2048 ≤ cell ∧
        ∀ other, s.SpriteCell ins other → 2048 ≤ other → cell ≤ other := by
  have ascending : (s.cellsOf ins).Pairwise (· < ·) := Sprite.ascending_cells _ _
  rw [find?_eq_some_iff_least ascending]
  simp only [mem_cellsOf whole fits, decide_eq_true_eq]

theorem Sound.refuses_of_refusal? (sound : s.Sound) {ins : Instruction} {fault : Fault}
    (refused : s.refusal? ins = some fault) : s.Refuses ins fault := by
  have whole := sound.toWellFormed
  have block {length : Nat} (asked : ins.blockLength? = some length)
      (refused : s.blockRefusal? length = some fault) : s.Refuses ins fault := by
    obtain ⟨past, rfl⟩ := (blockRefusal?_eq_some_iff _ _).1 refused
    exact .block asked past
  obtain ⟨op, word⟩ := ins
  cases op with
  | ret =>
    dsimp only [refusal?] at refused
    split at refused <;> cases refused
    next empty => exact .ret rfl empty
  | call =>
    dsimp only [refusal?] at refused
    split at refused <;> cases refused
    next full =>
      have high := whole.sp_le
      exact .call rfl (by omega)
  | draw =>
    obtain past | ⟨allowed, outside⟩ := Option.or_eq_some_iff.1 refused
    · exact block rfl past
    · have fits := fits_of_blockRefusal? allowed
      obtain ⟨cell, found, rfl⟩ := Option.map_eq_some_iff.1 outside
      obtain ⟨lit, below, least⟩ := (find?_cellsOf_eq_some_iff whole fits cell).1 found
      exact .sprite rfl fits lit below least
  | skipIfPressed =>
    dsimp only [refusal?] at refused
    split at refused <;> cases refused
    next large => exact .key (.inl rfl) large
  | skipUnlessPressed =>
    dsimp only [refusal?] at refused
    split at refused <;> cases refused
    next large => exact .key (.inr rfl) large
  | readDelay =>
    have range := sound.delay
    dsimp only [refusal?] at refused
    rw [if_pos (by omega)] at refused
    cases refused
  | decimal | save | restore => exact block rfl refused
  | _ => cases refused

theorem Sound.refusal?_of_refuses (sound : s.Sound) {ins : Instruction} {fault : Fault}
    (refuses : s.Refuses ins fault) : s.refusal? ins = some fault := by
  have whole := sound.toWellFormed
  cases refuses with
  | call operation full => rw [refusal?, operation, full]; rfl
  | ret operation empty => rw [refusal?, operation, empty]; rfl
  | key operation large =>
    obtain operation | operation := operation
    · simp only [refusal?, operation, large, if_true]
    · simp only [refusal?, operation, large, if_true]
  | @block length asked past =>
    have refused : s.blockRefusal? length = some (.pastEnd length s.i) :=
      (blockRefusal?_eq_some_iff _ _).2 ⟨past, rfl⟩
    unfold Instruction.blockLength? at asked
    split at asked <;> cases asked
    · next operation => rw [refusal?, operation, ← refused, spriteRefusal?, refused, Option.some_or]
    · next operation => rw [refusal?, operation, refused]
    · next operation => rw [refusal?, operation, refused]
    · next operation => rw [refusal?, operation, refused]
  | @sprite cell operation fits lit below least =>
    have allowed : s.blockRefusal? ins.n = none := by rw [blockRefusal?, if_neg (by omega)]
    have found : (s.cellsOf ins).find? (2048 ≤ ·) = some cell :=
      (find?_cellsOf_eq_some_iff whole fits cell).2 ⟨lit, below, least⟩
    simp only [refusal?, operation, spriteRefusal?, allowed, found, Option.none_or, Option.map_some]

theorem Sound.fault?_eq_some_iff (sound : s.Sound) (fault : Fault) :
    s.fault? = some fault ↔ s.Faults fault := by
  have whole := sound.toWellFormed
  constructor
  · intro known
    unfold fault? at known
    split at known
    · next found =>
      cases known
      obtain ⟨past, rfl⟩ | ⟨inside, unknown, rfl⟩ := (whole.instruction_eq_error_iff _).1 found
      · exact .fetch past
      · exact .word inside unknown
    · next ins found =>
      exact .refused ((whole.instruction_eq_ok_iff ins).1 found) (sound.refuses_of_refusal? known)
  · intro faults
    unfold fault?
    cases faults with
    | fetch past => rw [(whole.instruction_eq_error_iff _).2 (.inl ⟨past, rfl⟩)]
    | word inside unknown =>
      rw [(whole.instruction_eq_error_iff _).2 (.inr ⟨inside, unknown, rfl⟩)]
    | refused faces refuses =>
      rw [(whole.instruction_eq_ok_iff _).2 faces]
      exact sound.refusal?_of_refuses refuses

end State

namespace Session

variable {ρ κ ε : Type} [RandomSource ρ]

/-- An instruction fails iff there is a reason, and for that reason; otherwise it completes. There
are no other failures: all numbers that index something are counted from its start, and a block
that was not refused is read as a whole. -/
theorem Reachable.execute_fails_iff (total : RandomSource.Total ρ) {m : Session ρ κ}
    (reached : Reachable ε m) :
    (∀ (e : Failure ε) after,
      execute m = .error e after ↔ ∃ f, m.state.Faults f ∧ e = .fault f ∧ after = m) ∧
    ((∃ after, (execute : Step ρ κ ε Unit) m = .ok () after) ↔ ∀ f, ¬ m.state.Faults f) ∧
    0 ≤ m.state.pc ∧ 0 ≤ m.state.i ∧ 0 ≤ m.state.sp ∧
    ∀ count : Nat, m.state.i + count ≤ 0x1000 →
      m.state.readAtIndex count =
        (List.range count).map fun k => m.state.memory.byteAt (m.state.i.toNat + k) := by
  have sound := reached.sound
  have whole := sound.toWellFormed
  have fails (e : Failure ε) (after : Session ρ κ) :
      execute m = .error e after ↔ ∃ f, m.state.Faults f ∧ e = .fault f ∧ after = m := by
    constructor
    · intro failed
      obtain ⟨same, f, reason, known⟩ := execute_of_fault whole total failed
      exact ⟨f, (sound.fault?_eq_some_iff f).1 known, reason, same⟩
    · rintro ⟨f, faults, rfl, rfl⟩
      exact execute_of_fault? whole total ((sound.fault?_eq_some_iff f).2 faults)
  refine ⟨fails, ?_, whole.pc_nonneg, whole.i_nonneg, whole.sp_nonneg, fun count fits => ?_⟩
  · constructor
    · rintro ⟨after, done⟩ f faults
      rw [(fails _ _).2 ⟨f, faults, rfl, rfl⟩] at done
      cases done
    · intro allowed
      cases executed : (execute : Step ρ κ ε Unit) m with
      | ok _ after => exact ⟨after, rfl⟩
      | error e after =>
        obtain ⟨f, faults, _⟩ := (fails _ _).1 executed
        exact absurd faults (allowed f)
  · exact State.readAtIndex_of_fits whole.i_nonneg fits

theorem returning_fails : (execute : Step Twister Unit Empty Unit) returning =
    .error (.fault (.stackUnderflow 0x200)) returning := by
  have reached : Reachable Empty returning := .act (.fresh _ _) (.loadImage _ _ _)
  have pc : returning.state.pc = 0x200 := by rw [returning_state]; rfl
  have word : returning.state.word = 0x00EE := by
    rw [returning_state]
    decide +kernel
  have faces : returning.state.Faces ⟨.ret, 0x00EE⟩ :=
    ⟨by rw [pc]; decide, by rw [word]; rfl, by rw [word]; exact ⟨rfl, rfl⟩⟩
  have faults : returning.state.Faults (.stackUnderflow returning.state.pc) :=
    .refused faces (.ret rfl (by rw [returning_state]; rfl))
  rw [pc] at faults
  exact ((Reachable.execute_fails_iff twister_total reached).1 _ _).2 ⟨_, faults, rfl, rfl⟩

end Session

end Chip8
