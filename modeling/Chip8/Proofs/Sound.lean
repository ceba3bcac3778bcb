import Chip8.Proofs.Blocks

/-! What holds of a machine whatever program it runs. The numbers of a machine in working order
stay in their ranges; those of a machine that was set up fresh stay in narrower ones, by an
invariant whose parts need each other: the program counter is small because return addresses
are, and these are because a call was fetched before it is made. -/
namespace Chip8

namespace State

variable {s : State}

theorem fits_of_blockRefusal? {count : Nat} (allowed : s.blockRefusal? count = none) :
    s.i + count ≤ 0x1000 := by
  simp only [blockRefusal?, ite_eq_right_iff, reduceCtorEq, imp_false] at allowed
  omega

theorem readAtIndex_of_fits {count : Nat} (low : 0 ≤ s.i) (fits : s.i + count ≤ 0x1000) :
    s.readAtIndex count = (List.range count).map fun k => s.memory.byteAt (s.i.toNat + k) :=
  s.memory.readBlock_of_fits low fits

/-- A machine that was set up fresh, after anything that can happen to it. -/
structure Sound (s : State) : Prop extends s.WellFormed where
  pc_le_top : s.pc ≤ 0x10FE
  slots : ∀ k : Fin 16, 0 ≤ s.stack[k] ∧ s.stack[k] ≤ 0xFFE
  delay : 0 ≤ s.delay ∧ s.delay ≤ 0xFF
  sound : 0 ≤ s.sound ∧ s.sound ≤ 0xFF
  opcode : 0 ≤ s.opcode ∧ s.opcode ≤ 0xFFFF

theorem sound_initial : initial.Sound where
  full := Registers.full_zeros
  sp_nonneg := by decide
  sp_le := by decide
  i_nonneg := by decide
  i_le := by decide
  pc_nonneg := by decide
  pc_le := by decide
  pc_le_top := by decide
  slots k := by simp [initial]
  delay := by decide
  sound := by decide
  opcode := by decide

section Effect

variable {ins : Instruction} (drawn : Int)

theorem WellFormed.full_registersAfter (whole : s.WellFormed) (allowed : s.refusal? ins = none) :
    (s.registersAfter ins drawn).Full := by
  have full := whole.full
  obtain ⟨op, word⟩ := ins
  cases op with
  | awaitKey =>
    simp only [registersAfter]
    split
    · exact (Registers.full_put _ _).2 full
    · exact full
  | restore =>
    have fits := fits_of_blockRefusal? allowed
    refine full.replaceFirst (by omega) ?_
    rw [readAtIndex_of_fits whole.i_nonneg fits, List.length_map, List.length_range]
  | _ => simpa [registersAfter] using full

theorem WellFormed.spAfter_range (whole : s.WellFormed) (allowed : s.refusal? ins = none) :
    0 ≤ s.spAfter ins ∧ s.spAfter ins ≤ 16 := by
  have low := whole.sp_nonneg
  have high := whole.sp_le
  obtain ⟨op, word⟩ := ins
  cases op with
  | ret =>
    simp only [refusal?, ite_eq_right_iff, reduceCtorEq, imp_false] at allowed
    simp only [spAfter]
    omega
  | call =>
    simp only [refusal?, ite_eq_right_iff, reduceCtorEq, imp_false] at allowed
    simp only [spAfter]
    omega
  | _ => exact ⟨low, high⟩

theorem WellFormed.indexAfter_range (whole : s.WellFormed) (ins : Instruction) :
    0 ≤ s.indexAfter ins ∧ s.indexAfter ins ≤ 0xFFFF := by
  have low := whole.i_nonneg
  have high := whole.i_le
  have nnn := ins.nnn_lt
  have byte := (s.v.byte ins.x).toNat_lt
  unfold indexAfter Font.height
  split <;> omega

theorem WellFormed.effect (whole : s.WellFormed) (allowed : s.refusal? ins = none) :
    (s.effect ins drawn).WellFormed where
  full := whole.full_registersAfter drawn allowed
  sp_nonneg := (whole.spAfter_range allowed).1
  sp_le := (whole.spAfter_range allowed).2
  i_nonneg := (whole.indexAfter_range ins).1
  i_le := (whole.indexAfter_range ins).2
  pc_nonneg := by dsimp only [State.effect]; omega
  pc_le := by dsimp only [State.effect]; omega

theorem Sound.slots_stackAfter (sound : s.Sound) (inside : s.pc < 0xFFF) (k : Fin 16) :
    0 ≤ (s.stackAfter ins)[k] ∧ (s.stackAfter ins)[k] ≤ 0xFFE := by
  unfold stackAfter
  split
  · have low := sound.pc_nonneg
    have old := sound.slots k
    simp only [Fin.getElem_fin, Vector.getElem_setIfInBounds]
    split
    · omega
    · exact old
  · exact sound.slots k

theorem Sound.top_range (sound : s.Sound) : 0 ≤ s.top ∧ s.top ≤ 0xFFE := by
  unfold top
  generalize (s.sp - 1).toNat = k
  by_cases inside : k < 16
  · rw [Vector.getElem?_eq_getElem inside, Option.getD_some]
    exact sound.slots ⟨k, inside⟩
  · rw [Vector.getElem?_eq_none (by omega), Option.getD_none]
    decide

theorem Sound.target_range (sound : s.Sound) (inside : s.pc < 0xFFF) :
    0 ≤ s.target ins ∧ s.target ins ≤ 0x10FE := by
  have low := sound.pc_nonneg
  have top := sound.top_range
  have nnn := ins.nnn_lt
  have byte := (s.v.byte Instruction.base).toNat_lt
  unfold target
  split <;> (try split) <;> omega

theorem Sound.target_mod (sound : s.Sound) (inside : s.pc < 0xFFF) :
    s.target ins % 0x10000 = s.target ins := by
  have range : 0 ≤ s.target ins ∧ s.target ins ≤ 0x10FE := sound.target_range inside
  omega

theorem Sound.effect (sound : s.Sound) (faces : s.Faces ins) (allowed : s.refusal? ins = none) :
    (s.effect ins drawn).Sound where
  toWellFormed := sound.toWellFormed.effect drawn allowed
  pc_le_top := by
    dsimp only [State.effect]
    rw [sound.target_mod faces.inside]
    exact (sound.target_range faces.inside).2
  slots := sound.slots_stackAfter faces.inside
  delay := by
    have byte := (s.v.byte ins.x).toNat_lt
    have old := sound.delay
    dsimp only [State.effect, delayAfter]
    split <;> omega
  sound := by
    have byte := (s.v.byte ins.x).toNat_lt
    have old := sound.sound
    dsimp only [State.effect, soundAfter]
    split <;> omega
  opcode := by
    have word := s.word_lt
    dsimp only [State.effect]
    rw [faces.word]
    omega

end Effect

end State
end Chip8
