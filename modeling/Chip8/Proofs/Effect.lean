import Chip8.Proofs.Registers
import Chip8.Proofs.Sprite

/-! What one instruction does, told part by part of the machine. `perform` takes the instructions
one by one and checks on the way; here every part has one function that says what becomes of it,
`refusal?` says which instructions fail, and `perform_eq` states that both tell the same of a
machine in working order. -/
namespace Chip8

/-- A source that always has a number to give. -/
def RandomSource.Total (ρ : Type) [RandomSource ρ] : Prop :=
  ∀ r : ρ, ∃ value after, RandomSource.draw r = (.ok value, after)

namespace Instruction

def blockLength? (ins : Instruction) : Option Nat :=
  match ins.operation with
  | .draw => some ins.n
  | .decimal => some 3
  | .save | .restore => some (ins.x.val + 1)
  | _ => none

theorem nnn_lt (ins : Instruction) : ins.nnn < 0x1000 := Nat.mod_lt _ (by decide)

theorem nnn_mod (ins : Instruction) : (ins.nnn : Int) % 0x10000 = ins.nnn := by
  have := ins.nnn_lt
  omega

end Instruction

namespace State

/-- A machine in working order: what holds of its numbers whatever program it runs. -/
structure WellFormed (s : State) : Prop where
  full : s.v.Full
  sp_nonneg : 0 ≤ s.sp
  sp_le : s.sp ≤ 16
  i_nonneg : 0 ≤ s.i
  i_le : s.i ≤ 0xFFFF
  pc_nonneg : 0 ≤ s.pc
  pc_le : s.pc ≤ 0xFFFF

def top (s : State) : Int := s.stack[(s.sp - 1).toNat]?.getD 0

def keyAt (s : State) (key : UInt8) : Bool := s.keys.down[key.toNat]?.getD false

def cellsOf (ins : Instruction) (s : State) : List Nat :=
  Sprite.cells ((s.v.byte ins.x).toNat + 64 * (s.v.byte ins.y).toNat) (s.readAtIndex ins.n)

def blockRefusal? (s : State) (count : Nat) : Option Fault :=
  if 0x1000 < s.i + count then some (.pastEnd count s.i) else none

/-- Why a sprite is refused: its rows are looked at before its cells. -/
def spriteRefusal? (ins : Instruction) (s : State) : Option Fault :=
  (s.blockRefusal? ins.n).or (((s.cellsOf ins).find? (2048 ≤ ·)).map .spriteOutside)

def refusal? (ins : Instruction) (s : State) : Option Fault :=
  match ins.operation with
  | .ret => if s.sp = 0 then some (.stackUnderflow s.pc) else none
  | .call => if 16 ≤ s.sp then some (.stackOverflow s.pc) else none
  | .draw => s.spriteRefusal? ins
  | .skipIfPressed | .skipUnlessPressed =>
    if 16 ≤ (s.v.byte ins.x).toNat then some .noSuchKey else none
  | .readDelay => if 0 ≤ s.delay ∧ s.delay < 256 then none else some .notByte
  | .decimal => s.blockRefusal? 3
  | .save | .restore => s.blockRefusal? (ins.x.val + 1)
  | _ => none

def skips (ins : Instruction) (s : State) : Bool :=
  match ins.operation with
  | .skipIfByte => s.v.byte ins.x == ins.kk
  | .skipUnlessByte => s.v.byte ins.x != ins.kk
  | .skipIfEqual => s.v.byte ins.x == s.v.byte ins.y
  | .skipUnlessEqual => s.v.byte ins.x != s.v.byte ins.y
  | .skipIfPressed => s.keyAt (s.v.byte ins.x)
  | .skipUnlessPressed => !s.keyAt (s.v.byte ins.x)
  | _ => false

/-- Where the machine goes on, before the address is reduced to sixteen bits. -/
def target (ins : Instruction) (s : State) : Int :=
  match ins.operation with
  | .ret => s.top + 2
  | .jump | .call => ins.nnn
  | .jumpOffset => (s.v.byte Instruction.base).toNat + ins.nnn
  | .awaitKey => if s.keys.highest?.isSome then s.pc + 2 else s.pc
  | _ => s.pc + if s.skips ins then 4 else 2

def registersAfter (ins : Instruction) (drawn : Int) (s : State) : Registers :=
  let x := ins.x
  let y := ins.y
  let v := s.v
  match ins.operation with
  | .loadByte => v.put x ins.kk
  | .addByte => v.put x (v.byte x + ins.kk)
  | .copy => v.put x (v.byte y)
  | .or => v.put x (v.byte x ||| v.byte y)
  | .and => v.put x (v.byte x &&& v.byte y)
  | .xor => v.put x (v.byte x ^^^ v.byte y)
  | .add => v.flagThen (255 < (v.byte x).toNat + (v.byte y).toNat) x fun w => w.byte x + w.byte y
  | .subtract => v.flagThen (v.byte y < v.byte x) x fun w => w.byte x - w.byte y
  | .shiftRight => v.flagThen (v.byte x % 2 = 1) x fun w => w.byte x / 2
  | .subtractFrom => v.flagThen (v.byte x ≤ v.byte y) x fun w => w.byte y - w.byte x
  | .shiftLeft => v.flagThen (128 ≤ v.byte x) x fun w => w.byte x * 2
  | .random => v.put x (UInt8.ofInt drawn &&& ins.kk)
  | .draw => v.raise ((s.cellsOf ins).any s.frame.lit)
  | .readDelay => v.put x (UInt8.ofInt s.delay)
  | .awaitKey => match s.keys.highest? with
    | some key => v.put x (UInt8.ofNat key)
    | none => v
  | .addIndex => v.raise (0xFFF < s.i + (v.byte x).toNat)
  | .restore => v.replaceFirst (x.val + 1) (s.readAtIndex (x.val + 1))
  | _ => v

def indexAfter (ins : Instruction) (s : State) : Int :=
  match ins.operation with
  | .loadIndex => ins.nnn
  | .addIndex => (s.i + (s.v.byte ins.x).toNat) % 0x10000
  | .glyph => ((s.v.byte ins.x).toNat * Font.height : Nat)
  | .save | .restore => (s.i + (ins.x.val + 1 : Nat)) % 0x10000
  | _ => s.i

def memoryAfter (ins : Instruction) (s : State) : Memory 0x1000 :=
  let b := s.v.byte ins.x
  match ins.operation with
  | .decimal => s.memory.overwrite s.i.toNat [b / 100, b / 10 % 10, b % 10]
  | .save => s.memory.overwrite s.i.toNat (s.v.toList.take (ins.x.val + 1))
  | _ => s.memory

def stackAfter (ins : Instruction) (s : State) : Vector Int 16 :=
  match ins.operation with
  | .call => s.stack.setIfInBounds s.sp.toNat s.pc
  | _ => s.stack

def spAfter (ins : Instruction) (s : State) : Int :=
  match ins.operation with
  | .call => s.sp + 1
  | .ret => s.sp - 1
  | _ => s.sp

def delayAfter (ins : Instruction) (s : State) : Int :=
  match ins.operation with
  | .setDelay => (s.v.byte ins.x).toNat
  | _ => s.delay

def soundAfter (ins : Instruction) (s : State) : Int :=
  match ins.operation with
  | .setSound => (s.v.byte ins.x).toNat
  | _ => s.sound

def frameAfter (ins : Instruction) (s : State) : Frame :=
  match ins.operation with
  | .clear => Frame.dark
  | .draw => (s.cellsOf ins).foldl Frame.toggle s.frame
  | _ => s.frame

def redrawAfter (ins : Instruction) (s : State) : Bool :=
  match ins.operation with
  | .clear | .draw => true
  | _ => s.redraw

/-- The machine after an instruction that is not refused. `drawn` is the random number, for the
one instruction that asks for it. -/
def effect (ins : Instruction) (drawn : Int) (s : State) : State where
  memory := s.memoryAfter ins
  v := s.registersAfter ins drawn
  i := s.indexAfter ins
  pc := s.target ins % 0x10000
  stack := s.stackAfter ins
  sp := s.spAfter ins
  delay := s.delayAfter ins
  sound := s.soundAfter ins
  frame := s.frameAfter ins
  keys := s.keys
  opcode := ins.word
  redraw := s.redrawAfter ins

variable {s : State}

theorem slot?_of_inside {index : Int} (low : 0 ≤ index) (high : index < 16) (missing : Fault) :
    slot? index missing = .ok ⟨index.toNat, by omega⟩ := by
  simp [slot?, Memory.cell?, low, high]

theorem slot_of_inside (s : State) {index : Int} (low : 0 ≤ index) (high : index < 16) :
    s.slot index = .ok (s.stack[index.toNat]?.getD 0) := by
  have inside : index.toNat < 16 := by omega
  rw [slot, slot?_of_inside low high, Vector.getElem?_eq_getElem inside, Option.getD_some]
  rfl

theorem setSlot_of_inside (s : State) {index : Int} (value : Int) (low : 0 ≤ index)
    (high : index < 16) :
    s.setSlot index value = .ok { s with stack := s.stack.setIfInBounds index.toNat value } := by
  rw [setSlot, slot?_of_inside low high]
  rfl

theorem requireBlock_eq (s : State) (count : Nat) :
    s.requireBlock count = match s.blockRefusal? count with
      | some fault => .error fault
      | none => .ok () := by
  unfold requireBlock blockRefusal?
  split <;> rfl

theorem writeAtIndex_of_fits {block : List UInt8} (low : 0 ≤ s.i)
    (fits : s.blockRefusal? block.length = none) :
    s.writeAtIndex block = .ok { s with memory := s.memory.overwrite s.i.toNat block } := by
  simp only [blockRefusal?, ite_eq_right_iff, reduceCtorEq, imp_false] at fits
  rw [writeAtIndex, Memory.writeBytes, if_neg (by omega)]

section WellFormed

variable (whole : s.WellFormed)
include whole

theorem WellFormed.callTo (target : Nat) :
    s.callTo target = if 16 ≤ s.sp then .error (.stackOverflow s.pc) else
      .ok { s with
        stack := s.stack.setIfInBounds s.sp.toNat s.pc, sp := s.sp + 1, pc := target } := by
  unfold State.callTo
  split
  · rfl
  · rw [setSlot_of_inside s s.pc whole.sp_nonneg (by omega)]
    rfl

theorem WellFormed.returnFromCall :
    s.returnFromCall = if s.sp = 0 then .error (.stackUnderflow s.pc) s else
      .ok () { s with sp := s.sp - 1, pc := (s.top + 2) % 0x10000 } := by
  have low := whole.sp_nonneg
  have high := whole.sp_le
  unfold State.returnFromCall
  split
  · rfl
  · simp only [slot_of_inside _ (show 0 ≤ s.sp - 1 by omega) (show s.sp - 1 < 16 by omega), top]

theorem WellFormed.keyOf (x : Fin 16) :
    s.keyOf x = if 16 ≤ (s.v.byte x).toNat then .error .noSuchKey else
      .ok (s.keyAt (s.v.byte x)) := by
  simp only [State.keyOf, whole.full.get, bind, Except.bind]
  split
  · next inside =>
    rw [if_neg (by omega), keyAt, Vector.getElem?_eq_getElem inside]
    rfl
  · next outside => rw [if_pos (by omega)]

theorem WellFormed.spriteCells (ins : Instruction) :
    s.spriteCells ins.x ins.y ins.n = match s.spriteRefusal? ins with
      | some fault => .error fault
      | none => .ok (s.cellsOf ins) := by
  simp only [State.spriteCells, spriteRefusal?, cellsOf, whole.full.get, requireBlock_eq, bind,
    Except.bind]
  cases s.blockRefusal? ins.n with
  | some fault => rfl
  | none =>
    generalize Sprite.cells _ _ = cells
    cases cells.find? (2048 ≤ ·) <;> rfl

theorem WellFormed.drawSprite (ins : Instruction) :
    s.drawSprite ins.x ins.y ins.n = match s.spriteRefusal? ins with
      | some fault => .error fault s
      | none => .ok () { s with
          frame := (s.cellsOf ins).foldl Frame.toggle s.frame
          v := s.v.raise ((s.cellsOf ins).any s.frame.lit), redraw := true }.advance := by
  rw [State.drawSprite, whole.spriteCells]
  cases s.spriteRefusal? ins with
  | some fault => rfl
  | none =>
    have apart : (s.cellsOf ins).Nodup :=
      (Sprite.ascending_cells _ _).imp fun before => Nat.ne_of_lt before
    simp only [Frame.foldl_plot apart, Bool.false_or, whole.full.setFlag]

theorem WellFormed.writeDecimal (x : Fin 16) :
    s.writeDecimal x = match s.blockRefusal? 3 with
      | some fault => .error fault
      | none => .ok { s with
          memory := s.memory.overwrite s.i.toNat
            [s.v.byte x / 100, s.v.byte x / 10 % 10, s.v.byte x % 10] } := by
  simp only [State.writeDecimal, requireBlock_eq, bind, Except.bind, whole.full.get]
  cases fits : s.blockRefusal? 3 with
  | some fault => rfl
  | none => exact writeAtIndex_of_fits whole.i_nonneg fits

theorem WellFormed.saveRegisters (x : Fin 16) :
    s.saveRegisters x = match s.blockRefusal? (x.val + 1) with
      | some fault => .error fault
      | none => .ok { s with
          memory := s.memory.overwrite s.i.toNat (s.v.toList.take (x.val + 1))
          i := (s.i + (x.val + 1 : Nat)) % 0x10000 } := by
  have length : (s.v.toList.take (x.val + 1)).length = x.val + 1 := by
    have size : s.v.toList.length = 16 := whole.full
    rw [List.length_take, size]
    omega
  simp only [State.saveRegisters, requireBlock_eq, bind, Except.bind, pure, Except.pure]
  cases fits : s.blockRefusal? (x.val + 1) with
  | some fault => rfl
  | none =>
    rw [writeAtIndex_of_fits whole.i_nonneg (by rw [length]; exact fits)]

end WellFormed

theorem restoreRegisters_eq (s : State) (x : Fin 16) :
    s.restoreRegisters x = match s.blockRefusal? (x.val + 1) with
      | some fault => .error fault
      | none => .ok { s with
          v := s.v.replaceFirst (x.val + 1) (s.readAtIndex (x.val + 1))
          i := (s.i + (x.val + 1 : Nat)) % 0x10000 } := by
  simp only [State.restoreRegisters, requireBlock_eq, bind, Except.bind, pure, Except.pure]
  cases s.blockRefusal? (x.val + 1) <;> rfl

variable {ρ : Type} [RandomSource ρ]

def drawFor (ins : Instruction) (r : ρ) : Except Fault Int × ρ :=
  match ins.operation with
  | .random => RandomSource.draw r
  | _ => (.ok 0, r)

theorem perform_eq (whole : s.WellFormed) (ins : Instruction) (r : ρ) :
    perform ins s r = match s.refusal? ins with
      | some fault => (.error fault s, r)
      | none => match drawFor ins r with
        | (.ok drawn, r) => (.ok () { s.effect ins drawn with opcode := s.opcode }, r)
        | (.error fault, r) => (.error fault s, r) := by
  have full := whole.full
  have stays : s.pc % 0x10000 = s.pc := by
    have low := whole.pc_nonneg
    have high := whole.pc_le
    omega
  obtain ⟨op, word⟩ := ins
  cases op with
  | ret =>
    simp only [perform, refusal?, whole.returnFromCall]
    split <;> rfl
  | jump =>
    simp only [perform, drawFor, effect, target, Instruction.nnn_mod]
    rfl
  | call =>
    simp only [perform, refusal?, whole.callTo]
    split
    · rfl
    · simp only [drawFor, effect, target, Instruction.nnn_mod]
      rfl
  | random =>
    simp only [perform, refusal?, drawFor]
    obtain ⟨fault | value, r⟩ := RandomSource.draw r
    · rfl
    · simp only [setRegister, full.set, Except.map]
      rfl
  | draw =>
    simp only [perform, refusal?, whole.drawSprite ⟨.draw, word⟩]
    cases s.spriteRefusal? ⟨.draw, word⟩ <;> rfl
  | skipIfPressed | skipUnlessPressed =>
    simp only [perform, refusal?, whole.keyOf]
    split <;> rfl
  | readDelay =>
    simp only [perform, refusal?, readDelay, setRegister, full.set]
    split <;> rfl
  | awaitKey =>
    simp only [perform, waitForKey, setRegister, full.set, drawFor, effect, target,
      registersAfter]
    cases s.keys.highest? with
    | none =>
      simp only [Option.isSome_none, Bool.false_eq_true, if_false, stays]
      rfl
    | some key => rfl
  | decimal =>
    simp only [perform, refusal?, whole.writeDecimal]
    cases s.blockRefusal? 3 <;> rfl
  | save =>
    simp only [perform, refusal?, whole.saveRegisters]
    split <;> rfl
  | restore =>
    simp only [perform, refusal?, restoreRegisters_eq]
    split <;> rfl
  | _ =>
    simp only [perform, setRegister, addToIndex, full.get, full.set, full.setFlag, full.combine,
      full.add, full.subtract, full.shiftRight, full.subtractFrom, full.shiftLeft]
    rfl

def instruction (s : State) : Except Fault Instruction :=
  match Instruction.fetch s.memory s.pc with
  | .error cause => .error (.memory cause)
  | .ok word => match Instruction.decode? word with
    | none => .error (.invalidWord word)
    | some ins => .ok ins

/-- Why the machine cannot go on, apart from a source without numbers. -/
def fault? (s : State) : Option Fault :=
  match s.instruction with
  | .error fault => some fault
  | .ok ins => s.refusal? ins

theorem execute_eq (whole : s.WellFormed) (r : ρ) :
    s.execute r = match s.instruction with
      | .error fault => (.error fault s, r)
      | .ok ins => match s.refusal? ins with
        | some fault => (.error fault s, r)
        | none => match drawFor ins r with
          | (.ok drawn, r) => (.ok ins (s.effect ins drawn), r)
          | (.error fault, r) => (.error fault s, r) := by
  unfold execute instruction
  cases Instruction.fetch s.memory s.pc with
  | error cause => rfl
  | ok word =>
    dsimp only
    cases decoded : Instruction.decode? word with
    | none => rfl
    | some ins =>
      have same := Instruction.decode?_word decoded
      simp only [perform_eq whole]
      cases s.refusal? ins with
      | some fault => rfl
      | none =>
        obtain ⟨fault | drawn, after⟩ := drawFor ins r
        · rfl
        · simp only [effect, same]

theorem execute_eq_ok_iff (whole : s.WellFormed) (r after : ρ) (ins : Instruction) (t : State) :
    s.execute r = (.ok ins t, after) ↔
      s.instruction = .ok ins ∧ s.refusal? ins = none ∧
        ∃ drawn, drawFor ins r = (.ok drawn, after) ∧ t = s.effect ins drawn := by
  constructor
  · intro done
    rw [execute_eq whole] at done
    split at done
    · cases done
    · next found =>
      split at done
      · cases done
      · next allowed =>
        split at done
        · next given =>
          cases done
          exact ⟨found, allowed, _, given, rfl⟩
        · cases done
  · rintro ⟨found, allowed, drawn, given, rfl⟩
    simp only [execute_eq whole, found, allowed, given]

theorem execute_error_state (whole : s.WellFormed) {r after : ρ} {fault : Fault} {t : State}
    (failed : s.execute r = (.error fault t, after)) : t = s := by
  rw [execute_eq whole] at failed
  split at failed
  · cases failed
    rfl
  · split at failed
    · cases failed
      rfl
    · split at failed <;> cases failed
      rfl

theorem drawFor_of_total (total : RandomSource.Total ρ) (ins : Instruction) (r : ρ) :
    ∃ drawn after, drawFor ins r = (.ok drawn, after) := by
  unfold drawFor
  split
  · exact total r
  · exact ⟨0, r, rfl⟩

theorem execute_eq_error_iff (whole : s.WellFormed) (total : RandomSource.Total ρ) (r after : ρ)
    (fault : Fault) (t : State) :
    s.execute r = (.error fault t, after) ↔ s.fault? = some fault ∧ t = s ∧ after = r := by
  rw [execute_eq whole, fault?]
  cases s.instruction with
  | error known => simp [and_assoc, eq_comm]
  | ok ins =>
    dsimp only
    cases s.refusal? ins with
    | some known => simp [and_assoc, eq_comm]
    | none =>
      obtain ⟨drawn, source, given⟩ := drawFor_of_total total ins r
      simp [given]

end State

end Chip8
