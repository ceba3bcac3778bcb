import Chip8.Proofs.Effect

/-! The word at the program counter and the patterns of instructions. A machine in working order
stands before an instruction iff its word lies in memory and matches a pattern, and no word
matches two of them. -/
namespace Chip8

namespace Operation

inductive Tail
  | free
  | digit (d : Nat)
  | byte (b : Nat)
deriving DecidableEq, Repr

structure Pattern where
  group : Nat
  tail : Tail
deriving DecidableEq, Repr

def Tail.Matches (w : Nat) : Tail → Prop
  | free => True
  | digit d => w % 0x10 = d
  | byte b => w % 0x100 = b

def Pattern.Matches (p : Pattern) (w : Nat) : Prop :=
  w / 0x1000 = p.group ∧ p.tail.Matches w

def pattern : Operation → Pattern
  | clear => ⟨0x0, .digit 0x0⟩
  | ret => ⟨0x0, .digit 0xE⟩
  | jump => ⟨0x1, .free⟩
  | call => ⟨0x2, .free⟩
  | skipIfByte => ⟨0x3, .free⟩
  | skipUnlessByte => ⟨0x4, .free⟩
  | skipIfEqual => ⟨0x5, .digit 0x0⟩
  | loadByte => ⟨0x6, .free⟩
  | addByte => ⟨0x7, .free⟩
  | copy => ⟨0x8, .digit 0x0⟩
  | or => ⟨0x8, .digit 0x1⟩
  | and => ⟨0x8, .digit 0x2⟩
  | xor => ⟨0x8, .digit 0x3⟩
  | add => ⟨0x8, .digit 0x4⟩
  | subtract => ⟨0x8, .digit 0x5⟩
  | shiftRight => ⟨0x8, .digit 0x6⟩
  | subtractFrom => ⟨0x8, .digit 0x7⟩
  | shiftLeft => ⟨0x8, .digit 0xE⟩
  | skipUnlessEqual => ⟨0x9, .digit 0x0⟩
  | loadIndex => ⟨0xA, .free⟩
  | jumpOffset => ⟨0xB, .free⟩
  | random => ⟨0xC, .free⟩
  | draw => ⟨0xD, .free⟩
  | skipIfPressed => ⟨0xE, .byte 0x9E⟩
  | skipUnlessPressed => ⟨0xE, .byte 0xA1⟩
  | readDelay => ⟨0xF, .byte 0x07⟩
  | awaitKey => ⟨0xF, .byte 0x0A⟩
  | setDelay => ⟨0xF, .byte 0x15⟩
  | setSound => ⟨0xF, .byte 0x18⟩
  | addIndex => ⟨0xF, .byte 0x1E⟩
  | glyph => ⟨0xF, .byte 0x29⟩
  | decimal => ⟨0xF, .byte 0x33⟩
  | save => ⟨0xF, .byte 0x55⟩
  | restore => ⟨0xF, .byte 0x65⟩

theorem arithmetic?_eq_some_iff (d : Nat) (op : Operation) :
    arithmetic? d = some op ↔ op.pattern.group = 0x8 ∧ op.pattern.tail = .digit d := by
  constructor
  · intro found
    unfold arithmetic? at found
    split at found <;> cases found <;> exact ⟨rfl, rfl⟩
  · rintro ⟨group, tail⟩
    cases op <;> simp [pattern] at group tail <;> subst tail <;> rfl

theorem extended?_eq_some_iff (b : Nat) (op : Operation) :
    extended? b = some op ↔ op.pattern.group = 0xF ∧ op.pattern.tail = .byte b := by
  constructor
  · intro found
    unfold extended? at found
    split at found <;> cases found <;> exact ⟨rfl, rfl⟩
  · rintro ⟨group, tail⟩
    cases op <;> simp [pattern] at group tail <;> subst tail <;> rfl

theorem ofWord?_eq_some_iff (w : Nat) (op : Operation) :
    ofWord? w = some op ↔ op.pattern.Matches w := by
  unfold ofWord? Pattern.Matches Tail.Matches
  generalize w / 0x1000 = group
  generalize w % 0x10 = digit
  generalize w % 0x100 = byte
  constructor
  · intro found
    split at found
    case h_9 =>
      obtain ⟨same, tail⟩ := (arithmetic?_eq_some_iff _ _).1 found
      rw [same, tail]
      exact ⟨rfl, rfl⟩
    case h_16 =>
      obtain ⟨same, tail⟩ := (extended?_eq_some_iff _ _).1 found
      rw [same, tail]
      exact ⟨rfl, rfl⟩
    all_goals try split at found
    all_goals cases found
    all_goals simp_all [pattern]
  · rintro ⟨rfl, tail⟩
    cases op <;> simp_all [pattern, arithmetic?, extended?]

end Operation

namespace Memory

variable {size : Nat}

/-- The byte at an address, zero outside of memory. -/
def byteAt (m : Memory size) (a : Nat) : UInt8 := m.bytes[a]?.getD 0

theorem load8_of_inside (m : Memory size) {a : Int} (low : 0 ≤ a) (high : a < size) :
    m.load8 a = .ok (m.byteAt a.toNat) := by
  have inside : a.toNat < size := by omega
  rw [load8, cell?, dif_pos ⟨low, high⟩]
  simp only [bind, Except.bind, pure, Except.pure, byteAt, Vector.getElem?_eq_getElem inside,
    Option.getD_some]

theorem load8_of_past (m : Memory size) {a : Int} (past : size ≤ a)
    (small : a < 0x8000000000000000) : m.load8 a = .error .outside := by
  rw [load8, cell?, dif_neg (by omega), dif_neg (by omega), if_pos (by omega)]
  rfl

end Memory

namespace State

def word (s : State) : Nat :=
  (s.memory.byteAt s.pc.toNat).toNat * 0x100 + (s.memory.byteAt (s.pc.toNat + 1)).toNat

theorem word_lt (s : State) : s.word < 0x10000 := by
  have high := (s.memory.byteAt s.pc.toNat).toNat_lt
  have low := (s.memory.byteAt (s.pc.toNat + 1)).toNat_lt
  unfold word
  omega

/-- The machine stands before an instruction: its word lies in memory and matches the pattern
of its operation. -/
structure Faces (s : State) (ins : Instruction) : Prop where
  inside : s.pc < 0xFFF
  word : ins.word = s.word
  pattern : ins.operation.pattern.Matches s.word

theorem WellFormed.fetch {s : State} (whole : s.WellFormed) :
    Instruction.fetch s.memory s.pc =
      if s.pc < 0xFFF then .ok s.word else .error .outside := by
  have low := whole.pc_nonneg
  have high := whole.pc_le
  unfold Instruction.fetch
  split
  · rw [Memory.load8_of_inside _ low (by omega), Memory.load8_of_inside _ (by omega) (by omega)]
    have next : (s.pc + 1).toNat = s.pc.toNat + 1 := by omega
    rw [next]
    rfl
  · by_cases last : s.pc < 0x1000
    · rw [Memory.load8_of_inside _ low (by omega), Memory.load8_of_past _ (by omega) (by omega)]
      rfl
    · rw [Memory.load8_of_past _ (by omega) (by omega)]
      rfl

theorem WellFormed.instruction {s : State} (whole : s.WellFormed) :
    s.instruction = if s.pc < 0xFFF then
        match Operation.ofWord? s.word with
        | some operation => .ok ⟨operation, s.word⟩
        | none => .error (.invalidWord s.word)
      else .error (.memory .outside) := by
  have low : Instruction.low (s.word : Int) = s.word := by
    have := s.word_lt
    unfold Instruction.low
    omega
  rw [State.instruction, whole.fetch]
  by_cases inside : s.pc < 0xFFF
  · simp only [inside, if_true, Instruction.decode?, low]
    cases Operation.ofWord? s.word <;> rfl
  · simp only [inside, if_false]

theorem WellFormed.instruction_eq_ok_iff {s : State} (whole : s.WellFormed) (ins : Instruction) :
    s.instruction = .ok ins ↔ s.Faces ins := by
  rw [whole.instruction]
  constructor
  · intro found
    split at found
    · next inside =>
      split at found
      · next operation named =>
        cases found
        exact ⟨inside, rfl, (Operation.ofWord?_eq_some_iff _ _).1 named⟩
      · cases found
    · cases found
  · intro faces
    rw [if_pos faces.inside, (Operation.ofWord?_eq_some_iff _ _).2 faces.pattern, ← faces.word]

theorem WellFormed.instruction_eq_error_iff {s : State} (whole : s.WellFormed) (fault : Fault) :
    s.instruction = .error fault ↔
      0xFFF ≤ s.pc ∧ fault = .memory .outside ∨
      s.pc < 0xFFF ∧ (∀ op : Operation, ¬ op.pattern.Matches s.word) ∧
        fault = .invalidWord s.word := by
  rw [whole.instruction]
  by_cases inside : s.pc < 0xFFF
  · have unnamed : Operation.ofWord? s.word = none ↔
        ∀ op : Operation, ¬ op.pattern.Matches s.word := by
      simp only [Option.eq_none_iff_forall_ne_some, ne_eq, Operation.ofWord?_eq_some_iff]
    have not_past : ¬ 0xFFF ≤ s.pc := by omega
    simp only [inside, if_true, not_past, false_and, false_or, true_and, ← unnamed]
    cases Operation.ofWord? s.word <;> simp [eq_comm]
  · have past : 0xFFF ≤ s.pc := by omega
    simp [inside, past, eq_comm]

end State

end Chip8
