import Chip8.Proofs.Fetch

/-! Decoding of words of any size. The low sixteen bits of a word decide what it stands for: they
match one pattern of an instruction or none. The word itself is kept, and it is what a refusal
names. -/
namespace Chip8

namespace Instruction

/-- The instruction that a word stands for. A refusal names the word as it was given. -/
def decode (w : Int) : Except Fault Instruction :=
  match decode? w with
  | some ins => .ok ins
  | none => .error (.invalidWord w)

theorem decode_eq_ok_iff (w : Int) (ins : Instruction) :
    decode w = .ok ins ↔ ins.word = w ∧ ins.operation.pattern.Matches (low w) := by
  rw [← Operation.ofWord?_eq_some_iff, decode, decode?]
  obtain ⟨op, word⟩ := ins
  cases Operation.ofWord? (low w) with
  | none => simp
  | some known =>
    simp only [Option.map_some, Except.ok.injEq, mk.injEq, Option.some.injEq]
    exact and_comm.trans (and_congr_left' eq_comm)

theorem decode_eq_error_iff (w : Int) (fault : Fault) :
    decode w = .error fault ↔
      (∀ op : Operation, ¬ op.pattern.Matches (low w)) ∧ fault = .invalidWord w := by
  simp only [← Operation.ofWord?_eq_some_iff, decode, decode?]
  cases Operation.ofWord? (low w) with
  | none => simp [eq_comm]
  | some known => simp

/-- The operands of an instruction are digits of its word, and those of different widths agree. -/
structure Shows (ins : Instruction) (w : Int) : Prop where
  word : ins.word = w
  x : (ins.x : Int) = w / 0x100 % 0x10
  y : (ins.y : Int) = w / 0x10 % 0x10
  n : (ins.n : Int) = w % 0x10
  kk : (ins.kk.toNat : Int) = w % 0x100
  nnn : (ins.nnn : Int) = w % 0x1000
  n_lt : ins.n < 0x10
  nnn_lt : ins.nnn < 0x1000
  nnn_eq : ins.nnn = 0x100 * ins.x + ins.kk.toNat
  kk_eq : ins.kk.toNat = 0x10 * ins.y + ins.n

theorem shows_word (ins : Instruction) : ins.Shows ins.word := by
  have x : ins.x.val = low ins.word / 0x100 % 0x10 := rfl
  have y : ins.y.val = low ins.word / 0x10 % 0x10 := rfl
  have n : ins.n = low ins.word % 0x10 := rfl
  have kk : ins.kk.toNat = low ins.word % 0x100 := UInt8.toNat_ofNat'
  have nnn : ins.nnn = low ins.word % 0x1000 := rfl
  have word : low ins.word = (ins.word % 0x10000).toNat := rfl
  constructor <;> omega

theorem decode_congr {v w : Int} (same : v % 0x10000 = w % 0x10000) {ins : Instruction}
    (found : decode w = .ok ins) : decode v = .ok { ins with word := v } := by
  obtain ⟨_, faces⟩ := (decode_eq_ok_iff w ins).1 found
  have low : low v = low w := congrArg Int.toNat same
  exact (decode_eq_ok_iff v _).2 ⟨rfl, low ▸ faces⟩

theorem fetch_eq_load16 {size : Nat} (m : Memory size) (address : Int) :
    fetch m address = m.load16 address := by
  unfold fetch Memory.load16
  cases m.load8 address with
  | error cause => rfl
  | ok high =>
    cases m.load8 (address + 1) with
    | error cause => rfl
    | ok low =>
      have small : low.toNat < 2 ^ 8 := low.toNat_lt
      have joined : high.toNat * 0x100 + low.toNat = high.toNat <<< 8 ||| low.toNat := by
        rw [← Nat.shiftLeft_add_eq_or_of_lt small, Nat.shiftLeft_eq]
      exact congrArg Except.ok joined

end Instruction

namespace Instruction

/-- Words of any size and sign, told by their low sixteen bits: one that matches a pattern stands
for the operation of this one pattern, and its operands are its digits; any other is refused, and
the refusal names it unreduced. There is one way to read a word from memory. -/
theorem decode_follows_patterns (w : Int) :
    (∀ op : Operation, (∃ ins, decode w = .ok ins ∧ ins.operation = op) ↔
      op.pattern.Matches (w % 0x10000).toNat) ∧
    (∀ fault, decode w = .error fault ↔
      (∀ op : Operation, ¬ op.pattern.Matches (w % 0x10000).toNat) ∧ fault = .invalidWord w) ∧
    (∀ (v : Nat) (op other : Operation),
      op.pattern.Matches v → other.pattern.Matches v → op = other) ∧
    (∀ ins, decode w = .ok ins → ins.Shows w) ∧
    (∀ v ins, v % 0x10000 = w % 0x10000 → decode w = .ok ins →
      ∃ other, decode v = .ok other ∧ other.operation = ins.operation ∧
        other.operation.mnemonic = ins.operation.mnemonic ∧ other.x = ins.x ∧ other.y = ins.y ∧
        other.n = ins.n ∧ other.kk = ins.kk ∧ other.nnn = ins.nnn) ∧
    ∀ (s : State) (size : Nat) (m : Memory size) (address : Int),
      fetch m address = m.load16 address ∧
        s.peek16 address = (fetch s.memory address).mapError .memory := by
  refine ⟨fun op => ?_, decode_eq_error_iff w, fun v op other one another => ?_,
    fun ins found => ?_, fun v ins same found => ?_, fun s size m address => ?_⟩
  · constructor
    · rintro ⟨ins, found, rfl⟩
      exact ((decode_eq_ok_iff w ins).1 found).2
    · intro faces
      exact ⟨⟨op, w⟩, (decode_eq_ok_iff w _).2 ⟨rfl, faces⟩, rfl⟩
  · have first := (Operation.ofWord?_eq_some_iff v op).2 one
    have second := (Operation.ofWord?_eq_some_iff v other).2 another
    exact Option.some.inj (first.symm.trans second)
  · have kept := ((decode_eq_ok_iff w ins).1 found).1
    exact kept ▸ ins.shows_word
  · have kept := ((decode_eq_ok_iff w ins).1 found).1
    have low : low v = low ins.word := by
      rw [kept]
      exact congrArg Int.toNat same
    refine ⟨_, decode_congr same found, rfl, rfl, ?_⟩
    simp only [x, y, n, kk, nnn, low, and_self]
  · refine ⟨fetch_eq_load16 m address, ?_⟩
    rw [fetch_eq_load16]
    rfl

theorem decode_wide_words :
    decode (-0x7509) = .ok ⟨.subtractFrom, -0x7509⟩ ∧
      decode 0x15001 = .error (.invalidWord 0x15001) := by
  obtain ⟨accepts, _, _, shows, _⟩ := decode_follows_patterns (-0x7509)
  obtain ⟨_, refuses, _⟩ := decode_follows_patterns 0x15001
  obtain ⟨ins, found, named⟩ := (accepts .subtractFrom).2 ⟨rfl, rfl⟩
  have kept := (shows ins found).word
  refine ⟨?_, (refuses _).2 ⟨fun op faces => ?_, rfl⟩⟩
  · rw [found, ← named, ← kept]
  · have unknown : Operation.ofWord? 0x5001 = none := rfl
    rw [(Operation.ofWord?_eq_some_iff 0x5001 op).2 faces] at unknown
    cases unknown

end Instruction

end Chip8
