import Chip8.Proofs.Registers

/-! The arithmetic that leaves a flag in VF. The flag is told of the registers as they were, and
written first; the result is computed from the registers as they are by then. So an operand that is
VF is the new flag, and a result that goes to VF hides the flag. -/
namespace Chip8

namespace Operation

def flagged : Operation → Bool
  | add | subtract | shiftRight | subtractFrom | shiftLeft => true
  | _ => false

/-- Whether the flag is raised, told of the operands as they were. -/
def raises : Operation → (a b : Int) → Bool
  | add, a, b => 255 < a + b
  | subtract, a, b => b < a
  | shiftRight, a, _ => a % 2 = 1
  | subtractFrom, a, b => a ≤ b
  | shiftLeft, a, _ => 128 ≤ a
  | _, _, _ => false

/-- The result, told of the operands as they are once the flag is written. -/
def result : Operation → (a b : Int) → Int
  | add, a, b => (a + b) % 256
  | subtract, a, b => (a - b) % 256
  | shiftRight, a, _ => a / 2
  | subtractFrom, a, b => (b - a) % 256
  | shiftLeft, a, _ => 2 * a % 256
  | _, a, _ => a

/-- What flag `f` and result `c` tell of the operands together, as integers. -/
def Balances : Operation → (a b c f : Int) → Prop
  | add, a, b, c, f => a + b = c + 256 * f
  | subtract, a, b, c, f =>
    a - b = c - 256 * (if a < b then 1 else 0) ∧ f = if b < a then 1 else 0
  | shiftRight, a, _, c, f => a = 2 * c + f
  | subtractFrom, a, b, c, f => b - a = c - 256 * (1 - f)
  | shiftLeft, a, _, c, f => 2 * a = c + 256 * f
  | _, _, _, _, _ => True

theorem balances_result (op : Operation) {a b : Int} (low : 0 ≤ a) (high : a < 256)
    (low' : 0 ≤ b) (high' : b < 256) :
    op.Balances a b (op.result a b) (if op.raises a b then 1 else 0) := by
  cases op with
  | add | subtractFrom | shiftLeft | shiftRight =>
    simp only [Balances, result, raises, decide_eq_true_eq]
    split <;> omega
  | subtract =>
    simp only [Balances, result, raises, decide_eq_true_eq, and_true]
    split <;> omega
  | _ => trivial

end Operation

namespace Registers

def number (v : Registers) (k : Fin 16) : Int := (v.byte k).toNat

variable {v : Registers}

theorem number_range (v : Registers) (k : Fin 16) : 0 ≤ v.number k ∧ v.number k < 256 := by
  have byte := (v.byte k).toNat_lt
  unfold number
  omega

theorem Full.number_raise (full : v.Full) (raised : Bool) (k : Fin 16) :
    (v.raise raised).number k = if k = flag then (if raised then 1 else 0) else v.number k := by
  rw [number, raise, byte_put full, number]
  by_cases here : k = flag
  · rw [if_pos here.symm, if_pos here]
    cases raised <;> rfl
  · rw [if_neg (Ne.symm here), if_neg here]

theorem Full.number_flagThen (full : v.Full) (raised : Bool) (x : Fin 16)
    (result : Registers → UInt8) (k : Fin 16) :
    (v.flagThen raised x result).number k =
      if k = x then ((result (v.raise raised)).toNat : Int) else (v.raise raised).number k := by
  rw [number, flagThen, byte_put (full.raised raised), number]
  by_cases here : k = x
  · rw [if_pos here.symm, if_pos here]
  · rw [if_neg (Ne.symm here), if_neg here]

end Registers

namespace State

variable {ρ : Type} [RandomSource ρ]

theorem perform_flagged {s : State} (full : s.v.Full) {ins : Instruction}
    (flagged : ins.operation.flagged = true) (r : ρ) :
    ∃ g : UInt8 → UInt8 → UInt8,
      (∀ a b, ((g a b).toNat : Int) = ins.operation.result a.toNat b.toNat) ∧
      perform ins s r = (.ok () { s with
        v := s.v.flagThen (ins.operation.raises (s.v.number ins.x) (s.v.number ins.y)) ins.x
          fun w => g (w.byte ins.x) (w.byte ins.y) }.advance, r) := by
  obtain ⟨op, word⟩ := ins
  cases op with
  | add =>
    refine ⟨fun a b => a + b, fun a b => ?_, ?_⟩
    · simp only [Operation.result, UInt8.toNat_add]
      omega
    · have same (a b : UInt8) :
          Operation.raises .add a.toNat b.toNat = decide (255 < a.toNat + b.toNat) := by
        simp only [Operation.raises, decide_eq_decide]
        omega
      simp only [perform, full.add, Registers.number, same]
      rfl
  | subtract =>
    refine ⟨fun a b => a - b, fun a b => ?_, ?_⟩
    · have high := b.toNat_lt
      simp only [Operation.result, UInt8.toNat_sub]
      omega
    · have same (a b : UInt8) : Operation.raises .subtract a.toNat b.toNat = decide (b < a) := by
        simp only [Operation.raises, decide_eq_decide, UInt8.lt_iff_toNat_lt]
        omega
      simp only [perform, full.subtract, Registers.number, same]
      rfl
  | shiftRight =>
    refine ⟨fun a _ => a / 2, fun a b => ?_, ?_⟩
    · simp only [Operation.result, UInt8.toNat_div]
      rfl
    · have same (a b : UInt8) :
          Operation.raises .shiftRight a.toNat b.toNat = decide (a % 2 = 1) := by
        have parity : (a % 2).toNat = a.toNat % 2 := rfl
        have one : (1 : UInt8).toNat = 1 := rfl
        simp only [Operation.raises, decide_eq_decide, ← UInt8.toNat_inj, parity, one]
        omega
      simp only [perform, full.shiftRight, Registers.number, same]
      rfl
  | subtractFrom =>
    refine ⟨fun a b => b - a, fun a b => ?_, ?_⟩
    · have high := a.toNat_lt
      simp only [Operation.result, UInt8.toNat_sub]
      omega
    · have same (a b : UInt8) :
          Operation.raises .subtractFrom a.toNat b.toNat = decide (a ≤ b) := by
        simp only [Operation.raises, decide_eq_decide, UInt8.le_iff_toNat_le]
        omega
      simp only [perform, full.subtractFrom, Registers.number, same]
      rfl
  | shiftLeft =>
    refine ⟨fun a _ => a * 2, fun a b => ?_, ?_⟩
    · have two : (2 : UInt8).toNat = 2 := rfl
      simp only [Operation.result, UInt8.toNat_mul, two]
      omega
    · have same (a b : UInt8) :
          Operation.raises .shiftLeft a.toNat b.toNat = decide (128 ≤ a) := by
        have top : (128 : UInt8).toNat = 128 := rfl
        simp only [Operation.raises, decide_eq_decide, UInt8.le_iff_toNat_le, top]
        omega
      simp only [perform, full.shiftLeft, Registers.number, same]
      rfl
  | _ => cases flagged

/-- The flag is that of the registers as they were; the result is that of the registers with the
flag among them, also where VF is an operand or takes the result. Apart from VF, flag and result
together tell of the operands exactly. -/
theorem flag_written_first {s : State} (full : s.v.Full) {ins : Instruction}
    (flagged : ins.operation.flagged = true) (r : ρ) :
    let op := ins.operation
    let x := ins.x
    let y := ins.y
    let f : Int := if op.raises (s.v.number x) (s.v.number y) then 1 else 0
    let raised (k : Fin 16) : Int := if k = Registers.flag then f else s.v.number k
    ∃ v, perform ins s r = (.ok () { s with v }.advance, r) ∧ v.Full ∧
      (∀ k, v.number k = if k = x then op.result (raised x) (raised y) else raised k) ∧
      (x ≠ Registers.flag → y ≠ Registers.flag →
        op.Balances (s.v.number x) (s.v.number y) (v.number x) (v.number Registers.flag)) ∧
      ∀ k, k ≠ x → k ≠ Registers.flag → v.number k = s.v.number k := by
  intro op x y f raised
  obtain ⟨g, results, performed⟩ := perform_flagged full flagged r
  have among (k : Fin 16) : (s.v.raise (op.raises (s.v.number x) (s.v.number y))).number k =
      raised k := full.number_raise _ k
  have after (k : Fin 16) :
      (s.v.flagThen (op.raises (s.v.number x) (s.v.number y)) x
          fun w => g (w.byte x) (w.byte y)).number k =
        if k = x then op.result (raised x) (raised y) else raised k := by
    rw [full.number_flagThen, results, ← among, ← among, ← among]
    rfl
  refine ⟨_, performed, (Registers.full_flagThen _ _ _).2 full, after, fun apart apart' => ?_,
    fun k other unflagged => ?_⟩
  · obtain ⟨low, high⟩ := s.v.number_range x
    obtain ⟨low', high'⟩ := s.v.number_range y
    have first : raised x = s.v.number x := if_neg apart
    have second : raised y = s.v.number y := if_neg apart'
    have flag : raised Registers.flag = f := if_pos rfl
    rw [after, after, if_pos rfl, if_neg (Ne.symm apart), first, second, flag]
    exact op.balances_result low high low' high'
  · rw [after, if_neg other]
    exact if_neg unflagged

def saturated : State := { initial with v := .ofList (List.replicate 16 200) }

theorem saturated_doubles_carry :
    ∃ v, perform ⟨.add, 0x8FF4⟩ saturated (Script.ofArray #[]) =
        (.ok () { saturated with v }.advance, Script.ofArray #[]) ∧
      v.number Registers.flag = 2 := by
  have full : saturated.v.Full := rfl
  have flagged : (Instruction.mk .add 0x8FF4).operation.flagged = true := rfl
  obtain ⟨v, performed, _, numbers, _⟩ :=
    flag_written_first full flagged (Script.ofArray #[])
  refine ⟨v, performed, (numbers Registers.flag).trans ?_⟩
  decide

end State

end Chip8
