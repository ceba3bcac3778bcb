import Chip8.Execute

/-! A full register file: all sixteen registers are there, so that every read and every write
succeeds. The checked operations of the machine are then total ones. -/
namespace Chip8.Registers

/-- All sixteen registers are there. -/
def Full (v : Registers) : Prop := v.bytes.size = 16

def byte (v : Registers) (x : Fin 16) : UInt8 := v.bytes.getD x 0

def put (v : Registers) (x : Fin 16) (b : UInt8) : Registers := ⟨v.bytes.setIfInBounds x b⟩

def raise (v : Registers) (raised : Bool) : Registers := v.put flag (if raised then 1 else 0)

/-- Writes VF and then a register whose byte is computed from what the registers are by then. -/
def flagThen (v : Registers) (raised : Bool) (x : Fin 16) (result : Registers → UInt8) :
    Registers :=
  (v.raise raised).put x (result (v.raise raised))

theorem full_zeros : zeros.Full := rfl

variable {v : Registers}

@[simp] theorem full_put (x : Fin 16) (b : UInt8) : (v.put x b).Full ↔ v.Full := by
  simp [Full, put]

@[simp] theorem full_raise (raised : Bool) : (v.raise raised).Full ↔ v.Full := full_put flag _

@[simp] theorem full_flagThen (raised : Bool) (x : Fin 16) (result : Registers → UInt8) :
    (v.flagThen raised x result).Full ↔ v.Full := by
  simp [flagThen]

theorem byte_put (full : v.Full) (x y : Fin 16) (b : UInt8) :
    (v.put x b).byte y = if x = y then b else v.byte y := by
  have inside : x.val < v.bytes.size := by rw [full]; exact x.isLt
  simp only [byte, put, Array.getD_eq_getD_getElem?, Array.getElem?_setIfInBounds, Fin.ext_iff]
  split
  · simp
  · rfl

theorem byte_of_get {x : Fin 16} {b : UInt8} (given : v.get x = .ok b) : v.byte x = b := by
  unfold get at given
  split at given
  · next found =>
    cases given
    rw [byte, Array.getD_eq_getD_getElem?, found, Option.getD_some]
  · cases given

theorem Full.get (full : v.Full) (x : Fin 16) : v.get x = .ok (v.byte x) := get_of_full full x

theorem Full.set (full : v.Full) (x : Fin 16) (b : UInt8) : v.set x b = .ok (v.put x b) := by
  have inside : x.val < v.bytes.size := by rw [full]; exact x.isLt
  rw [Registers.set, if_pos inside, put]

theorem Full.setFlag (full : v.Full) (raised : Bool) : v.setFlag raised = .ok (v.raise raised) :=
  full.set flag _

theorem Full.raised (full : v.Full) (raised : Bool) : (v.raise raised).Full :=
  (full_raise raised).2 full

theorem Full.replaceFirst (full : v.Full) {count : Nat} {block : List UInt8}
    (fits : count ≤ 16) (exact : block.length = count) : (v.replaceFirst count block).Full := by
  have size : v.bytes.toList.length = 16 := full
  simp only [Full, Registers.replaceFirst, ofList, toList, List.size_toArray, List.length_append,
    List.length_drop, size]
  omega

section Operations

variable (full : v.Full) (x y : Fin 16)
include full

theorem Full.combine (f : UInt8 → UInt8 → UInt8) :
    v.combine x y f = .ok (v.put x (f (v.byte x) (v.byte y))) := by
  simp only [Registers.combine, full.get, full.set, bind, Except.bind]

theorem Full.add :
    v.add x y = .ok (v.flagThen (255 < (v.byte x).toNat + (v.byte y).toNat) x
      fun w => w.byte x + w.byte y) := by
  simp only [Registers.add, full.get, full.setFlag, (full.raised _).get,
    (full.raised _).set, bind, Except.bind, flagThen]

theorem Full.subtract :
    v.subtract x y = .ok (v.flagThen (v.byte y < v.byte x) x fun w => w.byte x - w.byte y) := by
  simp only [Registers.subtract, full.get, full.setFlag, (full.raised _).get,
    (full.raised _).set, bind, Except.bind, flagThen]

theorem Full.shiftRight :
    v.shiftRight x = .ok (v.flagThen (v.byte x % 2 = 1) x fun w => w.byte x / 2) := by
  simp only [Registers.shiftRight, full.get, full.setFlag, (full.raised _).get,
    (full.raised _).set, bind, Except.bind, flagThen]

theorem Full.subtractFrom :
    v.subtractFrom x y =
      .ok (v.flagThen (v.byte x ≤ v.byte y) x fun w => w.byte y - w.byte x) := by
  simp only [Registers.subtractFrom, full.get, full.setFlag, (full.raised _).get,
    (full.raised _).set, bind, Except.bind, flagThen]

theorem Full.shiftLeft :
    v.shiftLeft x = .ok (v.flagThen (128 ≤ v.byte x) x fun w => w.byte x * 2) := by
  simp only [Registers.shiftLeft, full.get, full.setFlag, (full.raised _).get,
    (full.raised _).set, bind, Except.bind, flagThen]

end Operations

end Chip8.Registers
