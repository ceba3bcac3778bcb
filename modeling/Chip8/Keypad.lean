import Chip8.Keys
import Chip8.Memory

/-! The keypad of a window, pressed and released key by key.

    1 2 3 C
    4 5 6 D
    7 8 9 E
    A 0 B F
-/
namespace Chip8.Keypad

inductive Fault
  | wrongCount
  | outOfRange
  | noSuchKey
  | unaddressable
deriving DecidableEq, Repr

def Fault.message : Fault → String
  | .wrongCount => "keypad must have 16 keys"
  | .outOfRange => "key out of range"
  | .noSuchKey => "list index out of range"
  | .unaddressable => "cannot fit 'int' into an index-sized integer"

def ofArray (snapshot : Array Bool) : Except Fault Keys :=
  match Keys.ofArray? snapshot with
  | some keys => .ok keys
  | none => .error .wrongCount

def change (k : Keys) (key : Int) (down : Bool) : Except Fault Keys :=
  if inside : 0 ≤ key ∧ key < 16 then
    let key : Fin 16 := ⟨key.toNat, by omega⟩
    .ok (if down then k.press key else k.release key)
  else
    .error .outOfRange

/-- Whether a key is down. A negative key counts from the end. -/
def isPressed (k : Keys) (key : Int) : Except Fault Bool :=
  match Memory.cell? 16 key with
  | .ok cell => .ok (k.isDown cell)
  | .error .unaddressable => .error .unaddressable
  | .error _ => .error .noSuchKey

end Chip8.Keypad
