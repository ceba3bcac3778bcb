/-! The hexadecimal keypad as the machine sees it: which of the sixteen keys are down. -/
namespace Chip8

structure Keys where
  down : Vector Bool 16
deriving DecidableEq

namespace Keys

def none : Keys := ⟨Vector.replicate 16 false⟩

def ofArray? (snapshot : Array Bool) : Option Keys :=
  if full : snapshot.size = 16 then some ⟨⟨snapshot, full⟩⟩ else Option.none

def isDown (k : Keys) (key : Fin 16) : Bool := k.down[key.val]

def pressed (k : Keys) : List (Fin 16) :=
  (List.finRange 16).filter k.isDown

def highest? (k : Keys) : Option (Fin 16) := k.pressed.getLast?

def press (k : Keys) (key : Fin 16) : Keys := ⟨k.down.set key true⟩

def release (k : Keys) (key : Fin 16) : Keys := ⟨k.down.set key false⟩

/-- The snapshot as a number whose bit `k` is key `k`. -/
def mask (k : Keys) : Nat :=
  k.pressed.foldr (fun key bits => Nat.pow 2 key.val + bits) 0

def ofMask (bits : Nat) : Keys := ⟨Vector.ofFn fun key => bits.testBit key⟩

theorem isDown_press (k : Keys) (key other : Fin 16) :
    (k.press key).isDown other = (if key = other then true else k.isDown other) := by
  simp only [press, isDown, Vector.getElem_set, Fin.ext_iff]

theorem isDown_release (k : Keys) (key other : Fin 16) :
    (k.release key).isDown other = (if key = other then false else k.isDown other) := by
  simp only [release, isDown, Vector.getElem_set, Fin.ext_iff]

theorem mem_pressed (k : Keys) (key : Fin 16) : key ∈ k.pressed ↔ k.isDown key = true := by
  simp [pressed]

end Keys

end Chip8
