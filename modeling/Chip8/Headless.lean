import Chip8.Session

/-! A host without screen and keyboard: it keeps the frames, counts the beeps and holds
down the keys that it is told to. -/
namespace Chip8

structure Headless where
  /-- Any number of entries; a machine accepts sixteen only. -/
  keys : Array Bool
  frames : Array Frame
  beeps : Nat
  /-- Whether earlier frames are kept beside the last one. -/
  keepFrames : Bool

namespace Headless

inductive Fault
  | keyOutOfRange
  | noSuchEntry
deriving DecidableEq, Repr

def Fault.message : Fault → String
  | .keyOutOfRange => "key out of range"
  | .noSuchEntry => "list assignment index out of range"

def fresh : Headless := ⟨Array.replicate 16 false, #[], 0, true⟩

def setKey (h : Headless) (key : Int) (down : Bool) : Except Fault Headless :=
  if key < 0 ∨ 16 ≤ key then .error .keyOutOfRange
  else if key.toNat < h.keys.size then .ok { h with keys := h.keys.setIfInBounds key.toNat down }
  else .error .noSuchEntry

def lastFrame? (h : Headless) : Option Frame := h.frames.back?

def addFrame (h : Headless) (f : Frame) : Headless :=
  { h with frames := (if h.keepFrames then h.frames else h.frames.pop).push f }

variable {ε : Type}

def host : Host Headless ε where
  render f h := ⟨h.addFrame f, [], [], .ok ()⟩
  poll h := ⟨h, [], [], .ok h.keys⟩
  beep h := ⟨{ h with beeps := h.beeps + 1 }, [], [.beeped (h.beeps + 1)], .ok ()⟩

end Headless

end Chip8
