import Chip8.Fault
import Chip8.Font
import Chip8.Grid
import Chip8.Keys

/-! The machine record: memory, registers, stack, timers, screen and keypad. -/
namespace Chip8

/-- The byte registers, V0 to VF unless some of them are missing. -/
structure Registers where
  bytes : Array UInt8
deriving DecidableEq

namespace Registers

def zeros : Registers := ⟨Array.replicate 16 0⟩

def ofList (bytes : List UInt8) : Registers := ⟨bytes.toArray⟩

def toList (v : Registers) : List UInt8 := v.bytes.toList

def get (v : Registers) (x : Fin 16) : Except Fault UInt8 :=
  match v.bytes[x.val]? with
  | some b => .ok b
  | none => .error .noSuchRegister

def set (v : Registers) (x : Fin 16) (b : UInt8) : Except Fault Registers :=
  if x.val < v.bytes.size then .ok ⟨v.bytes.setIfInBounds x b⟩ else .error .noSuchRegister

/-- Puts a block in the place of the first `count` registers. Those behind it move up if the
block is shorter. -/
def replaceFirst (v : Registers) (count : Nat) (block : List UInt8) : Registers :=
  ofList (block ++ v.toList.drop count)

theorem get_set {v w : Registers} {x : Fin 16} {b : UInt8} (done : v.set x b = .ok w)
    (y : Fin 16) : w.get y = if x = y then .ok b else v.get y := by
  unfold set at done
  split at done
  · next inside =>
    cases done
    simp only [get, Array.getElem?_setIfInBounds, Fin.ext_iff]
    by_cases same : x.val = y.val
    · simp [same, same ▸ inside]
    · simp [same]
  · cases done

theorem size_set {v w : Registers} {x : Fin 16} {b : UInt8} (done : v.set x b = .ok w) :
    w.bytes.size = v.bytes.size := by
  unfold set at done
  split at done
  · cases done
    simp
  · cases done

theorem get_of_full {v : Registers} (full : v.bytes.size = 16) (x : Fin 16) :
    v.get x = .ok (v.bytes.getD x 0) := by
  have inside : x.val < v.bytes.size := by omega
  simp [get, inside]

end Registers

/-- The numbers of a machine that runs stay small: none is negative, the timers fit into
a byte, I and the program counter into sixteen bits, the stack pointer into the stack. A machine
that is set up from outside can start with any integers. -/
structure State where
  memory : Memory 0x1000
  v : Registers
  i : Int
  pc : Int
  stack : Vector Int 16
  sp : Int
  delay : Int
  sound : Int
  frame : Frame
  keys : Keys
  opcode : Int
  /-- Whether the frame has changed since it was last presented. -/
  redraw : Bool
deriving DecidableEq

namespace State

def programStart : Nat := 0x200

def blankMemory : Memory 0x1000 := (Memory.zeros 0x1000).overwrite 0 Font.bytes

def initial : State where
  memory := blankMemory
  v := Registers.zeros
  i := 0
  pc := programStart
  stack := Vector.replicate 16 0
  sp := 0
  delay := 0
  sound := 0
  frame := Frame.dark
  keys := Keys.none
  opcode := 0
  redraw := false

/-- The return addresses of the calls that are still open, oldest first. -/
def calls (s : State) : List Int := s.stack.toList.take (Memory.clamp 16 s.sp)

/-- The slot of the stack that an index names, where a negative one counts from the end. -/
def slot? (index : Int) (missing : Fault) : Except Fault (Fin 16) :=
  match Memory.cell? 16 index with
  | .ok slot => .ok slot
  | .error .unaddressable => .error (.memory .unaddressable)
  | .error _ => .error missing

def slot (s : State) (index : Int) : Except Fault Int := do
  return s.stack.get (← slot? index .noSuchSlot)

def setSlot (s : State) (index value : Int) : Except Fault State := do
  return { s with stack := s.stack.setIfInBounds (← slot? index .noSlotToFill) value }

def peek16 (s : State) (address : Int) : Except Fault Nat :=
  (s.memory.load16 address).mapError .memory

/-- The cell of the frame that an index names, where a negative one counts from the end. -/
def cell? (index : Int) : Except Fault (Fin 2048) :=
  (Memory.cell? 2048 index).mapError .memory

def pixelOf {α : Type} (g : Grid α) (x y : Int) : Except Fault α := do
  return g.cells.get (← cell? (x + 64 * y))

def pixel (s : State) (x y : Int) : Except Fault Bool := pixelOf s.frame x y

def lightCell (s : State) (index : Int) : Except Fault State := do
  return { s with frame := ⟨s.frame.cells.setIfInBounds (← cell? index) true⟩ }

def countDown (timer : Int) : Int := if 0 < timer then timer - 1 else timer

/-- Counts both timers down by one; tells whether the sound timer ran out just now. -/
def tick (s : State) : Bool × State :=
  (s.sound == 1, { s with delay := countDown s.delay, sound := countDown s.sound })

def setKeys (s : State) (snapshot : Array Bool) : Except Fault State :=
  match Keys.ofArray? snapshot with
  | some keys => .ok { s with keys }
  | none => .error .keyCount

end State

end Chip8
