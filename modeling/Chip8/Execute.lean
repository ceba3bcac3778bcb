import Chip8.Change
import Chip8.Instruction
import Chip8.Random
import Chip8.State

/-! One instruction: fetch, decode, perform. Of a machine whose registers and stack are whole, an
instruction checks everything that it needs before it changes anything, so a faulting one has no
effect. Elsewhere a fault can come in the middle, and what was done before it remains. -/
namespace Chip8

def Sprite.rowCells (base : Nat) (bits : UInt8) : List Nat :=
  ((List.range 8).filter fun column => bits.toNat.testBit (7 - column)).map (base + ·)

/-- The cells under the set bits of a sprite, row by row from left to right. Positions
are neither wrapped nor clipped: past the right edge a row goes on in the next line. -/
def Sprite.cells (base : Nat) : List UInt8 → List Nat
  | [] => []
  | bits :: rest => rowCells base bits ++ cells (base + 64) rest

def Instruction.fetch {size : Nat} (m : Memory size) (address : Int) :
    Except Memory.Fault Nat := do
  let high ← m.load8 address
  let low ← m.load8 (address + 1)
  return high.toNat * 0x100 + low.toNat

namespace Registers

def flag : Fin 16 := Fin.last 15

def setFlag (v : Registers) (raised : Bool) : Except Fault Registers :=
  v.set flag (if raised then 1 else 0)

/- The flag is written first. A result is computed from the registers as they are then,
so an operand that is VF itself has the new flag as its value. -/

def add (v : Registers) (x y : Fin 16) : Except Fault Registers := do
  let w ← v.setFlag (255 < (← v.get x).toNat + (← v.get y).toNat)
  w.set x ((← w.get x) + (← w.get y))

def subtract (v : Registers) (x y : Fin 16) : Except Fault Registers := do
  let w ← v.setFlag ((← v.get y) < (← v.get x))
  w.set x ((← w.get x) - (← w.get y))

def shiftRight (v : Registers) (x : Fin 16) : Except Fault Registers := do
  let w ← v.setFlag ((← v.get x) % 2 = 1)
  w.set x ((← w.get x) / 2)

def subtractFrom (v : Registers) (x y : Fin 16) : Except Fault Registers := do
  let w ← v.setFlag ((← v.get x) ≤ (← v.get y))
  w.set x ((← w.get y) - (← w.get x))

def shiftLeft (v : Registers) (x : Fin 16) : Except Fault Registers := do
  let w ← v.setFlag (128 ≤ (← v.get x))
  w.set x ((← w.get x) * 2)

def combine (v : Registers) (x y : Fin 16) (f : UInt8 → UInt8 → UInt8) :
    Except Fault Registers := do
  v.set x (f (← v.get x) (← v.get y))

end Registers

abbrev Effect := Changed State Fault Unit

namespace State

/-- Moves on to the next instruction. The program counter has sixteen bits. -/
def advance (s : State) : State :=
  { s with pc := (s.pc + 2) % 0x10000 }

def skipWhen (s : State) (condition : Bool) : State :=
  { s with pc := (s.pc + if condition then 4 else 2) % 0x10000 }

def withRegisters (s : State) (v : Except Fault Registers) : Except Fault State := do
  return { s with v := ← v }

def setRegister (s : State) (x : Fin 16) (b : UInt8) : Except Fault State :=
  s.withRegisters (s.v.set x b)

def requireBlock (s : State) (count : Nat) : Except Fault Unit :=
  if 0x1000 < s.i + count then .error (.pastEnd count s.i) else .ok ()

def readAtIndex (s : State) (count : Nat) : List UInt8 := (s.memory.readBlock s.i count).toList

def writeAtIndex (s : State) (block : List UInt8) : Except Fault State :=
  match s.memory.writeBytes s.i block with
  | .ok memory => .ok { s with memory }
  | .error cause => .error (.memory cause)

/-- Goes back behind the latest open call, which is closed even if nothing is known of it. -/
def returnFromCall (s : State) : Effect :=
  if s.sp = 0 then
    .error (.stackUnderflow s.pc) s
  else
    let s := { s with sp := s.sp - 1 }
    match s.slot s.sp with
    | .ok address => .ok () { s with pc := (address + 2) % 0x10000 }
    | .error fault => .error fault s

/-- Remembers the address of the call itself and goes to `target`. -/
def callTo (s : State) (target : Nat) : Except Fault State :=
  if 16 ≤ s.sp then
    .error (.stackOverflow s.pc)
  else do
    let s ← s.setSlot s.sp s.pc
    return { s with sp := s.sp + 1, pc := target }

def spriteCells (s : State) (x y : Fin 16) (n : Nat) : Except Fault (List Nat) := do
  let base := (← s.v.get x).toNat + 64 * (← s.v.get y).toNat
  s.requireBlock n
  let cells := Sprite.cells base (s.readAtIndex n)
  match cells.find? (2048 ≤ ·) with
  | some index => throw (.spriteOutside index)
  | none => return cells

/-- Inverts the cells of the `n`-row sprite at I. VF tells whether one of them was lit. -/
def drawSprite (s : State) (x y : Fin 16) (n : Nat) : Effect :=
  match s.spriteCells x y n with
  | .error fault => .error fault s
  | .ok cells =>
    let (frame, collided) := cells.foldl Frame.plot (s.frame, false)
    match s.v.setFlag collided with
    | .ok v => .ok () { s with frame, v, redraw := true }.advance
    | .error fault => .error fault { s with frame }

def keyOf (s : State) (x : Fin 16) : Except Fault Bool := do
  let key ← s.v.get x
  if inside : key.toNat < 16 then .ok (s.keys.isDown ⟨_, inside⟩) else .error .noSuchKey

/-- Stores the highest key that is down and moves on, or stays until there is one. -/
def waitForKey (s : State) (x : Fin 16) : Except Fault State :=
  match s.keys.highest? with
  | none => .ok s
  | some key => do return (← s.setRegister x (UInt8.ofNat key)).advance

/-- Stores the delay timer, which has to be a byte. -/
def readDelay (s : State) (x : Fin 16) : Except Fault State :=
  if 0 ≤ s.delay ∧ s.delay < 256 then s.setRegister x (UInt8.ofInt s.delay) else .error .notByte

/-- Adds a register to I. VF tells whether the sum leaves the twelve-bit addresses. -/
def addToIndex (s : State) (x : Fin 16) : Except Fault State := do
  let total := s.i + (← s.v.get x).toNat
  return { s with v := ← s.v.setFlag (0xFFF < total), i := total % 0x10000 }

def writeDecimal (s : State) (x : Fin 16) : Except Fault State := do
  s.requireBlock 3
  let b ← s.v.get x
  s.writeAtIndex [b / 100, b / 10 % 10, b % 10]

/-- Writes V0 to Vx at I, which moves behind them. -/
def saveRegisters (s : State) (x : Fin 16) : Except Fault State := do
  let count := x.val + 1
  s.requireBlock count
  let s ← s.writeAtIndex (s.v.toList.take count)
  return { s with i := (s.i + count) % 0x10000 }

def restoreRegisters (s : State) (x : Fin 16) : Except Fault State := do
  let count := x.val + 1
  s.requireBlock count
  return { s with
    v := s.v.replaceFirst count (s.readAtIndex count), i := (s.i + count) % 0x10000 }

variable {ρ : Type} [RandomSource ρ]

def perform (ins : Instruction) (s : State) (r : ρ) : Effect × ρ :=
  let x := ins.x
  let y := ins.y
  let change (after : Except Fault State) : Effect × ρ := (Changed.whole s after, r)
  let step (after : Except Fault State) : Effect × ρ := change (after.map advance)
  match ins.operation with
  | .clear => step (.ok { s with frame := Frame.dark, redraw := true })
  | .ret => (s.returnFromCall, r)
  | .jump => change (.ok { s with pc := ins.nnn })
  | .call => change (s.callTo ins.nnn)
  | .skipIfByte => change do return s.skipWhen ((← s.v.get x) == ins.kk)
  | .skipUnlessByte => change do return s.skipWhen ((← s.v.get x) != ins.kk)
  | .skipIfEqual => change do return s.skipWhen ((← s.v.get x) == (← s.v.get y))
  | .skipUnlessEqual => change do return s.skipWhen ((← s.v.get x) != (← s.v.get y))
  | .loadByte => step (s.setRegister x ins.kk)
  | .addByte => step do s.setRegister x ((← s.v.get x) + ins.kk)
  | .copy => step do s.setRegister x (← s.v.get y)
  | .or => step (s.withRegisters (s.v.combine x y (· ||| ·)))
  | .and => step (s.withRegisters (s.v.combine x y (· &&& ·)))
  | .xor => step (s.withRegisters (s.v.combine x y (· ^^^ ·)))
  | .add => step (s.withRegisters (s.v.add x y))
  | .subtract => step (s.withRegisters (s.v.subtract x y))
  | .shiftRight => step (s.withRegisters (s.v.shiftRight x))
  | .subtractFrom => step (s.withRegisters (s.v.subtractFrom x y))
  | .shiftLeft => step (s.withRegisters (s.v.shiftLeft x))
  | .loadIndex => step (.ok { s with i := ins.nnn })
  | .jumpOffset => change do
    return { s with pc := ((← s.v.get Instruction.base).toNat + ins.nnn : Nat) % 0x10000 }
  | .random =>
    let (value, r) := RandomSource.draw r
    let masked := value.map fun value => UInt8.ofInt value &&& ins.kk
    (Changed.whole s do return (← s.setRegister x (← masked)).advance, r)
  | .draw => (s.drawSprite x y ins.n, r)
  | .skipIfPressed => change do return s.skipWhen (← s.keyOf x)
  | .skipUnlessPressed => change do return s.skipWhen (!(← s.keyOf x))
  | .readDelay => step (s.readDelay x)
  | .awaitKey => change (s.waitForKey x)
  | .setDelay => step do return { s with delay := (← s.v.get x).toNat }
  | .setSound => step do return { s with sound := (← s.v.get x).toNat }
  | .addIndex => step (s.addToIndex x)
  | .glyph => step do return { s with i := ((← s.v.get x).toNat * Font.height : Nat) }
  | .decimal => step (s.writeDecimal x)
  | .save => step (s.saveRegisters x)
  | .restore => step (s.restoreRegisters x)

/-- Runs the instruction at the program counter, and names it if it completes. -/
def execute (s : State) (r : ρ) : Changed State Fault Instruction × ρ :=
  match Instruction.fetch s.memory s.pc with
  | .error cause => (.error (.memory cause) s, r)
  | .ok word =>
    match Instruction.decode? word with
    | none => (.error (.invalidWord word) s, r)
    | some ins =>
      match perform ins s r with
      | (.ok () s, r) => (.ok ins { s with opcode := word }, r)
      | (.error fault s, r) => (.error fault s, r)

end State

end Chip8
