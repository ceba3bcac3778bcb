import Chip8.Desktop
import Chip8.Grid
import Chip8.Memory

/-! The picture on a window: the cells that were presented last, in two colors. -/
namespace Chip8

structure Display where
  off : Int
  on : Int
  /-- A cell is lit unless it is zero. -/
  cells : Grid UInt8
  frames : Nat

namespace Display

inductive Fault
  | notBytes
  | wrongCount
  | scaleNotPositive
  | noGraphics
deriving DecidableEq, Repr

def Fault.message : Fault → String
  | .notBytes => Memory.Fault.notBytes.message
  | .wrongCount => "framebuffer must be 2048 cells"
  | .scaleNotPositive => "scaling factor must be positive"
  | .noGraphics => "pygame is required for render_pygame_surface"

def black : Int := 0x000000
def white : Int := 0xFFFFFF

def fresh : Display := ⟨black, white, Grid.fill 0, 0⟩

def isLit (cell : UInt8) : Bool := cell != 0

def present (d : Display) (cells : List UInt8) : Except Fault Display :=
  match Grid.ofArray? cells.toArray with
  | none => .error .wrongCount
  | some cells => .ok { d with cells, frames := d.frames + 1 }

/-- Takes over a new picture from numbers, each of which has to be a byte. -/
def update (d : Display) (cells : List Int) : Except Fault Display :=
  match Memory.bytes? cells with
  | .error _ => .error .notBytes
  | .ok bytes => d.present bytes

def ofFrame (f : Frame) : Grid UInt8 := ⟨f.cells.map fun lit => if lit then 1 else 0⟩

def showFrame (d : Display) (f : Frame) : Display :=
  { d with cells := ofFrame f, frames := d.frames + 1 }

/-- Changes the colors, of which 24 bits count. -/
def setColors (d : Display) (off on : Int) : Display :=
  { d with off := off % 0x1000000, on := on % 0x1000000 }

def color (d : Display) (cell : UInt8) : Int := if isLit cell then d.on else d.off

def pixels (d : Display) : List (List Int) := d.cells.rows.map fun row => row.map d.color

def text (d : Display) (on off : CodePoints) : CodePoints := d.cells.text isLit on off

def defaultScale : Int := 1

/-- A square of side `scale` for every lit cell. -/
def squares (d : Display) (scale : Int) : List Request :=
  (d.cells.indices isLit).map fun (i : Nat) =>
    .fillRect d.on ((i % 64 : Nat) * scale) ((i / 64 : Nat) * scale) scale scale

def paint (d : Display) (scale : Int) : List Request :=
  .surface (64 * scale) (32 * scale) :: .fill d.off :: d.squares scale

def surface (d : Display) (scale : Int) (desktop : Desktop) : Except Fault Desktop :=
  if scale ≤ 0 then .error .scaleNotPositive
  else if desktop.available then .ok (desktop.requestAll (d.paint scale))
  else .error .noGraphics

end Display

end Chip8
