import Chip8.Text.CodePoints

/-! The screen raster: one value per cell, 32 rows of 64, row after row. -/
namespace Chip8

structure Grid (α : Type) where
  cells : Vector α 2048
deriving DecidableEq

namespace Grid

def width : Nat := 64
def height : Nat := 32
def count : Nat := 2048

def litMark : CodePoints := .ofString "#"
def darkMark : CodePoints := .ofString "."

inductive Fault
  | wrongCount
deriving DecidableEq, Repr

def Fault.message : Fault → String
  | .wrongCount => "framebuffer must have 2048 cells"

variable {α : Type}

def fill (a : α) : Grid α :=
  ⟨Vector.replicate 2048 a⟩

/-- A raster from its cells in order, if there are exactly as many as it needs. -/
def ofArray? (cells : Array α) : Option (Grid α) :=
  if full : cells.size = 2048 then some ⟨⟨cells, full⟩⟩ else none

def ofCells (cells : Array α) : Except Fault (Grid α) :=
  match ofArray? cells with
  | some g => .ok g
  | none => .error .wrongCount

def cell (g : Grid α) (x : Fin 64) (y : Fin 32) : α :=
  g.cells[x.val + 64 * y.val]

def rows (g : Grid α) : List (List α) :=
  List.ofFn fun y => List.ofFn fun x => g.cell x y

def lines (lit : α → Bool) (on off : CodePoints) (g : Grid α) : List CodePoints :=
  g.rows.map fun row => row.flatMap fun value => if lit value then on else off

def text (lit : α → Bool) (on off : CodePoints) (g : Grid α) : CodePoints :=
  (CodePoints.ofString "\n").intercalate (g.lines lit on off)

def indices (p : α → Bool) (g : Grid α) : List Nat :=
  ((List.finRange 2048).filter fun i => p (g.cells[i.val])).map Fin.val

end Grid

abbrev Frame := Grid Bool

namespace Frame

def dark : Frame := Grid.fill false

def lit (f : Frame) (i : Nat) : Bool :=
  if inside : i < 2048 then f.cells[i] else false

/-- Inverts one cell; there is nothing to invert outside the raster. -/
def toggle (f : Frame) (i : Nat) : Frame :=
  if inside : i < 2048 then ⟨f.cells.set i (!f.cells[i])⟩ else f

/-- Inverts one more cell. The mark tells whether one was lit when its turn came. -/
def plot (drawn : Frame × Bool) (i : Nat) : Frame × Bool :=
  (drawn.1.toggle i, drawn.2 || drawn.1.lit i)

theorem lit_toggle (f : Frame) (i j : Nat) (inside : i < 2048) :
    (f.toggle i).lit j = if i = j then !f.lit j else f.lit j := by
  simp only [toggle, lit, inside, dif_pos]
  by_cases far : j < 2048
  · simp only [far, dif_pos, Vector.getElem_set]
    split
    · next same => subst same; rfl
    · rfl
  · have apart : i ≠ j := by omega
    simp [far, apart]

end Frame

end Chip8
