import Chip8.Text.CodePoints

/-! File paths. Empty and single-dot components say nothing and are dropped. Two slashes at
the front are kept, more of them count as one. -/
namespace Chip8

inductive Anchor
  | here
  | root
  | doubleRoot
deriving DecidableEq, Repr

def Anchor.text : Anchor → CodePoints
  | .here => []
  | .root => .ofString "/"
  | .doubleRoot => .ofString "//"

structure Path where
  anchor : Anchor
  parts : List CodePoints
deriving DecidableEq, Repr

namespace Path

def slash : Nat := 0x2F

def dot : Nat := 0x2E

def split : CodePoints → List CodePoints
  | [] => [[]]
  | point :: rest =>
    match split rest with
    | piece :: pieces =>
      if point = slash then [] :: piece :: pieces else (point :: piece) :: pieces
    | [] => [[point]]

def anchorOf (t : CodePoints) : Anchor :=
  match (t.takeWhile (· = slash)).length with
  | 0 => .here
  | 2 => .doubleRoot
  | _ => .root

def ofText (t : CodePoints) : Path where
  anchor := anchorOf t
  parts := (split t).filter fun piece => piece ≠ [] ∧ piece ≠ [dot]

/-- The path as it is shown; the empty path is the current directory. -/
def text (p : Path) : CodePoints :=
  let shown := p.anchor.text ++ [slash].intercalate p.parts
  if shown.isEmpty then [dot] else shown

def name (p : Path) : CodePoints := p.parts.getLast?.getD []

def parent (p : Path) : Path := { p with parts := p.parts.dropLast }

/-- The name up to its last dot, if text stands on both sides of that dot. -/
def stem (p : Path) : CodePoints :=
  let reversed := p.name.reverse
  let suffix := reversed.takeWhile (· ≠ dot)
  match reversed.drop suffix.length with
  | _ :: base => if base.isEmpty || suffix.isEmpty then p.name else base.reverse
  | [] => p.name

example : (ofText (.ofString "./a//b.c.ch8")).text = .ofString "a/b.c.ch8" := by decide +kernel
example : (ofText (.ofString "//a/.")).text = .ofString "//a" := by decide +kernel
example : (ofText (.ofString "a/b.c.ch8")).stem = .ofString "b.c" := by decide +kernel

end Path

end Chip8
