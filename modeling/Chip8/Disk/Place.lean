import Chip8.Disk.FileName
import Chip8.Disk.Path

/-! Places in a tree of files, and how a path leads to one. The tree is known from its top
downwards; the directories above the top have no names, only their distance. -/
namespace Chip8

inductive Base
  /-- So many levels above the top. -/
  | above (levels : Nat)
  | root
deriving DecidableEq, Repr

/-- The way to a place: its base and the names downwards from there. -/
structure Place where
  base : Base
  names : List FileName
deriving DecidableEq, Repr

namespace Place

def top : Place := ⟨.above 0, []⟩

def root : Place := ⟨.root, []⟩

def ofAnchor : Anchor → Place
  | .here => top
  | .root | .doubleRoot => root

/-- The directory around a place. Nothing is above the root. -/
def up (p : Place) : Place :=
  if p.names.isEmpty then
    match p.base with
    | .above levels => ⟨.above (levels + 1), []⟩
    | .root => p
  else
    { p with names := p.names.dropLast }

def down (p : Place) (name : FileName) : Place := { p with names := p.names ++ [name] }

/-- One component of a path further; two dots lead upwards. -/
def step (p : Place) (name : FileName) : Place :=
  if name = FileName.parent then p.up else p.down name

def isWithin (p : Place) : Bool := p.base = .above 0

def path (p : Place) : Path :=
  match p.base with
  | .above levels =>
    ⟨.here, (List.replicate levels FileName.parent ++ p.names).map FileName.toText⟩
  | .root => ⟨.root, p.names.map FileName.toText⟩

theorem up_down (p : Place) (name : FileName) : (p.down name).up = p := by
  simp [up, down]

end Place

end Chip8
