import Chip8.Change
import Chip8.Disk.Place
import Chip8.Text.Quoted

/-! The files that a program can see: a tree of directories with files in it, at whose top
the program stands. Paths may leave it upwards or start at the root. Reading and writing
refuse paths as a file system does. -/
namespace Chip8

structure Disk where
  /-- What lies at each place; a directory has no content. -/
  entries : List (Place × Option (List UInt8))
deriving DecidableEq

namespace Disk

inductive Cause
  | notFound
  | occupied
  | notDirectory
  | isDirectory
  | nameTooLong
deriving DecidableEq, Repr

inductive Fault
  | refused (cause : Cause) (path : CodePoints)
  | unwritablePath (cause : Utf8.Unwritable)
  | nulInPath
deriving DecidableEq, Repr

def Cause.message : Cause → String
  | .notFound => "[Errno 2] No such file or directory"
  | .occupied => "[Errno 17] File exists"
  | .notDirectory => "[Errno 20] Not a directory"
  | .isDirectory => "[Errno 21] Is a directory"
  | .nameTooLong => "[Errno 36] File name too long"

/-- Whether it was the file system that refused. Otherwise the path is none that could be asked
for. -/
def Fault.isRefusal : Fault → Bool
  | .refused .. => true
  | .unwritablePath _ | .nulInPath => false

def Fault.message : Fault → String
  | .refused cause path => s!"{cause.message}: {Quoted.points path}"
  | .unwritablePath cause => cause.message
  | .nulInPath => "embedded null byte"

def empty : Disk := ⟨[]⟩

/-- What lies at a place: nothing, a directory or a file. The directories from which names
are counted are always there. -/
def entry? (d : Disk) (place : Place) : Option (Option (List UInt8)) :=
  if place.names = [] then some none else d.entries.lookup place

def setEntry (d : Disk) (place : Place) (content : Option (List UInt8)) : Disk :=
  ⟨(place, content) :: d.entries.filter fun known => known.1 ≠ place⟩

/-- A file system refuses longer components, counted in bytes. -/
def nameLimit : Nat := 255

def pathLimit : Nat := 4095

def enter (d : Disk) (here : Place) (name : FileName) : Except Cause Place :=
  match d.entry? here with
  | some none =>
    if nameLimit < name.length then .error .nameTooLong
    else if (d.entry? (here.step name)).isSome then .ok (here.step name)
    else .error .notFound
  | some (some _) => .error .notDirectory
  | none => .error .notFound

def locate (d : Disk) (p : Path) : Except Cause Place :=
  (p.parts.map FileName.ofText).foldlM d.enter (.ofAnchor p.anchor)

/-- What a path leads to is looked for only if the path can be that of a file at all. -/
def checked {α : Type} (p : Path) (look : Except Cause α) : Except Fault α :=
  match FileName.unwritable? p.text with
  | some cause => .error (.unwritablePath cause)
  | none =>
    if p.text.contains 0 then .error .nulInPath
    else if pathLimit < (FileName.ofText p.text).length then .error (.refused .nameTooLong p.text)
    else look.mapError (.refused · p.text)

def read (d : Disk) (p : Path) : Except Fault (List UInt8) :=
  checked p do
    match d.entry? (← d.locate p) with
    | some (some content) => return content
    | _ => throw .isDirectory

def target (d : Disk) (p : Path) : Except Cause Place :=
  match p.parts.getLast? with
  | none => .error .isDirectory
  | some last => do
    let parent ← d.locate p.parent
    let name := FileName.ofText last
    match d.enter parent name with
    | .ok place =>
      if (d.entry? place).join.isSome then .ok place else .error .isDirectory
    | .error .notFound => .ok (parent.down name)
    | .error cause => .error cause

def write (d : Disk) (p : Path) (content : List UInt8) : Except Fault Disk := do
  return d.setEntry (← checked p (d.target p)) content

def makeOne (d : Disk) (p : Path) : Except Fault Disk :=
  checked p do
    match p.parts.getLast? with
    | none => throw .occupied
    | some last =>
      let parent ← d.locate p.parent
      let name := FileName.ofText last
      match d.enter parent name with
      | .ok _ => throw .occupied
      | .error .notFound => return d.setEntry (parent.down name) none
      | .error cause => throw cause

def isDirectory (d : Disk) (p : Path) : Bool :=
  match checked p (d.locate p) with
  | .ok place => d.entry? place = some none
  | .error _ => false

def ensureOne (d : Disk) (p : Path) : Except Fault Disk :=
  match d.makeOne p with
  | .ok d => .ok d
  | .error fault => if d.isDirectory p then .ok d else .error fault

/-- Makes a directory unless it is there, and before it those on the way that are missing. The
components come last first. -/
def ensureWay (anchor : Anchor) : List CodePoints → Change Disk Fault Unit
  | [] => pure ()
  | last :: before => fun d =>
    let path : Path := ⟨anchor, (last :: before).reverse⟩
    match d.ensureOne path with
    | .ok d => .ok () d
    | .error (.refused .notFound _) =>
      (do ensureWay anchor before; Change.whole (·.ensureOne path) : Change Disk Fault Unit) d
    | .error fault => .error fault d

def ensureDirectory (p : Path) : Change Disk Fault Unit := ensureWay p.anchor p.parts.reverse

def makeDirectory (p : Path) : Change Disk Fault Unit := fun d =>
  match d.makeOne p with
  | .ok d => .ok () d
  | .error (.refused .notFound _) =>
    (do ensureDirectory p.parent; Change.whole (·.makeOne p) : Change Disk Fault Unit) d
  | .error fault => .error fault d

def plant (p : Path) (content : List UInt8) : Change Disk Fault Unit := do
  ensureDirectory p.parent
  Change.whole (·.write p content)

def changes (before after : Disk) : List (Place × List UInt8) :=
  after.entries.filterMap fun (place, content) =>
    match content with
    | some bytes => if before.entries.lookup place = some content then none else some (place, bytes)
    | none => none

end Disk

end Chip8
