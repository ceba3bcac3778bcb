import Chip8.Disk
import Chip8.Session
import Chip8.Text.Uppercase

/-! Loading programs from memory or from a file. A program without a name is called after
its file, in upper case. -/
namespace Chip8

inductive LoadFault
  | disk (fault : Disk.Fault)
  | program (fault : Program.Fault)
deriving DecidableEq, Repr

def LoadFault.message : LoadFault → String
  | .disk fault => fault.message
  | .program fault => fault.message

/-- The fault of a path that no file could have. Others are those of a file or its program. -/
def LoadFault.ofPath? : LoadFault → Option Disk.Fault
  | .disk fault => if fault.isRefusal then none else some fault
  | .program _ => none

namespace Session

variable {ρ κ : Type}

def plainName : CodePoints := .ofString "ROM"

def loadImage (m : Session ρ κ) (image : List UInt8) (name : CodePoints) :
    Except LoadFault Program × Session ρ κ :=
  let (result, m) := m.load image (if name.isEmpty then plainName else name) none
  (result.mapError .program, m)

def loadFile (m : Session ρ κ) (disk : Disk) (path : Path) (name : CodePoints) :
    Except LoadFault Program × Session ρ κ :=
  match disk.read path with
  | .error fault => (.error (.disk fault), m)
  | .ok image =>
    let name := if name.isEmpty then Uppercase.text path.stem else name
    let (result, m) := m.load image name (some path.text)
    (result.mapError .program, m)

end Session

end Chip8
