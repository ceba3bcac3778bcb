import Chip8.State
import Chip8.Text.CodePoints

/-! Program images. An image lies in memory from 0x200 on and has to end within it. -/
namespace Chip8

structure Program where
  name : CodePoints
  size : Nat
  path : Option CodePoints
deriving DecidableEq, Repr

namespace Program

def start : Nat := State.programStart

/-- The last address of the image, one below its start if it is empty. -/
def finish (p : Program) : Nat := start + p.size - 1

def limit : Nat := 0x1000 - start

inductive Fault
  | tooLarge (size : Nat)
  | memory (cause : Memory.Fault)
deriving DecidableEq, Repr

def Fault.message : Fault → String
  | .tooLarge size => s!"ROM is {size} bytes, limit is {limit}"
  | .memory cause => cause.message

/-- Memory with an image in it. The size is checked before anything is written. -/
def place (memory : Memory 0x1000) (image : List UInt8) : Except Fault (Memory 0x1000) :=
  if limit < image.length then
    .error (.tooLarge image.length)
  else
    (memory.writeBytes start image).mapError .memory

end Program

end Chip8
