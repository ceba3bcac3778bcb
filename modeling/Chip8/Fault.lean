import Chip8.Memory

/-! Faults of the machine. Some of them are verdicts on the program and end a run in an orderly
way: four that the machine passes itself, and those that are passed around it, in words of their
own. The others mean that the machine was asked for something it does not have. -/
namespace Chip8

inductive Fault
  | invalidWord (word : Int)
  | stackOverflow (pc : Int)
  | stackUnderflow (pc : Int)
  | spriteOutside (index : Nat)
  | declared (text : String)
  | pastEnd (count : Nat) (i : Int)
  | noSuchKey
  | noSuchSlot
  | noSlotToFill
  | noSnapshot
  | noSuchRegister
  | noNumbers
  | notByte
  | memory (cause : Memory.Fault)
  | keyCount
deriving DecidableEq, Repr

namespace Fault

/-- Whether the fault is the program's own and so ends a run with a report. -/
def endsRun : Fault → Bool
  | invalidWord _ | stackOverflow _ | stackUnderflow _ | spriteOutside _ | declared _ => true
  | pastEnd .. | noSuchKey | noSuchSlot | noSlotToFill | noSnapshot | noSuchRegister | noNumbers
  | notByte | memory _ | keyCount => false

def message : Fault → String
  | invalidWord word => s!"invalid opcode {Hex.tagged 6 word}"
  | stackOverflow pc => s!"call stack overflow at {Hex.tagged 5 pc}"
  | stackUnderflow pc => s!"return with empty call stack at {Hex.tagged 5 pc}"
  | spriteOutside index => s!"sprite pixel index {index} outside framebuffer"
  | declared text => text
  | pastEnd count i => s!"{count} bytes at I={Hex.tagged 5 i} run past the end of memory"
  | noSuchKey | noSuchSlot | noSnapshot => "list index out of range"
  | noSlotToFill => "list assignment index out of range"
  | noSuchRegister => Memory.Fault.outside.message
  | noNumbers => "integer modulo by zero"
  | notByte => "byte must be in range(0, 256)"
  | memory cause => cause.message
  | keyCount => "key state must have 16 entries"

end Fault

end Chip8
