import Chip8.Text.CodePoints

/-! How a program ends. -/
namespace Chip8

inductive Exit (ε : Type)
  | code (n : Nat)
  | helped
  /-- With a complaint about the command line. -/
  | usage (message : CodePoints)
  /-- With a failure that nobody handles. -/
  | escaped (failure : ε)
  /-- Not within the cycles that it was given. -/
  | unfinished
deriving DecidableEq, Repr

def Exit.usageCode : Nat := 2

end Chip8
