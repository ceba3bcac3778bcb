import Chip8.Diagnostics
import Chip8.Player
import Chip8.Random.Dice

/-! The command line. `debug` as the first argument calls the diagnostic runner on the rest,
anything else the player. Both work on a disk that holds the files their arguments name;
what they change on it is then written. -/

namespace Chip8.Shell

/-- No run lasts longer than this many cycles. -/
def cycleBudget : Nat := 1000000000000

/-- So deep may containers lie in each other in a keymap file. -/
def keymapDepth : Nat := 990

/-- What an argument may name: itself, or what follows its equals sign. -/
def namesIn (argument : CodePoints) : List CodePoints :=
  match CommandLine.splitEquals argument with
  | (_, some value) => [argument, value]
  | _ => [argument]

def shown (text : CodePoints) : String := String.ofList (text.map Char.ofNat)

/-- Adds what the file system holds under a name, and the directory above it. -/
def addNamed (disk : Disk) (name : CodePoints) : IO Disk := do
  let path := Path.ofText name
  let here ← IO.currentDir
  let file := here / shown path.text
  let around : Change Disk Disk.Fault Unit :=
    if ← (here / shown path.parent.text).isDir then Disk.ensureDirectory path.parent else pure ()
  let found : Change Disk Disk.Fault Unit ←
    if ← file.isDir then pure (Disk.ensureDirectory path)
    else if ← file.pathExists then pure (Disk.plant path (← IO.FS.readBinFile file).toList)
    else pure (pure ())
  return found.after (around.after disk)

def diskFor (arguments : List CodePoints) : IO Disk :=
  (arguments.flatMap namesIn).foldlM addNamed Disk.empty

def writeChanges (before after : Disk) : IO Unit :=
  (Disk.changes before after).forM fun (place, content) =>
    IO.FS.writeBinFile (shown place.path.text) ⟨content.toArray⟩

def diceFor (fresh : Nat) (seed : Option Int) : Dice :=
  .twister (.ofSeed (seed.getD fresh))

def finish {ε : Type} (describe : ε → String) : Exit ε → IO UInt32
  | .code n => return UInt32.ofNat n
  | .helped => return 0
  | .usage _ => return UInt32.ofNat Exit.usageCode
  | .escaped failure => do
    (← IO.getStderr).putStrLn (describe failure)
    return 1
  | .unfinished => return 1

def debug (arguments : List CodePoints) (fresh : Nat) : IO UInt32 := do
  let disk ← diskFor arguments
  let result := Diagnostics.run arguments (diceFor fresh) cycleBudget disk
  (← IO.getStdout).write ⟨result.output.toArray⟩
  (← IO.getStderr).putStr (shown result.errors)
  writeChanges disk result.disk
  finish Diagnostics.Escape.message result.exit

def noDesktop : Desktop := ⟨fun _ => none, 0, false, false, false, [], [.quit], #[]⟩

def play (arguments : List CodePoints) (fresh : Nat) : IO UInt32 := do
  let disk ← diskFor arguments
  let traced := (← IO.getEnv "CHIP8VM_TRACE").isSome
  let result :=
    Player.run arguments traced (diceFor fresh) cycleBudget keymapDepth noDesktop disk
  (← IO.getStdout).putStr result.output
  (← IO.getStderr).putStr (shown result.errors)
  writeChanges disk result.disk
  finish (fun failure => shown failure.message) result.exit

end Chip8.Shell

def main (arguments : List String) : IO UInt32 := do
  let fresh ← IO.rand 0 0x7FFFFFFF
  match arguments with
  | "debug" :: rest => Chip8.Shell.debug (rest.map Chip8.CodePoints.ofString) fresh
  | _ => Chip8.Shell.play (arguments.map Chip8.CodePoints.ofString) fresh
