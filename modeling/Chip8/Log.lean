import Chip8.Fault
import Chip8.Text.CodePoints

/-! What a run reports while it goes: each report has a level, the channel it belongs to
and a text. A report is written if its level reaches the threshold. -/
namespace Chip8

/-- The machine as one line of a trace shows it, before the instruction at `pc` runs. -/
structure TraceLine where
  pc : Int
  word : Nat
  i : Int
  sp : Int
  delay : Int
  sound : Int
  registers : List UInt8
deriving DecidableEq, Repr

def TraceLine.text (t : TraceLine) : String :=
  s!"PC={Hex.upperSigned 3 t.pc} OP={Hex.upper 4 t.word} I={Hex.upperSigned 3 t.i} " ++
  s!"SP={Hex.upperSigned 1 t.sp} " ++
  s!"DT={Hex.upperSigned 2 t.delay} ST={Hex.upperSigned 2 t.sound} V=[" ++
  " ".intercalate (t.registers.map Hex.byte) ++ "]"

inductive Report
  | runStarted (pc : Int)
  | runHalted (pc : Int) (fault : Fault)
  | runStopped (cycles : Nat) (reason : CodePoints)
  | beeped (count : Nat)
  | traced (level : Int) (line : TraceLine)
deriving DecidableEq, Repr

namespace Report

def debug : Int := 10
def warning : Int := 30
def error : Int := 40

def level : Report → Int
  | runStarted _ | runStopped .. | beeped _ => debug
  | runHalted .. => error
  | traced level _ => level

def channel : Report → String
  | runStarted _ | runHalted .. | runStopped .. => "chip8vm.system.scheduler"
  | beeped _ => "chip8vm.system.platform"
  | traced .. => "chip8vm.debug.observers"

def message : Report → CodePoints
  | runStarted pc => .ofString s!"run started at pc={Hex.upperSigned 3 pc}"
  | runHalted pc fault => .ofString s!"run halted at pc={Hex.upperSigned 3 pc}: {fault.message}"
  | runStopped cycles reason =>
    let why := if reason.isEmpty then .ofString "stop requested" else reason
    .ofString s!"run stopped after {cycles} cycles (" ++ why ++ .ofString ")"
  | beeped count => .ofString s!"beep #{count}"
  | traced _ line => .ofString line.text

def levelName (level : Int) : String :=
  if level = 0 then "NOTSET"
  else if level = 10 then "DEBUG"
  else if level = 20 then "INFO"
  else if level = 30 then "WARNING"
  else if level = 40 then "ERROR"
  else if level = 50 then "CRITICAL"
  else s!"Level {level}"

/-- The threshold that counts. Zero sets none, and then warnings are the least that is written. -/
def effective (threshold : Int) : Int := if threshold = 0 then warning else threshold

/-- Levels of zero and below are never written. -/
def enabled (threshold level : Int) : Bool :=
  0 < level && threshold ≤ level

def line (r : Report) : CodePoints :=
  .ofString s!"{levelName r.level}:{r.channel}:" ++ r.message

def lines (threshold : Int) (reports : List Report) : List CodePoints :=
  (reports.filter fun r => enabled threshold r.level).map line

def text (threshold : Int) (reports : List Report) : CodePoints :=
  (lines threshold reports).flatMap CodePoints.line

end Report

end Chip8
