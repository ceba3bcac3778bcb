import Chip8.CommandLine.Help
import Chip8.Dump
import Chip8.Exit
import Chip8.Loading
import Chip8.World
import Chip8.Written

/-! The diagnostic runner: it runs a program without a screen until something stops it,
dumps memory and tells by its exit code why the run ended. -/
namespace Chip8.Diagnostics

def program : String := "chip8vm-debug-runner"

def grammar : CommandLine.Grammar where
  program := program
  about := "Headless CHIP-8 runner for program diagnostics."
  options := [
    { name := "--program", takes := .text, required := true, about := "CHIP-8 program image" },
    { name := "--cycles", takes := .number
      about := "Maximum cycles to execute (0 or negative disables the limit)" },
    { name := "--break-pc", takes := .text
      about := "Break when PC reaches the given hex address (repeatable)" },
    { name := "--stop-on-stall", takes := .nothing
      about := "Stop when the program counter repeats on consecutive cycles" },
    { name := "--dump", takes := .text
      about := "File path for memory dump (defaults to stdout)" },
    { name := "--dump-range", takes := .text
      about := "Memory range to dump in START:END hex form (inclusive). " ++
        "Repeat to add multiple ranges." },
    { name := "--dump-format", takes := .choice ["hex", "bin"]
      about := "Dump format (hex table or raw binary)" },
    { name := "--no-dump", takes := .nothing, about := "Skip the memory dump" },
    { name := "--screen", takes := .nothing, about := "Print the final framebuffer as text" },
    { name := "--keys", takes := .text
      about := "Hex keys held down for the whole run (e.g. 5A)" },
    { name := "--seed", takes := .number, about := "Seed for the RND instruction" },
    { name := "--verbose", takes := .nothing
      about := "Enable debug logging (per-cycle trace)" }]
  operand := none

inductive Format
  | table
  | binary
deriving DecidableEq, Repr

structure Options where
  program : CodePoints
  /-- The largest number of cycles; none unless positive. -/
  cycles : Int
  breakpoints : List Nat
  stopOnStall : Bool
  /-- The file that memory is dumped to; without one it is the output. -/
  dump : CommandLine.Setting CodePoints
  spans : List Span
  format : Format
  noDump : Bool
  screen : Bool
  keys : List Int
  seed : Option Int
  verbose : Bool
deriving DecidableEq, Repr

inductive UsageFault
  | commandLine (fault : CommandLine.Fault)
  | breakpoint (written : CodePoints) (fault : Written.Fault)
  | span (written : CodePoints) (fault : Written.Fault)
  | keys (written : CodePoints) (fault : Written.Fault)
deriving DecidableEq, Repr

def invalid (what : String) (written : CodePoints) (fault : Written.Fault) : CodePoints :=
  .ofString s!"invalid {what} '" ++ written ++ .ofString s!"': {fault.message}"

def UsageFault.message : UsageFault → CodePoints
  | .commandLine fault => fault.message
  | .breakpoint written fault => invalid "breakpoint address" written fault
  | .span written fault => invalid "dump range" written fault
  | .keys written fault => invalid "key list" written fault

def defaultCycles : Int := 1000000

/-- Reads what an option says with `read`, whose refusal is passed on as `complain` words it. -/
def readOne {α : Type} (read : CodePoints → Except Written.Fault α)
    (complain : CodePoints → Written.Fault → UsageFault) (lack : CommandLine.Lack)
    (setting : CommandLine.Setting CodePoints) : Except (CommandLine.Refusal UsageFault) α := do
  let written := (← (setting.ask lack).mapError .lacking).getD []
  (read written).mapError fun fault => .wrong (complain written fault)

/-- Reads a command line. What is wrong first is reported. -/
def Options.parse (arguments : List CodePoints) :
    Except (CommandLine.Refusal UsageFault) Options := do
  let given ← (grammar.parse arguments).mapError fun fault => .wrong (.commandLine fault)
  let breakpoints ← (CommandLine.texts given "--break-pc").mapM
    (readOne Written.address .breakpoint .trim)
  let spans ← (CommandLine.texts given "--dump-range").mapM (readOne Written.span .span .split)
  let keys ← readOne Written.keys .keys .trim (CommandLine.text given "--keys")
  let cycles ← ((CommandLine.number given "--cycles").ask .exceedZero).mapError .lacking
  let seed ← ((CommandLine.number given "--seed").ask .seed).mapError .lacking
  let program ← ((CommandLine.text given "--program").ask .openFile).mapError .lacking
  return {
    program := program.getD []
    cycles := cycles.getD defaultCycles
    breakpoints := breakpoints
    stopOnStall := CommandLine.hasFlag given "--stop-on-stall"
    dump := CommandLine.text given "--dump"
    spans := spans.map fun (first, last) => ⟨first, last⟩
    format :=
      if CommandLine.text given "--dump-format" = .value (.ofString "bin") then .binary
      else .table
    noDump := CommandLine.hasFlag given "--no-dump"
    screen := CommandLine.hasFlag given "--screen"
    keys := keys
    seed := seed
    verbose := CommandLine.hasFlag given "--verbose" }

def Options.threshold (o : Options) : Int :=
  if o.verbose then Report.debug else Report.warning

structure Watch where
  trace : Option Trace
  breakpoints : Option Breakpoints
  stall : Option Stall
  limit : Option CycleLimit

def Options.watch (o : Options) : Watch where
  trace := if o.verbose then some Trace.fresh else none
  breakpoints :=
    if o.breakpoints.isEmpty then none else some (.ofList (o.breakpoints.map Int.ofNat))
  stall := if o.stopOnStall then some Stall.fresh else none
  limit := if 0 < o.cycles then some (.ofNat o.cycles.toNat) else none

/-- The observers as a chain. A breakpoint comes before a stall, a stall before the limit. -/
def Watch.chain (w : Watch) : Observer :=
  .chain ((w.trace.map Observer.trace).toList ++ (w.breakpoints.map Observer.breakpoints).toList
    ++ (w.stall.map Observer.stall).toList ++ (w.limit.map Observer.limit).toList)

def wasHit : Observer → Bool
  | .breakpoints o => o.hit.isSome
  | _ => false

def wasStalled : Observer → Bool
  | .stall o => o.stalledAt.isSome
  | _ => false

def wasLimited : Observer → Bool
  | .limit o => o.reached
  | _ => false

/-- What an error that no one expects carries out of the program. -/
inductive Escape
  | machine (failure : Failure Empty)
  | disk (fault : Disk.Fault)
  | lacking (what : CommandLine.Lack)

def Escape.message : Escape → String
  | .machine (.fault f) => f.message
  | .machine (.outside e) => nomatch e
  | .disk fault => fault.message
  | .lacking what => what.message

structure Result where
  exit : Exit Escape
  output : List UInt8
  errors : CodePoints
  disk : Disk

def line (text : CodePoints) : List UInt8 := Utf8.encode text.line

def writeDump (o : Options) (m : Memory 0x1000) (disk : Disk) :
    Except Escape (List UInt8 × Disk) :=
  let spans := Span.join o.spans
  let content := match o.format with
    | .table => line (.ofString (Dump.table m spans))
    | .binary => Dump.binary m spans
  match o.dump with
  | .absent => .ok (content, disk)
  | .blank => .error (.lacking .openFile)
  | .value file => ((disk.write (Path.ofText file) content).mapError .disk).map ([], ·)

/-- The exit code, and the last message to go with it. Of a fault, a breakpoint, a stall and
the limit, the first that applies decides. -/
def verdict (outcome : Outcome) (members : List Observer) : Nat × Option String :=
  match outcome.error with
  | some fault => (4, some s!"Execution stopped: {fault.message}")
  | none =>
    if members.any wasHit then (0, none)
    else if members.any wasStalled then (0, none)
    else if members.any wasLimited then (2, some "Execution stopped: cycle limit reached")
    else (0, none)

def members : Option Observer → List Observer
  | some (.chain members) => members
  | _ => []

def hold (keys : List Int) : Headless :=
  keys.foldl (fun h key => ((h.setKey key true).toOption).getD h)
    { Headless.fresh with keepFrames := false }

variable {ρ : Type} [RandomSource ρ]

def conclude (o : Options) (disk : Disk) (outcome : Outcome) (m : Session ρ (World Headless))
    (errors : CodePoints) : Result :=
  let dumped := if o.noDump then .ok ([], disk) else writeDump o m.state.memory disk
  match dumped with
  | .error escape => ⟨.escaped escape, [], errors, disk⟩
  | .ok (output, disk) =>
    let screen := if o.screen then line (m.state.frame.text id Grid.litMark Grid.darkMark) else []
    let (code, message) := verdict outcome (members m.world.observer)
    let errors := errors ++ (message.map (CodePoints.line ∘ .ofString)).getD []
    ⟨.code code, output ++ screen, errors, disk⟩

/-- Runs the program that the options name. `patience` bounds a run that has no limit. -/
def execute (o : Options) (random : ρ) (patience : Nat) (disk : Disk) : Result :=
  let world : World Headless := ⟨some o.watch.chain, hold o.keys, o.threshold, []⟩
  let (loaded, m) := (Session.start random world).loadFile disk (Path.ofText o.program) []
  match loaded with
  | .error fault =>
    match fault.ofPath? with
    | some fault => ⟨.escaped (.disk fault), [], [], disk⟩
    | none => ⟨.code 1, [], .ofString s!"Failed to load program: {fault.message}\n", disk⟩
  | .ok _ =>
    let around : Surroundings (World Headless) Empty := World.surroundings (some Headless.host)
    let fuel := if 0 < o.cycles then o.cycles.toNat else patience
    let (result, m) := Session.run around none fuel m
    let errors := Report.text o.threshold m.log.toList
    match result with
    | .error failure => ⟨.escaped (.machine failure), [], errors, disk⟩
    | .ok none => ⟨.unfinished, [], errors, disk⟩
    | .ok (some outcome) => conclude o disk outcome m errors

def run (arguments : List CodePoints) (seeded : Option Int → ρ) (patience : Nat) (disk : Disk) :
    Result :=
  match Options.parse arguments with
  | .error (.wrong (.commandLine .helpWanted)) =>
    ⟨.helped, line (.ofString grammar.help), [], disk⟩
  | .error (.lacking what) => ⟨.escaped (.lacking what), [], [], disk⟩
  | .error (.wrong fault) =>
    let message := (.ofString s!"{program}: error: " ++ fault.message : CodePoints).line
    ⟨.usage message, [], message, disk⟩
  | .ok options => execute options (seeded options.seed) patience disk

end Chip8.Diagnostics
