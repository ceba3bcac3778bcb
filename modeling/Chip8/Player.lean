import Chip8.CommandLine.Help
import Chip8.Exit
import Chip8.Keymap.Loading
import Chip8.Loading
import Chip8.Window
import Chip8.World

/-! The player: it runs a program in a window, with keys and sound, until the window is
closed or the program ends in a fault. It also writes templates of keymap files. -/
namespace Chip8.Player

def program : String := "chip8vm"

def grammar : CommandLine.Grammar where
  program := program
  about := "CHIP-8 virtual machine"
  options := [
    { name := "--write-keymap-template", takes := .text, valueName := some "PATH"
      about := "Write a JSON keymap template to the given path and exit" },
    { name := "--scale", takes := .number
      about := "Integer scaling factor for display (default: 10)" },
    { name := "--keymap", takes := .text
      about := "Path to JSON file mapping pygame key names to hex keys" },
    { name := "--seed", takes := .number, about := "Seed for the RND instruction" },
    { name := "--no-audio", takes := .nothing, about := "Disable the beeper" },
    { name := "--stop-on-stall", takes := .nothing
      about := "Stop when the program counter stops moving (jump-to-self)" },
    { name := "--verbose", takes := .nothing
      about := "Enable debug logging (per-cycle trace)" }]
  operand := some { name := "rom", about := "Path to a CHIP-8 program image" }

structure Options where
  image : CodePoints
  scale : Int
  keymap : Option CodePoints
  seed : CommandLine.Setting Int
  audio : Bool
  stopOnStall : Bool
  verbose : Bool
deriving DecidableEq, Repr

inductive Task
  | writeTemplate (file : CodePoints)
  | play (options : Options)
deriving DecidableEq, Repr

inductive UsageFault
  | commandLine (fault : CommandLine.Fault)
  | noImage
  | scaleNotPositive
deriving DecidableEq, Repr

def UsageFault.message : UsageFault → CodePoints
  | .commandLine fault => fault.message
  | .noImage => .ofString "a ROM path is required"
  | .scaleNotPositive => .ofString "scale must be positive"

def nonempty? (text : Option CodePoints) : Option CodePoints := text.filter fun t => !t.isEmpty

/-- Reads a command line. A template comes before everything else. -/
def Task.parse (arguments : List CodePoints) :
    Except (CommandLine.Refusal UsageFault) Task := do
  let given ← (grammar.parse arguments).mapError fun fault => .wrong (.commandLine fault)
  match nonempty? (CommandLine.text given "--write-keymap-template").value? with
  | some file => return .writeTemplate file
  | none =>
    match nonempty? (CommandLine.positional? given) with
    | none => throw (.wrong .noImage)
    | some image =>
      let scale := (← ((CommandLine.number given "--scale").ask .compareZero).mapError
        .lacking).getD Window.defaultScale
      if scale ≤ 0 then throw (.wrong .scaleNotPositive)
      return .play {
        image := image
        scale := scale
        keymap := nonempty? (CommandLine.text given "--keymap").value?
        seed := CommandLine.number given "--seed"
        audio := !CommandLine.hasFlag given "--no-audio"
        stopOnStall := CommandLine.hasFlag given "--stop-on-stall"
        verbose := CommandLine.hasFlag given "--verbose" }

def Options.threshold (o : Options) : Int :=
  if o.verbose then Report.debug else Report.warning

/-- The observer of a run, if there is anything to observe. `traced` asks for a trace from
outside the command line. -/
def Options.observer? (o : Options) (traced : Bool) : Option Observer :=
  let members :=
    (if o.verbose || traced then [Observer.trace .fresh] else []) ++
      (if o.stopOnStall then [Observer.stall .fresh] else [])
  if members.isEmpty then none else some (.chain members)

inductive Escape
  | machine (failure : Failure Window.Fault)
  | disk (fault : Disk.Fault)
  | keymap (fault : Keymap.Fault)
  | window (fault : Window.Fault)
  | lacking (what : CommandLine.Lack)
deriving DecidableEq

def Escape.message : Escape → CodePoints
  | .machine (.fault f) => .ofString f.message
  | .machine (.outside fault) => .ofString fault.message
  | .disk fault => .ofString fault.message
  | .keymap fault => fault.message
  | .window fault => .ofString fault.message
  | .lacking what => .ofString what.message

structure Result where
  exit : Exit Escape
  output : String
  errors : CodePoints
  disk : Disk
  requests : List Request

def complaint (text : String) (details : CodePoints) : CodePoints :=
  (.ofString text ++ details : CodePoints).line

def Options.keymap? (o : Options) (depth : Nat) (disk : Disk) : Except Keymap.Fault Keymap :=
  match o.keymap with
  | none => .ok Keymap.standard
  | some file => Keymap.load depth disk (Path.ofText file)

def Options.caption (o : Options) : CodePoints :=
  Window.baseCaption ++ .ofString " | " ++ (Path.ofText o.image).name

variable {ρ : Type} [RandomSource ρ]

/-- Runs a session in its open window and closes the window, however the run ends. -/
def playOpen (o : Options) (patience : Nat) (disk : Disk) (m : Session ρ (World Window)) :
    Result :=
  let around := World.surroundings (some Window.host)
  let (ended, m) := Session.run around none patience m
  let log := Report.text o.threshold m.log.toList
  match Window.close m.world.host with
  | .error fault w => ⟨.escaped (.window fault), "", log, disk, w.desktop.requests.toList⟩
  | .ok () w =>
    let requests := w.desktop.requests.toList
    match ended with
    | .error failure => ⟨.escaped (.machine failure), "", log, disk, requests⟩
    | .ok none => ⟨.unfinished, "", log, disk, requests⟩
    | .ok (some outcome) =>
      match outcome.error with
      | none => ⟨.code 0, "", log, disk, requests⟩
      | some fault =>
        let errors := log ++ complaint "Execution stopped: " (.ofString fault.message)
        ⟨.code 2, "", errors, disk, requests⟩

def playIn (o : Options) (traced : Bool) (random : ρ) (patience : Nat) (disk : Disk)
    (window : Window) : Result :=
  let world : World Window := ⟨o.observer? traced, window, o.threshold, []⟩
  let (loaded, m) := (Session.start random world).loadFile disk (Path.ofText o.image) []
  match loaded with
  | .error fault =>
    match fault.ofPath? with
    | some fault => ⟨.escaped (.disk fault), "", [], disk, []⟩
    | none =>
      ⟨.code 1, "", complaint "Failed to load program: " (.ofString fault.message), disk, []⟩
  | .ok _ =>
    match Window.openUp { window with attached := true } with
    | .error .noGraphics w =>
      ⟨.code 1, "", complaint "" (.ofString Window.Fault.noGraphics.message), disk,
        w.desktop.requests.toList⟩
    | .error fault w => ⟨.escaped (.window fault), "", [], disk, w.desktop.requests.toList⟩
    | .ok () w => playOpen o patience disk { m with world := { m.world with host := w } }

/-- Plays a program: first its keymap is read, then the program. -/
def play (o : Options) (traced : Bool) (seeded : Option Int → ρ) (patience depth : Nat)
    (desktop : Desktop) (disk : Disk) : Result :=
  match o.keymap? depth disk with
  | .error fault =>
    if fault.isExpected then
      ⟨.code 1, "", complaint "Failed to load keymap: " fault.message, disk, []⟩
    else
      ⟨.escaped (.keymap fault), "", [], disk, []⟩
  | .ok keymap =>
    match Window.create o.scale Window.defaultInterval keymap o.audio o.caption desktop with
    | .error fault => ⟨.escaped (.window fault), "", [], disk, []⟩
    | .ok window =>
      match o.seed.ask .seed with
      | .error what => ⟨.escaped (.lacking what), "", [], disk, []⟩
      | .ok seed => playIn o traced (seeded seed) patience disk window

def run (arguments : List CodePoints) (traced : Bool) (seeded : Option Int → ρ)
    (patience depth : Nat) (desktop : Desktop) (disk : Disk) : Result :=
  match Task.parse arguments with
  | .error (.wrong (.commandLine .helpWanted)) =>
    ⟨.helped, grammar.help ++ "\n", [], disk, []⟩
  | .error (.lacking what) => ⟨.escaped (.lacking what), "", [], disk, []⟩
  | .error (.wrong fault) =>
    let message := complaint s!"{program}: error: " fault.message
    ⟨.usage message, "", message, disk, []⟩
  | .ok (.writeTemplate file) =>
    match Keymap.writeTemplate disk (Path.ofText file) with
    | .error fault => ⟨.escaped (.disk fault), "", [], disk, []⟩
    | .ok disk => ⟨.code 0, "", [], disk, []⟩
  | .ok (.play options) => play options traced seeded patience depth desktop disk

end Chip8.Player
