import Chip8.Execute
import Chip8.Log
import Chip8.Program

/-! Runs. A session holds a machine, its source of randomness and the world around it. In
every cycle it calls an observer, executes one instruction, presents the frame if it has
changed, polls the keys and counts the timers. What observer and host do is arbitrary: a
call gives back the world after it, the stops it asked for, its reports and either a
value or a failure. -/
namespace Chip8

/-- Why a call did not finish: a fault of the machine or a failure outside of it. -/
inductive Failure (ε : Type)
  | fault (f : Fault)
  | outside (e : ε)
deriving DecidableEq, Repr

/-- What a call into the world leaves behind, whether it succeeds or not. -/
structure Reply (κ ε α : Type) where
  world : κ
  /-- The reasons of the stops it asked for, in order. -/
  stops : List CodePoints := []
  reports : List Report := []
  value : Except (Failure ε) α

structure Host (κ ε : Type) where
  render : Frame → κ → Reply κ ε Unit
  poll : κ → Reply κ ε (Array Bool)
  beep : κ → Reply κ ε Unit

/-- Whom a session calls. The observer sees the machine before each instruction. -/
structure Surroundings (κ ε : Type) where
  observer : Option (State → κ → Reply κ ε Unit)
  host : Option (Host κ ε)

structure Session (ρ κ : Type) where
  state : State
  random : ρ
  last : Option Instruction
  program : Option Program
  /-- How many instructions have been executed, over all runs. -/
  cycles : Nat
  stopping : Bool
  reason : CodePoints
  running : Bool
  world : κ
  log : Array Report

structure Outcome where
  cycles : Nat
  error : Option Fault
  reason : CodePoints
deriving DecidableEq, Repr

inductive Ending (ε : Type)
  | stopped
  | faulted (f : Fault)
  | escaped (e : Failure ε)
  | unfinished
deriving DecidableEq, Repr

namespace Session

variable {ρ κ ε α : Type}

def start (random : ρ) (world : κ) : Session ρ κ where
  state := State.initial
  random := random
  last := none
  program := none
  cycles := 0
  stopping := false
  reason := []
  running := false
  world := world
  log := #[]

/-- Asks the run to stop. Only the first request since the start of a run leaves its reason. -/
def requestStop (m : Session ρ κ) (reason : CodePoints) : Session ρ κ :=
  if m.stopping then m else { m with stopping := true, reason }

def report (m : Session ρ κ) (r : Report) : Session ρ κ :=
  { m with log := m.log.push r }

/-- Puts an image into memory and remembers the program. A refused image changes nothing. -/
def load (m : Session ρ κ) (image : List UInt8) (name : CodePoints)
    (path : Option CodePoints) :
    Except Program.Fault Program × Session ρ κ :=
  match Program.place m.state.memory image with
  | .error fault => (.error fault, m)
  | .ok memory =>
    let program : Program := ⟨name, image.length, path⟩
    (.ok program, { m with state := { m.state with memory }, program := some program })

/-- A step of a session: it can fail, and what happened before the failure remains. -/
abbrev Step (ρ κ ε α : Type) := Change (Session ρ κ) (Failure ε) α

/-- Carries out a call: its stop requests and reports count even if it failed. -/
def call (ask : State → κ → Reply κ ε α) : Step ρ κ ε α := fun m =>
  let reply := ask m.state m.world
  let m := { m with world := reply.world, log := m.log ++ reply.reports }
  let m := reply.stops.foldl requestStop m
  match reply.value with
  | .ok a => .ok a m
  | .error e => .error e m

variable [RandomSource ρ]

def execute : Step ρ κ ε Unit := fun m =>
  match m.state.execute m.random with
  | (.ok ins state, random) => .ok () { m with state, random, last := some ins }
  | (.error f state, random) => .error (.fault f) { m with state, random }

def countCycle : Step ρ κ ε Unit :=
  modify fun m => { m with cycles := m.cycles + 1 }

def present (host : Option (Host κ ε)) : Step ρ κ ε Unit := do
  if (← get).state.redraw then
    if let some host := host then
      call fun s world => host.render s.frame world
    modify fun m => { m with state := { m.state with redraw := false } }

def setKeys (snapshot : Array Bool) : Step ρ κ ε Unit := fun m =>
  match m.state.setKeys snapshot with
  | .ok state => .ok () { m with state }
  | .error f => .error (.fault f) m

def pollKeys (host : Option (Host κ ε)) : Step ρ κ ε Unit := do
  if let some host := host then
    setKeys (← call fun _ world => host.poll world)

def tick (host : Option (Host κ ε)) : Step ρ κ ε Unit := do
  let (expired, state) := (← get).state.tick
  modify fun m => { m with state }
  if expired then
    if let some host := host then
      call fun _ world => host.beep world

def cycle (around : Surroundings κ ε) : Step ρ κ ε Unit := do
  if let some observer := around.observer then
    call observer
  execute
  countCycle
  present around.host
  pollKeys around.host
  tick around.host

/-- Runs cycles until a stop was asked for, a cycle fails or `fuel` cycles are over. A stop
request takes effect before the next cycle. -/
def loop (around : Surroundings κ ε) : (fuel : Nat) → Session ρ κ → Ending ε × Session ρ κ
  | 0, m => (if m.stopping then .stopped else .unfinished, m)
  | fuel + 1, m =>
    if m.stopping then
      (.stopped, m)
    else
      match cycle around m with
      | .ok () m => loop around fuel m
      | .error (.fault f) m => (if f.endsRun then .faulted f else .escaped (.fault f), m)
      | .error e m => (.escaped e, m)

def openRun (m : Session ρ κ) : Session ρ κ :=
  { m with stopping := false, reason := [], running := true }.report (.runStarted m.state.pc)

def closeRun (m : Session ρ κ) : Session ρ κ :=
  { m.requestStop (.ofString "aborted") with running := false }

/-- Reports a fault that ends a run, to the log and to the handler. -/
def settle (handler : Option (Fault → κ → Reply κ ε Unit)) (f : Fault) : Step ρ κ ε Unit := do
  modify fun m => (m.report (.runHalted m.state.pc f)).requestStop (.ofString f.message)
  if let some handler := handler then
    call fun _ world => handler f world

def conclude (before : Nat) (error : Option Fault) (m : Session ρ κ) :
    Outcome × Session ρ κ :=
  let executed := m.cycles - before
  (⟨executed, error, m.reason⟩, m.report (.runStopped executed m.reason))

/-- Runs until a stop or a fault. A failure that is no verdict on the program escapes, also
one of the handler; the run is closed then all the same. Without a result the fuel was
too little. -/
def run (around : Surroundings κ ε) (handler : Option (Fault → κ → Reply κ ε Unit))
    (fuel : Nat) (m : Session ρ κ) : Except (Failure ε) (Option Outcome) × Session ρ κ :=
  match loop around fuel (openRun m) with
  | (.unfinished, after) => (.ok none, after)
  | (.escaped e, after) => (.error e, closeRun after)
  | (.stopped, after) =>
    let (outcome, after) := conclude m.cycles none (closeRun after)
    (.ok (some outcome), after)
  | (.faulted f, after) =>
    match settle handler f after with
    | .error e after => (.error e, closeRun after)
    | .ok () after =>
      let (outcome, after) := conclude m.cycles (some f) (closeRun after)
      (.ok (some outcome), after)

end Session

end Chip8
