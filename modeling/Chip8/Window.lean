import Chip8.Beeper
import Chip8.Display
import Chip8.Keymap
import Chip8.Keypad
import Chip8.Session

/-! A window on a desktop as the host of a machine: it shows frames, turns key events into
key states and beeps. The desktop is asked for events once in several polls, and every event
of the batch is handled, in order. Closing the window or pressing escape stops the run. -/
namespace Chip8

structure Window where
  scale : Int
  caption : CodePoints
  keymap : Keymap
  /-- The desktop is asked for events at every poll whose number this divides. -/
  interval : Nat
  display : Display
  keypad : Keys
  beeper : Beeper
  quitRequested : Bool
  attached : Bool
  isOpen : Bool
  /-- The hexadecimal key of each host key code. -/
  codes : List (Int × Int)
  polls : Nat
  /-- The stops that were asked for. -/
  stops : List CodePoints
  desktop : Desktop

namespace Window

inductive Fault
  | scaleNotPositive
  | noGraphics
  | noLibrary
  | unknownKey
  | display (cause : Display.Fault)
  | keypad (cause : Keypad.Fault)
  | tone (cause : Tone.Fault)
deriving DecidableEq, Repr

def Fault.message : Fault → String
  | .scaleNotPositive => "scale must be positive"
  | .noGraphics => "pygame is required for the windowed frontend"
  | .noLibrary => ""
  | .unknownKey => "unknown key name"
  | .display cause => cause.message
  | .keypad cause => cause.message
  | .tone cause => cause.message

def closedReason : CodePoints := .ofString "window closed"

def baseCaption : CodePoints := .ofString "CHIP-8"

def defaultScale : Int := 10

def defaultInterval : Int := 16

/-- A window that is still closed. Intervals below one count as one. -/
def create (scale interval : Int) (keymap : Keymap) (audio : Bool)
    (caption : CodePoints) (desktop : Desktop) : Except Fault Window :=
  if scale ≤ 0 then
    .error .scaleNotPositive
  else
    .ok {
      scale := scale
      caption := caption
      keymap := keymap
      interval := max 1 interval.toNat
      display := Display.fresh
      keypad := Keys.none
      beeper := Beeper.fresh Tone.standard audio
      quitRequested := false
      attached := false
      isOpen := false
      codes := []
      polls := 0
      stops := []
      desktop := desktop }

/-- What a window does: it may fail, and what it did before that remains. -/
abbrev Action := EStateM Fault Window

def requireLibrary : Action Unit := do
  if !(← get).desktop.available then throw .noLibrary

def request (r : Request) : Action Unit :=
  modify fun w => { w with desktop := w.desktop.request r }

def codesOf (keyCode? : CodePoints → Option Int) (keymap : Keymap) :
    Except Fault (List (Int × Int)) :=
  keymap.mapM fun (name, key) =>
    match keyCode? name with
    | some code => .ok (code, key)
    | none => .error .unknownKey

def openUp : Action Unit := do
  let w ← get
  if !w.desktop.available then throw .noGraphics
  request .start
  request (.openWindow (64 * w.scale) (32 * w.scale))
  modify fun w => { w with isOpen := true }
  request (.caption w.caption)
  match codesOf w.desktop.keyCode? w.keymap with
  | .ok codes => modify fun w => { w with codes }
  | .error fault => throw fault

def close : Action Unit := do
  requireLibrary
  modify fun w => { w with desktop := (w.beeper.close w.desktop).request .finish, isOpen := false }

def requestQuit : Action Unit :=
  modify fun w => { w with
    quitRequested := true
    stops := if w.attached then w.stops ++ [closedReason] else w.stops }

/-- The hexadecimal key of a key code; of several entries the last counts. -/
def keyOf? (w : Window) (code : Int) : Option Int :=
  (w.codes.reverse.find? fun entry => entry.1 = code).map Prod.snd

def changeKey (code : Int) (down : Bool) : Action Unit := do
  let w ← get
  match w.keyOf? code with
  | none => return
  | some key =>
    match Keypad.change w.keypad key down with
    | .ok keypad => set { w with keypad }
    | .error fault => throw (.keypad fault)

def handle (e : Event) : Action Unit := do
  requireLibrary
  match e with
  | .quit => requestQuit
  | .keyDown code => if code = Desktop.escapeCode then requestQuit else changeKey code true
  | .keyUp code => changeKey code false
  | .other => return

/-- Handles events in order, up to the first that fails. -/
def handleAll : List Event → Action Unit
  | [] => return
  | e :: rest => do
    handle e
    handleAll rest

def takeEvents : Action (List Event) := do
  let w ← get
  let (batch, desktop) := w.desktop.takeEvents
  set { w with desktop }
  match batch with
  | some events => return events
  | none => throw .unknownKey

/-- The key states, after the events of the desktop if it is time to ask for them. -/
def poll : Action (Array Bool) := do
  modify fun w => { w with polls := w.polls + 1 }
  let w ← get
  if w.polls % w.interval = 0 then
    requireLibrary
    handleAll (← takeEvents)
  return (← get).keypad.down.toArray

def paint : Action Unit := do
  let w ← get
  if w.isOpen then
    match w.display.surface w.scale w.desktop with
    | .error fault => throw (.display fault)
    | .ok desktop =>
      set { w with desktop := desktop.requestAll [.blit 0 0, .flip] }

def render (cells : List UInt8) : Action Unit := do
  requireLibrary
  match (← get).display.present cells with
  | .error fault => throw (.display fault)
  | .ok display => modify fun w => { w with display }
  paint

def renderFrame (f : Frame) : Action Unit := do
  requireLibrary
  modify fun w => { w with display := w.display.showFrame f }
  paint

def beep (time : Option Number) : Action Unit := fun w =>
  let (result, beeper, desktop) := w.beeper.beep Binary64.round time w.desktop
  let w := { w with beeper, desktop }
  match result with
  | .ok () => .ok () w
  | .error fault => .error (.tone fault) w

/-- An action as a reply to a session; the stops are passed on. -/
def reply {α : Type} (act : Action α) (w : Window) : Reply Window Fault α :=
  match act w with
  | .ok a w => ⟨{ w with stops := [] }, w.stops, [], .ok a⟩
  | .error fault w => ⟨{ w with stops := [] }, w.stops, [], .error (.outside fault)⟩

def host : Host Window Fault where
  render f := reply (renderFrame f)
  poll := reply poll
  beep := reply (beep none)

end Window

end Chip8
