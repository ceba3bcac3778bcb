import Chip8.Number
import Chip8.Text.CodePoints

/-! The desktop that a window is opened on: the keys that it knows, what is asked of it, in order,
and the events that it has to offer. Graphics may be missing, memory may be short, and the mixer may
refuse to start. -/
namespace Chip8

inductive Event
  | keyDown (code : Int)
  | keyUp (code : Int)
  | quit
  | other
deriving DecidableEq, Repr

inductive Request
  | start
  | finish
  | openWindow (width height : Int)
  | caption (text : CodePoints)
  | surface (width height : Int)
  | fill (color : Int)
  | fillRect (color x y width height : Int)
  | blit (x y : Int)
  | flip
  | events
  | startMixer (frequency : Number)
  | channel (index : Nat)
  | sound (samples : Nat)
  | volume
  | play (samples : Nat)
  | silence
deriving DecidableEq

/-- What happens at a desktop. A key may be told by its name, or its event as it is. -/
inductive Input
  | press (name : CodePoints)
  | release (name : CodePoints)
  | event (e : Event)
deriving DecidableEq, Repr

namespace Input

def quit : Input := .event .quit

def other : Input := .event .other

end Input

structure Desktop where
  /-- The code of the key with a name, if there is one. -/
  keyCode? : CodePoints → Option Int
  /-- How many samples of a sound there is memory for. -/
  room : Nat
  available : Bool
  mixerWorks : Bool
  mixerReady : Bool
  /-- What happens until someone asks for events, time after time. -/
  queue : List (List Input)
  /-- What happens once the queue is empty. -/
  idle : List Input
  requests : Array Request

namespace Desktop

def escapeCode : Int := 27

def request (d : Desktop) (r : Request) : Desktop := { d with requests := d.requests.push r }

def requestAll (d : Desktop) (rs : List Request) : Desktop :=
  { d with requests := d.requests ++ rs }

/-- The event that tells of an input. There is none for a key without a code. -/
def eventOf? (d : Desktop) : Input → Option Event
  | .press name => (d.keyCode? name).map .keyDown
  | .release name => (d.keyCode? name).map .keyUp
  | .event e => some e

/-- The next batch of events, unless it needs a key that has no code. The batch is used up in
either case. -/
def takeEvents (d : Desktop) : Option (List Event) × Desktop :=
  match d.queue with
  | [] => (d.idle.mapM d.eventOf?, d.request .events)
  | batch :: rest => (batch.mapM d.eventOf?, { d.request .events with queue := rest })

end Desktop

end Chip8
