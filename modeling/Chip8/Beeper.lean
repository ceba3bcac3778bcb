import Chip8.Desktop
import Chip8.Tone

/-! The beeper plays one short tone again and again. It starts the mixer when it first has
to, gives audio up for good if the mixer refuses, and builds its sound only once. -/
namespace Chip8

structure Beeper where
  tone : Tone
  audio : Bool
  /-- Whether the mixer runs and its channel is held. -/
  ready : Bool
  /-- The number of samples of the sound, once it is built. -/
  sound : Option Nat
  history : Array (Option Number)

namespace Beeper

def fresh (tone : Tone) (audio : Bool) : Beeper := ⟨tone, audio, false, none, #[]⟩

/-- Makes the mixer ready, or gives audio up. -/
def prepare (b : Beeper) (d : Desktop) : Beeper × Desktop :=
  if !b.audio || b.ready then
    (b, d)
  else if !d.available then
    ({ b with audio := false }, d)
  else
    let d := if d.mixerReady then d else d.request (.startMixer b.tone.rate)
    if d.mixerReady || d.mixerWorks then
      ({ b with ready := true }, { d with mixerReady := true }.request (.channel 0))
    else
      ({ b with audio := false }, d)

def build (round : Number.Rounding) (b : Beeper) (d : Desktop) :
    Except Tone.Fault (Nat × Beeper × Desktop) :=
  match b.sound with
  | some count => .ok (count, b, d)
  | none =>
    match b.tone.samples round d.room with
    | .error fault => .error fault
    | .ok samples =>
      .ok (samples.length, { b with sound := some samples.length },
        d.request (.sound samples.length))

/-- Beeps once. The beep counts even if nothing can be heard or no sound can be built. -/
def beep (round : Number.Rounding) (time : Option Number) (b : Beeper) (d : Desktop) :
    Except Tone.Fault Unit × Beeper × Desktop :=
  let (b, d) := { b with history := b.history.push time }.prepare d
  if b.ready && b.audio then
    match b.build round d with
    | .error fault => (.error fault, b, d)
    | .ok (count, b, d) => (.ok (), b, d.requestAll [.volume, .play count])
  else
    (.ok (), b, d)

def close (b : Beeper) (d : Desktop) : Desktop :=
  if b.ready then d.request .silence else d

end Beeper

end Chip8
