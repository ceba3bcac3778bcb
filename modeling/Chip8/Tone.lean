import Chip8.Number

/-! A square wave: its settings and its samples, which are signed sixteen-bit values. -/
namespace Chip8

structure Tone where
  rate : Number
  frequency : Number
  duration : Number
  volume : Number
deriving DecidableEq

namespace Tone

def decimal (mantissa : Nat) (exponent : Int) : Number :=
  .real (Binary64.ofDecimal false mantissa exponent)

/-- A tenth of a second at 440 Hz. -/
def standard : Tone := ⟨.whole 44100, decimal 440 0, decimal 1 (-1), decimal 3 (-1)⟩

inductive Fault
  | number (cause : Number.Fault)
  | tooMany
  | noRoom
  | sampleTooHigh
  | sampleTooLow
  | beyondWord
deriving DecidableEq, Repr

def Fault.message : Fault → String
  | .number cause => cause.message
  | .tooMany => "cannot fit 'int' into an index-sized integer"
  | .noRoom => ""
  | .sampleTooHigh => "signed short integer is greater than maximum"
  | .sampleTooLow => "signed short integer is less than minimum"
  | .beyondWord => "Python int too large to convert to C long"

def amplitude (round : Number.Rounding) (t : Tone) : Except Number.Fault Int := do
  (← Number.mul round t.volume (.whole 32767)).truncate

/-- Samples per wave, at least two. -/
def period (round : Number.Rounding) (t : Tone) : Except Number.Fault Int := do
  return max 2 (← Number.nearest (← Number.div round t.rate t.frequency))

/-- How many samples there are, at least one wave. -/
def total (round : Number.Rounding) (t : Tone) (period : Int) : Except Number.Fault Int := do
  return max period (← (← Number.mul round t.rate t.duration).truncate)

/-- The first half of every wave is high, the second low. -/
def sample (amplitude period : Int) (i : Nat) : Int :=
  if (i : Int) % period < period / 2 then amplitude else -amplitude

def store (value : Int) : Except Fault Int :=
  if value < -0x8000000000000000 ∨ 0x8000000000000000 ≤ value then .error .beyondWord
  else if value < -32768 then .error .sampleTooLow
  else if 32767 < value then .error .sampleTooHigh
  else .ok value

/-- A number of samples, where memory has room for so many. No list is longer than a word tells. -/
def allot (room : Nat) (total : Int) : Except Fault Nat :=
  if 0x8000000000000000 ≤ total then .error .tooMany
  else if room < total then .error .noRoom
  else .ok total.toNat

/-- The whole wave. That there is room for it is checked before any sample is. -/
def samples (round : Number.Rounding) (room : Nat) (t : Tone) : Except Fault (List Int) := do
  let amplitude ← (t.amplitude round).mapError .number
  let period ← (t.period round).mapError .number
  let count ← allot room (← (t.total round period).mapError .number)
  (List.range count).mapM fun i => store (sample amplitude period i)

end Tone

end Chip8
