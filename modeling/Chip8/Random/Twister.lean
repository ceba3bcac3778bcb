import Chip8.Random

/-! The Mersenne Twister MT19937, seeded from an integer by its array initialisation with
the 32-bit words of the absolute value, and read as uniform bytes. -/
namespace Chip8

structure Twister where
  words : Vector UInt32 624
  /-- How many of the words have been handed out; at 624 the next round is due. -/
  used : Nat

namespace Twister

def word (w : Vector UInt32 624) (i : Nat) : UInt32 :=
  have inside : i % 624 < 624 := Nat.mod_lt i (by decide)
  w[i % 624]

def setWord (w : Vector UInt32 624) (i : Nat) (value : UInt32) : Vector UInt32 624 :=
  w.set (i % 624) value (by omega)

def fold (a : UInt32) : UInt32 := a ^^^ (a >>> 30)

def linear (seed : UInt32) : Vector UInt32 624 :=
  (List.range 623).foldl
    (fun w k => setWord w (k + 1) (1812433253 * fold (word w k) + UInt32.ofNat (k + 1)))
    ((Vector.replicate 624 0).set 0 seed)

def limbs (n : Nat) : List UInt32 :=
  if n < 0x100000000 then [UInt32.ofNat n]
  else UInt32.ofNat (n % 0x100000000) :: limbs (n / 0x100000000)
termination_by n
decreasing_by omega

/-- Moves the cursor of the array initialisation, which skips the first word: when it
comes round, the first word takes over the value of the last. -/
def wrap (w : Vector UInt32 624) (i : Nat) : Vector UInt32 624 × Nat :=
  if i < 624 then (w, i) else (setWord w 0 (word w 623), 1)

def absorb (key : Array UInt32) : Nat → Vector UInt32 624 → (i j : Nat) → Vector UInt32 624 × Nat
  | 0, w, i, _ => (w, i)
  | rounds + 1, w, i, j =>
    let mixed := (word w i ^^^ (fold (word w (i - 1)) * 1664525))
      + key.getD j 0 + UInt32.ofNat j
    let (w, i) := wrap (setWord w i mixed) (i + 1)
    absorb key rounds w i (if j + 1 < key.size then j + 1 else 0)

def finish : Nat → Vector UInt32 624 → (i : Nat) → Vector UInt32 624
  | 0, w, _ => w
  | rounds + 1, w, i =>
    let mixed := (word w i ^^^ (fold (word w (i - 1)) * 1566083941)) - UInt32.ofNat i
    let (w, i) := wrap (setWord w i mixed) (i + 1)
    finish rounds w i

/-- The generator for a seed; the sign of the seed does not matter. -/
def ofSeed (seed : Int) : Twister :=
  let key := (limbs seed.natAbs).toArray
  let (w, i) := absorb key (max 624 key.size) (linear 19650218) 1 0
  ⟨setWord (finish 623 w i) 0 0x80000000, 624⟩

def round (w : Vector UInt32 624) : Vector UInt32 624 :=
  (List.range 624).foldl
    (fun w k =>
      let joined := (word w k &&& 0x80000000) ||| (word w (k + 1) &&& 0x7FFFFFFF)
      let twist : UInt32 := if joined &&& 1 = 0 then 0 else 0x9908B0DF
      setWord w k (word w (k + 397) ^^^ (joined >>> 1) ^^^ twist))
    w

def temper (a : UInt32) : UInt32 :=
  let a := a ^^^ (a >>> 11)
  let a := a ^^^ ((a <<< 7) &&& 0x9D2C5680)
  let a := a ^^^ ((a <<< 15) &&& 0xEFC60000)
  a ^^^ (a >>> 18)

def next (t : Twister) : UInt32 × Twister :=
  if t.used < 624 then
    (temper (word t.words t.used), { t with used := t.used + 1 })
  else
    let words := round t.words
    (temper (word words 0), ⟨words, 1⟩)

/-- The first nine-bit value below 256 among the next `attempts` of them. -/
def byte : (attempts : Nat) → Twister → Nat × Twister
  | 0, t => (0, t)
  | attempts + 1, t =>
    let (a, t) := t.next
    let value := (a >>> 23).toNat
    if value < 256 then (value, t) else byte attempts t

/-- Half of the nine-bit values are accepted, so a draw looks at two of them on average. -/
def draw (t : Twister) : Except Fault Int × Twister :=
  let (value, t) := t.byte 100000
  (.ok value, t)

instance : RandomSource Twister := ⟨draw⟩

end Twister

end Chip8
