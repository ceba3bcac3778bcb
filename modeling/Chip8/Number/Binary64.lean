/-! Binary floating point with 53 significant bits, as exact values: a rational, a zero with a
minus sign, an infinity or no number. Rounding goes to the nearest value, and of two to the one
with an even last bit. -/
namespace Chip8

inductive Binary64
  | finite (q : Rat)
  | negativeZero
  | infinite (negative : Bool)
  | notNumber
deriving DecidableEq

namespace Binary64

def rational? : Binary64 → Option Rat
  | .finite q => some q
  | .negativeZero => some 0
  | _ => none

def isNegative : Binary64 → Bool
  | .finite q => q < 0
  | .negativeZero => true
  | .infinite negative => negative
  | .notNumber => false

def isZero (x : Binary64) : Bool := x.rational? == some 0

/-- The same value, except that a zero gets a minus sign if it is to be negative. -/
def signed (negative : Bool) : Binary64 → Binary64
  | .finite q => if q = 0 && negative then .negativeZero else .finite q
  | x => x

/-- A quotient of natural numbers to the nearest whole, a tie to the even one. -/
def roundDiv (n d : Nat) : Nat :=
  let whole := n / d
  let twice := 2 * (n % d)
  if twice < d then whole
  else if d < twice then whole + 1
  else if whole % 2 = 0 then whole
  else whole + 1

def nearest (q : Rat) : Int :=
  let n := roundDiv q.num.natAbs q.den
  if q.num < 0 then -(n : Int) else n

def truncate (q : Rat) : Int := q.num.tdiv q.den

/-- A fraction of which `2 ^ e` has been divided out. -/
def scale (n d : Nat) (e : Int) : Nat × Nat :=
  if e < 0 then (n * Nat.pow 2 e.natAbs, d) else (n, d * Nat.pow 2 e.natAbs)

/-- The place of the last bit of a value of size `n / d`. -/
def lastPlace (n d : Nat) : Int :=
  let guess : Int := (n.log2 : Int) - d.log2 - 52
  let (a, b) := scale n d guess
  max (-1074) (if a < b * Nat.pow 2 52 then guess - 1 else guess)

def dyadic (m : Nat) (e : Int) : Rat :=
  if e < 0 then mkRat m (Nat.pow 2 e.natAbs) else ((m * Nat.pow 2 e.natAbs : Nat) : Rat)

def round (q : Rat) : Binary64 :=
  if q.num = 0 then
    .finite 0
  else
    let e := lastPlace q.num.natAbs q.den
    let (a, b) := scale q.num.natAbs q.den e
    let size := dyadic (roundDiv a b) e
    if (Nat.pow 2 1024 : Nat) ≤ size then .infinite (q.num < 0)
    else .finite (if q.num < 0 then -size else size)

def ofDecimal (negative : Bool) (mantissa : Nat) (exponent : Int) : Binary64 :=
  let top := (Nat.toDigits 10 mantissa).length + exponent
  if mantissa = 0 || top < -330 then signed negative (.finite 0)
  else if 320 < top then .infinite negative
  else
    let size :=
      if exponent < 0 then mkRat mantissa (Nat.pow 10 exponent.natAbs)
      else ((mantissa * Nat.pow 10 exponent.natAbs : Nat) : Rat)
    signed negative (round (if negative then -size else size))

end Binary64

end Chip8
