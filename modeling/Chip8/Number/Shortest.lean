import Chip8.Number.Binary64

/-! The shortest decimal text of a floating-point value: the fewest digits that read back as
the value, and of several such numbers the nearest. -/
namespace Chip8.Shortest

/-- How many digits stand before the decimal point of a positive value; for a value below
one, minus the zeros that follow the point. -/
def position (q : Rat) : Int :=
  if 1 ≤ q then
    (Nat.toDigits 10 q.floor.toNat).length
  else
    match (List.range 400).find? fun k => 1 ≤ q * ((Nat.pow 10 (k + 1) : Nat) : Rat) with
    | some k => -(k : Int)
    | none => -400

def unit (e : Int) : Rat :=
  if e < 0 then mkRat 1 (Nat.pow 10 e.natAbs) else ((Nat.pow 10 e.natAbs : Nat) : Rat)

/-- The nearer neighbour on the grid of `unit e` that reads back as `q`, if there is one. -/
def onGrid? (q : Rat) (e : Int) : Option Nat :=
  let low := (q / unit e).floor.toNat
  let reads (m : Nat) : Bool := Binary64.round (m * unit e) = .finite q
  let below := q - low * unit e
  let above := (low + 1 : Nat) * unit e - q
  match reads low, reads (low + 1) with
  | true, true =>
    some (if below < above || (below == above && low % 2 = 0) then low else low + 1)
  | true, false => some low
  | false, true => some (low + 1)
  | false, false => none

/-- The digits of a positive value as a number, and the place of the last of them. -/
def digits (q : Rat) : Nat × Int :=
  let top := position q
  match (List.range 17).findSome? fun n =>
      (onGrid? q (top - (n + 1 : Nat))).map (·, top - (n + 1 : Nat)) with
  | some found => found
  | none => (0, 0)

/-- Where positional writing ends: up to sixteen digits before the point, and up to three
zeros after it. -/
def isPositional (point : Int) : Bool := -4 < point && point ≤ 16

def zeros (n : Int) : List Char := List.replicate n.toNat '0'

def positional (ds : List Char) (point : Int) : List Char :=
  if point ≤ 0 then '0' :: '.' :: zeros (-point) ++ ds
  else if ds.length ≤ point then ds ++ zeros (point - ds.length) ++ ['.', '0']
  else ds.take point.toNat ++ '.' :: ds.drop point.toNat

def scientific (ds : List Char) (point : Int) : List Char :=
  let power := point - 1
  let size := (Nat.toDigits 10 power.natAbs)
  let head := match ds with
    | [] => []
    | [d] => [d]
    | d :: rest => d :: '.' :: rest
  head ++ ['e', if power < 0 then '-' else '+']
    ++ List.replicate (2 - size.length) '0' ++ size

def positive (q : Rat) : List Char :=
  let (m, e) := digits q
  let all := Nat.toDigits 10 m
  let point := all.length + e
  let ds := (all.reverse.dropWhile (· = '0')).reverse
  if isPositional point then positional ds point else scientific ds point

def text : Binary64 → String
  | .finite q =>
    if q.num = 0 then "0.0"
    else if q.num < 0 then String.ofList ('-' :: positive (-q))
    else String.ofList (positive q)
  | .negativeZero => "-0.0"
  | .infinite negative => if negative then "-inf" else "inf"
  | .notNumber => "nan"

end Chip8.Shortest
