import Chip8.Number.Shortest

/-! Numbers as settings give them, whole or real. Whole numbers are exact. An operation with
a real operand rounds its result, by a rule that is a parameter. -/
namespace Chip8

inductive Number
  | whole (i : Int)
  | real (x : Binary64)
deriving DecidableEq

namespace Number

inductive Fault
  | divisionByZero
  | realDivisionByZero
  | wholeTooLarge
  | quotientTooLarge
  | infinite
  | notNumber
deriving DecidableEq, Repr

def Fault.message : Fault → String
  | .divisionByZero => "division by zero"
  | .realDivisionByZero => "float division by zero"
  | .wholeTooLarge => "int too large to convert to float"
  | .quotientTooLarge => "integer division result too large for a float"
  | .infinite => "cannot convert float infinity to integer"
  | .notNumber => "cannot convert float NaN to integer"

/-- How an exact result becomes a real. -/
abbrev Rounding := Rat → Binary64

def exact : Rounding := .finite

def toReal (round : Rounding) : Number → Except Fault Binary64
  | .whole i =>
    match round i with
    | .finite q => .ok (.finite q)
    | _ => .error .wholeTooLarge
  | .real x => .ok x

def differ (x y : Binary64) : Bool := x.isNegative != y.isNegative

def product (round : Rounding) (x y : Binary64) : Binary64 :=
  if x = .notNumber || y = .notNumber then
    .notNumber
  else
    match x.rational?, y.rational? with
    | some p, some q => .signed (differ x y) (round (p * q))
    | _, _ => if x.isZero || y.isZero then .notNumber else .infinite (differ x y)

/-- A quotient. The divisor is not zero. -/
def quotient (round : Rounding) (x y : Binary64) : Binary64 :=
  if x = .notNumber || y = .notNumber then
    .notNumber
  else
    match x.rational?, y.rational? with
    | some p, some q => .signed (differ x y) (round (p / q))
    | some _, none => .signed (differ x y) (.finite 0)
    | none, some _ => .infinite (differ x y)
    | none, none => .notNumber

def mul (round : Rounding) : Number → Number → Except Fault Number
  | .whole i, .whole j => .ok (.whole (i * j))
  | a, b => do return .real (product round (← toReal round a) (← toReal round b))

/-- A quotient is real even if both operands are whole. -/
def div (round : Rounding) : Number → Number → Except Fault Binary64
  | .whole i, .whole j =>
    if j = 0 then .error .divisionByZero
    else match round ((i : Rat) / j) with
      | .finite q => .ok (.finite q)
      | _ => .error .quotientTooLarge
  | a, b => do
    let x ← toReal round a
    let y ← toReal round b
    if y.isZero then .error .realDivisionByZero else .ok (quotient round x y)

def truncate : Number → Except Fault Int
  | .whole i => .ok i
  | .real (.finite q) => .ok (Binary64.truncate q)
  | .real .negativeZero => .ok 0
  | .real (.infinite _) => .error .infinite
  | .real .notNumber => .error .notNumber

/-- The nearest whole number, a tie to the even one. -/
def nearest : Binary64 → Except Fault Int
  | .finite q => .ok (Binary64.nearest q)
  | .negativeZero => .ok 0
  | .infinite _ => .error .infinite
  | .notNumber => .error .notNumber

def text : Number → String
  | .whole i => toString i
  | .real x => Shortest.text x

end Number

end Chip8
