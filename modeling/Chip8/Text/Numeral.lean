import Chip8.Text.Digit
import Chip8.Text.Quoted

/-! Whole numbers as people write them: blanks around, a sign, digits with single
underscores between them, and for hexadecimal numerals a tag `0x`. -/
namespace Chip8.Numeral

def isBlank (c : Char) : Bool :=
  c == ' ' || ('\t' ≤ c && c ≤ '\r')
    || (127 ≤ c.toNat && [0x85, 0xA0, 0x1680, 0x2000, 0x2001, 0x2002, 0x2003, 0x2004, 0x2005,
      0x2006, 0x2007, 0x2008, 0x2009, 0x200A, 0x2028, 0x2029, 0x202F, 0x205F, 0x3000].contains
      c.toNat)

def trim (cs : List Char) : List Char :=
  ((cs.dropWhile isBlank).reverse.dropWhile isBlank).reverse

/-- Reads digits up to the end of the text. An underscore stands between two digits. -/
def digits? (base : Nat) (total : Nat) : List Char → Option Nat
  | [] => some total
  | '_' :: c :: rest =>
    match Digit.value? base c with
    | some d => digits? base (base * total + d) rest
    | none => none
  | c :: rest =>
    match Digit.value? base c with
    | some d => digits? base (base * total + d) rest
    | none => none

def magnitude? (base : Nat) : List Char → Option Nat
  | [] => none
  | c :: rest =>
    match Digit.value? base c with
    | some d => digits? base d rest
    | none => none

/-- What follows the tag of a hexadecimal numeral, if there is a tag. Its zero may be the zero
of any script, and one underscore may follow it. -/
def afterTag? : List Char → Option (List Char)
  | zero :: x :: rest =>
    if Digit.decimal? zero = some 0 ∧ (x = 'x' ∨ x = 'X') then
      some (match rest with
        | '_' :: rest => rest
        | rest => rest)
    else
      none
  | _ => none

def hexMagnitude? (cs : List Char) : Option Nat := magnitude? 16 ((afterTag? cs).getD cs)

def signed? (read : List Char → Option Nat) (cs : List Char) : Option Int :=
  match trim cs with
  | '-' :: rest => (read rest).map fun n => -(n : Int)
  | '+' :: rest => (read rest).map fun n => (n : Int)
  | rest => (read rest).map fun n => (n : Int)

def hex? (t : CodePoints) : Option Int := t.toChars?.bind (signed? hexMagnitude?)

def decimalLimit : Nat := 4300

def decimal? (t : CodePoints) : Option Int := do
  let cs ← t.toChars?
  if (cs.filter fun c => (Digit.decimal? c).isSome).length ≤ decimalLimit then
    signed? (magnitude? 10) cs
  else
    none

def hexComplaint (t : CodePoints) : String :=
  "invalid literal for int() with base 16: " ++ Quoted.short t

example : hex? (.ofString " 0x_2F\n") = some 0x2F := by decide +kernel
example : hex? (.ofString "-1_0") = some (-16) := by decide +kernel
example : hex? (.ofString "1__0") = none := by decide +kernel

end Chip8.Numeral
