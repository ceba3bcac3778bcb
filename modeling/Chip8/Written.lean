import Chip8.Span
import Chip8.Text.Blank
import Chip8.Text.Numeral

/-! Addresses, spans and key lists as they are written on a command line, in hexadecimal. -/
namespace Chip8.Written

inductive Fault
  | notHex (text : CodePoints)
  | outsideMemory
  | noColon
  | reversed
deriving DecidableEq, Repr

def Fault.message : Fault → String
  | .notHex text => Numeral.hexComplaint text
  | .outsideMemory => "address outside 000-FFF"
  | .noColon => "expected START:END"
  | .reversed => "END is below START"

def hex (t : CodePoints) : Except Fault Int :=
  match Numeral.hex? t with
  | some n => .ok n
  | none => .error (.notHex t)

def address (t : CodePoints) : Except Fault Nat := do
  let n ← hex (Blank.trim t)
  if 0 ≤ n ∧ n < 0x1000 then .ok n.toNat else .error .outsideMemory

def colon : Nat := 0x3A

/-- Two addresses with a colon between them; the second is not below the first. -/
def span (t : CodePoints) : Except Fault (Nat × Nat) := do
  let before := t.takeWhile (· ≠ colon)
  match t.drop before.length with
  | [] => .error .noColon
  | _ :: after =>
    let first ← address before
    let last ← address after
    if last < first then .error .reversed else .ok (first, last)

/-- One key per character, blanks around the list apart. -/
def keys (t : CodePoints) : Except Fault (List Int) :=
  (Blank.trim t).mapM fun point => hex [point]

example : (address (.ofString " 0x2_0\t")).toOption = some 0x20 := by decide +kernel
example : (span (.ofString "1:f")).toOption = some (1, 15) := by decide +kernel

end Chip8.Written
