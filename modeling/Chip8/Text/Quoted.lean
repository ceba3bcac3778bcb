import Chip8.Text.CodePoints
import Chip8.Text.Hex
import Chip8.Text.Printable

/-! Quoted texts for messages. Single quotes stand around the text, double quotes if it
holds single ones and no double ones. What is not printable is written as an escape. -/
namespace Chip8.Quoted

def escape (quote : Nat) (point : Nat) : String :=
  if point = quote || point = 0x5C then "\\" ++ String.singleton (Char.ofNat point)
  else if point = 0x09 then "\\t"
  else if point = 0x0A then "\\n"
  else if point = 0x0D then "\\r"
  else if Printable.isPrintable point then String.singleton (Char.ofNat point)
  else if point ≤ 0xFF then "\\x" ++ Hex.lower 2 point
  else if point ≤ 0xFFFF then "\\u" ++ Hex.lower 4 point
  else "\\U" ++ Hex.lower 8 point

def quoteFor (t : CodePoints) : Nat :=
  if t.contains 0x27 && !t.contains 0x22 then 0x22 else 0x27

def points (t : CodePoints) : String :=
  let quote := quoteFor t
  let mark := String.singleton (Char.ofNat quote)
  mark ++ String.join (t.map (escape quote)) ++ mark

def string (s : String) : String := points (CodePoints.ofString s)

/-- The quoted text, cut after two hundred characters. -/
def short (t : CodePoints) : String :=
  String.ofList ((points t).toList.take 200)

example : string "it's" = "\"it's\"" := by decide +kernel
example : string "a\tb\\" = "'a\\tb\\\\'" := by decide +kernel

end Chip8.Quoted
