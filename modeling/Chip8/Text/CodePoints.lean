/-! Texts as code points. Unlike a string, such a text can hold half of a surrogate pair
on its own. An escape in a data file may write one, and a file name or an argument that is no
UTF-8 has one for every byte that cannot be read. -/
namespace Chip8

abbrev CodePoints := List Nat

namespace CodePoints

def ofString (s : String) : CodePoints := s.toList.map Char.toNat

def isSurrogate (point : Nat) : Bool := 0xD800 ≤ point && point < 0xE000

/-- The characters of a text, if it holds no surrogate. -/
def toChars? (t : CodePoints) : Option (List Char) :=
  if t.any isSurrogate then none else some (t.map Char.ofNat)

def line (t : CodePoints) : CodePoints := t ++ [0x0A]

/-- Joins every high surrogate with a low one that follows it. -/
def joinSurrogates : CodePoints → CodePoints
  | high :: low :: rest =>
    if 0xD800 ≤ high ∧ high < 0xDC00 ∧ 0xDC00 ≤ low ∧ low < 0xE000 then
      (0x10000 + (high - 0xD800) * 0x400 + (low - 0xDC00)) :: joinSurrogates rest
    else
      high :: joinSurrogates (low :: rest)
  | points => points

def before : CodePoints → CodePoints → Bool
  | _, [] => false
  | [], _ :: _ => true
  | a :: s, b :: t => a < b || (a == b && before s t)

end CodePoints

end Chip8
