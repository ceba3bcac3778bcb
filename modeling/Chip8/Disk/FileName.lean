import Chip8.Text.Utf8

/-! File names. A file system keeps them as bytes, which mostly are UTF-8. In a text every byte
that is not stands as a low surrogate of its own, so any name can be shown and found again. -/
namespace Chip8

abbrev FileName := List UInt8

namespace FileName

/-- The surrogate that stands for a byte. -/
def halfOf (b : UInt8) : Nat := 0xDC00 + b.toNat

/-- The byte that a surrogate stands for. It lies beyond ASCII, of which every byte can be read. -/
def byteOf? (point : Nat) : Option UInt8 :=
  if 0xDC80 ≤ point ∧ point < 0xDD00 then some (UInt8.ofNat (point - 0xDC00)) else none

def ofText (t : CodePoints) : FileName :=
  t.flatMap fun point => ((byteOf? point).map ([·])).getD (Utf8.sequence point)

def unwritable? (t : CodePoints) : Option Utf8.Unwritable :=
  Utf8.unwritableFrom (fun point => (byteOf? point).isSome) 0 t

/-- The text of a name, of which `behind` bytes in front belong to what was read. -/
def textFrom (behind : Nat) : FileName → CodePoints
  | [] => []
  | b :: rest =>
    match behind with
    | behind + 1 => textFrom behind rest
    | 0 =>
      match Utf8.front? (b :: rest) with
      | some (point, length) => point :: textFrom (length - 1) rest
      | none => halfOf b :: textFrom 0 rest

def toText (name : FileName) : CodePoints := textFrom 0 name

def parent : FileName := [0x2E, 0x2E]

theorem byteOf?_halfOf (b : UInt8) (beyond : 0x80 ≤ b.toNat) : byteOf? (halfOf b) = some b := by
  have small := b.toNat_lt
  have inside : 0xDC80 ≤ 0xDC00 + b.toNat ∧ 0xDC00 + b.toNat < 0xDD00 := by omega
  simp [byteOf?, halfOf, inside]

example : ofText [0x61, 0xDCFF, 0xE9] = [0x61, 0xFF, 0xC3, 0xA9] := by decide
example : toText [0x61, 0xFF, 0xC3, 0xA9] = [0x61, 0xDCFF, 0xE9] := by decide +kernel
example : toText (ofText [0xDCC3, 0xDCA9]) = [0xE9] := by decide +kernel

end FileName

end Chip8
