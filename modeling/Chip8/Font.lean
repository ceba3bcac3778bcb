/-! The glyphs of the sixteen hexadecimal digits, eight pixels wide and five rows high,
one byte per row. -/
namespace Chip8.Font

def height : Nat := 5

def glyphs : List (List UInt8) :=
  [[0xF0, 0x90, 0x90, 0x90, 0xF0],
   [0x20, 0x60, 0x20, 0x20, 0x70],
   [0xF0, 0x10, 0xF0, 0x80, 0xF0],
   [0xF0, 0x10, 0xF0, 0x10, 0xF0],
   [0x90, 0x90, 0xF0, 0x10, 0x10],
   [0xF0, 0x80, 0xF0, 0x10, 0xF0],
   [0xF0, 0x80, 0xF0, 0x90, 0xF0],
   [0xF0, 0x10, 0x20, 0x40, 0x40],
   [0xF0, 0x90, 0xF0, 0x90, 0xF0],
   [0xF0, 0x90, 0xF0, 0x10, 0xF0],
   [0xF0, 0x90, 0xF0, 0x90, 0x90],
   [0xE0, 0x90, 0xE0, 0x90, 0xE0],
   [0xF0, 0x80, 0x80, 0x80, 0xF0],
   [0xE0, 0x90, 0x90, 0x90, 0xE0],
   [0xF0, 0x80, 0xF0, 0x80, 0xF0],
   [0xF0, 0x80, 0xF0, 0x80, 0x80]]

/-- The glyphs in the order in which they lie in memory. -/
def bytes : List UInt8 := glyphs.flatten

example : bytes.length = 16 * height := by decide

end Chip8.Font
