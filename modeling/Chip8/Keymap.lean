import Chip8.Text.CodePoints
import Chip8.Text.Hex

/-! Keymaps: which keys of the host stand for which keys of the machine. -/
namespace Chip8

/-- Names of host keys with the hexadecimal keys that they stand for. -/
abbrev Keymap := List (CodePoints × Int)

namespace Keymap

/-- The left block of the keyboard in the places of the keypad:

    1 2 3 4      1 2 3 C
    q w e r  ->  4 5 6 D
    a s d f      7 8 9 E
    z x c v      A 0 B F
-/
def standardKeys : List (Char × Nat) :=
  [('1', 0x1), ('2', 0x2), ('3', 0x3), ('4', 0xC),
   ('q', 0x4), ('w', 0x5), ('e', 0x6), ('r', 0xD),
   ('a', 0x7), ('s', 0x8), ('d', 0x9), ('f', 0xE),
   ('z', 0xA), ('x', 0x0), ('c', 0xB), ('v', 0xF)]

def standard : Keymap := standardKeys.map fun (name, key) => ([name.toNat], (key : Int))

def template : String :=
  "\x7b\n" ++
    ",\n".intercalate (standardKeys.map fun (name, key) =>
      "  \"" ++ String.singleton name ++ "\": \"" ++ Hex.upper 1 key ++ "\"") ++
    "\n\x7d"

theorem standard_keys_small : ∀ entry ∈ standard, 0 ≤ entry.2 ∧ entry.2 < 16 := by decide

end Keymap

end Chip8
