import Chip8.Text.Hex

/-! The instruction set. A word of any size names the operation of its low sixteen bits;
operands are bit fields of the word. -/
namespace Chip8

inductive Operation
  | clear | ret | jump | call
  | skipIfByte | skipUnlessByte | skipIfEqual | skipUnlessEqual
  | loadByte | addByte
  | copy | or | and | xor | add | subtract | shiftRight | subtractFrom | shiftLeft
  | loadIndex | jumpOffset | random | draw
  | skipIfPressed | skipUnlessPressed
  | readDelay | awaitKey | setDelay | setSound
  | addIndex | glyph | decimal | save | restore
deriving DecidableEq, Repr

namespace Operation

def mnemonic : Operation → String
  | clear => "CLS"
  | ret => "RET"
  | jump => "JP nnn"
  | call => "CALL nnn"
  | skipIfByte => "SE Vx, kk"
  | skipUnlessByte => "SNE Vx, kk"
  | skipIfEqual => "SE Vx, Vy"
  | skipUnlessEqual => "SNE Vx, Vy"
  | loadByte => "LD Vx, kk"
  | addByte => "ADD Vx, kk"
  | copy => "LD Vx, Vy"
  | or => "OR Vx, Vy"
  | and => "AND Vx, Vy"
  | xor => "XOR Vx, Vy"
  | add => "ADD Vx, Vy"
  | subtract => "SUB Vx, Vy"
  | shiftRight => "SHR Vx"
  | subtractFrom => "SUBN Vx, Vy"
  | shiftLeft => "SHL Vx"
  | loadIndex => "LD I, nnn"
  | jumpOffset => "JP V0, nnn"
  | random => "RND Vx, kk"
  | draw => "DRW Vx, Vy, n"
  | skipIfPressed => "SKP Vx"
  | skipUnlessPressed => "SKNP Vx"
  | readDelay => "LD Vx, DT"
  | awaitKey => "LD Vx, K"
  | setDelay => "LD DT, Vx"
  | setSound => "LD ST, Vx"
  | addIndex => "ADD I, Vx"
  | glyph => "LD F, Vx"
  | decimal => "LD B, Vx"
  | save => "LD [I], Vx"
  | restore => "LD Vx, [I]"

/-- Group 8, told apart by the low nibble. -/
def arithmetic? : Nat → Option Operation
  | 0x0 => some copy
  | 0x1 => some or
  | 0x2 => some and
  | 0x3 => some xor
  | 0x4 => some add
  | 0x5 => some subtract
  | 0x6 => some shiftRight
  | 0x7 => some subtractFrom
  | 0xE => some shiftLeft
  | _ => none

/-- Group F, told apart by the low byte. -/
def extended? : Nat → Option Operation
  | 0x07 => some readDelay
  | 0x0A => some awaitKey
  | 0x15 => some setDelay
  | 0x18 => some setSound
  | 0x1E => some addIndex
  | 0x29 => some glyph
  | 0x33 => some decimal
  | 0x55 => some save
  | 0x65 => some restore
  | _ => none

/-- The operation of a sixteen-bit word. Group 0 looks at the low nibble alone, and the
register comparisons exist for a zero low nibble only. -/
def ofWord? (w : Nat) : Option Operation :=
  match w / 0x1000 with
  | 0x0 => match w % 0x10 with
    | 0x0 => some clear
    | 0xE => some ret
    | _ => none
  | 0x1 => some jump
  | 0x2 => some call
  | 0x3 => some skipIfByte
  | 0x4 => some skipUnlessByte
  | 0x5 => if w % 0x10 = 0 then some skipIfEqual else none
  | 0x6 => some loadByte
  | 0x7 => some addByte
  | 0x8 => arithmetic? (w % 0x10)
  | 0x9 => if w % 0x10 = 0 then some skipUnlessEqual else none
  | 0xA => some loadIndex
  | 0xB => some jumpOffset
  | 0xC => some random
  | 0xD => some draw
  | 0xE => match w % 0x100 with
    | 0x9E => some skipIfPressed
    | 0xA1 => some skipUnlessPressed
    | _ => none
  | 0xF => extended? (w % 0x100)
  | _ => none

end Operation

structure Instruction where
  operation : Operation
  word : Int
deriving DecidableEq, Repr

namespace Instruction

def low (w : Int) : Nat := (w % 0x10000).toNat

def x (i : Instruction) : Fin 16 := Fin.ofNat 16 (low i.word / 0x100)
def y (i : Instruction) : Fin 16 := Fin.ofNat 16 (low i.word / 0x10)
def base : Fin 16 := 0

def n (i : Instruction) : Nat := low i.word % 0x10
def kk (i : Instruction) : UInt8 := UInt8.ofNat (low i.word)
def nnn (i : Instruction) : Nat := low i.word % 0x1000

def decode? (word : Int) : Option Instruction :=
  (Operation.ofWord? (low word)).map fun operation => { operation, word }

theorem decode?_word {w : Int} {i : Instruction} (h : decode? w = some i) : i.word = w := by
  simp only [decode?, Option.map_eq_some_iff] at h
  obtain ⟨_, _, rfl⟩ := h
  rfl

end Instruction

end Chip8
