import Chip8.Text.CodePoints
import Chip8.Text.Hex

/-! UTF-8: the lead byte of a sequence tells how many tails follow and how far the first of
them may range, which rules out long forms, surrogates and points beyond Unicode. A sequence
that breaks off is reported with the part of it that was sound, a text with surrogates with the
first of them. -/
namespace Chip8.Utf8

def sequence (point : Nat) : List UInt8 :=
  let tail (place : Nat) : UInt8 := UInt8.ofNat (0x80 + point / Nat.pow 64 place % 64)
  if point < 0x80 then [UInt8.ofNat point]
  else if point < 0x800 then [UInt8.ofNat (0xC0 + point / 64), tail 0]
  else if point < 0x10000 then [UInt8.ofNat (0xE0 + point / 0x1000), tail 1, tail 0]
  else [UInt8.ofNat (0xF0 + point / 0x40000), tail 2, tail 1, tail 0]

def encode (t : CodePoints) : List UInt8 := t.flatMap sequence

/-- Surrogates that have no bytes: the offset of the first, and all in a row from there on. -/
structure Unwritable where
  offset : Nat
  row : CodePoints
deriving DecidableEq, Repr

def Unwritable.message (f : Unwritable) : String :=
  let place := match f.row with
    | [point] => s!"character '\\u{Hex.lower 4 point}' in position {f.offset}"
    | row => s!"characters in position {f.offset}-{f.offset + row.length - 1}"
  s!"'utf-8' codec can't encode {place}: surrogates not allowed"

/-- The first surrogate in a text that starts at `offset`, apart from those that are `known`. -/
def unwritableFrom (known : Nat → Bool) (offset : Nat) : CodePoints → Option Unwritable
  | [] => none
  | point :: rest =>
    if CodePoints.isSurrogate point && !known point then
      some ⟨offset, (point :: rest).takeWhile CodePoints.isSurrogate⟩
    else
      unwritableFrom known (offset + 1) rest

def unwritable? (t : CodePoints) : Option Unwritable := unwritableFrom (fun _ => false) 0 t

inductive Cause
  | lead
  | tail
  | cutOff
deriving DecidableEq, Repr

/-- Bytes that are no text: the offset of the sequence and its sound part. -/
structure Fault where
  cause : Cause
  offset : Nat
  sound : List UInt8
deriving DecidableEq, Repr

def Cause.message : Cause → String
  | .lead => "invalid start byte"
  | .tail => "invalid continuation byte"
  | .cutOff => "unexpected end of data"

def Fault.message (f : Fault) : String :=
  let place := match f.sound with
    | [b] => s!"byte {Hex.tagged 4 b.toNat} in position {f.offset}"
    | sound => s!"bytes in position {f.offset}-{f.offset + sound.length - 1}"
  s!"'utf-8' codec can't decode {place}: {f.cause.message}"

structure Lead where
  bits : Nat
  tails : Nat
  /-- The range of the first tail. -/
  low : Nat
  high : Nat
deriving DecidableEq, Repr

def lead? (b : Nat) : Option Lead :=
  if b < 0x80 then some ⟨b, 0, 0x80, 0xBF⟩
  else if b < 0xC2 then none
  else if b < 0xE0 then some ⟨b - 0xC0, 1, 0x80, 0xBF⟩
  else if b = 0xE0 then some ⟨0, 2, 0xA0, 0xBF⟩
  else if b = 0xED then some ⟨0xD, 2, 0x80, 0x9F⟩
  else if b < 0xF0 then some ⟨b - 0xE0, 2, 0x80, 0xBF⟩
  else if b = 0xF0 then some ⟨0, 3, 0x90, 0xBF⟩
  else if b < 0xF4 then some ⟨b - 0xF0, 3, 0x80, 0xBF⟩
  else if b = 0xF4 then some ⟨4, 3, 0x80, 0x8F⟩
  else none

structure Progress where
  /-- The bytes of the open sequence, the last one first. -/
  sound : List UInt8
  bits : Nat
  /-- The tails that are still to come. -/
  owed : Nat
  low : Nat
  high : Nat

/-- Decodes bytes, `p` being what is known of the sequence that is open at `offset`. -/
def decodeFrom (offset : Nat) (p : Progress) : List UInt8 → Except Fault (List Char)
  | [] => if p.owed = 0 then .ok [] else .error ⟨.cutOff, offset, p.sound.reverse⟩
  | b :: rest =>
    if p.owed = 0 then
      match lead? b.toNat with
      | none => .error ⟨.lead, offset, [b]⟩
      | some ⟨bits, 0, _, _⟩ => do
        return Char.ofNat bits :: (← decodeFrom (offset + 1) ⟨[], 0, 0, 0, 0⟩ rest)
      | some ⟨bits, tails, low, high⟩ => decodeFrom offset ⟨[b], bits, tails, low, high⟩ rest
    else if p.low ≤ b.toNat ∧ b.toNat ≤ p.high then
      let bits := p.bits * 64 + b.toNat % 64
      if p.owed = 1 then do
        return Char.ofNat bits ::
          (← decodeFrom (offset + p.sound.length + 1) ⟨[], 0, 0, 0, 0⟩ rest)
      else
        decodeFrom offset ⟨b :: p.sound, bits, p.owed - 1, 0x80, 0xBF⟩ rest
    else
      .error ⟨.tail, offset, p.sound.reverse⟩

def decode (bytes : List UInt8) : Except Fault (List Char) :=
  decodeFrom 0 ⟨[], 0, 0, 0, 0⟩ bytes

/-- The code point whose sequence begins some bytes, and the length of that sequence. -/
def front? (bytes : List UInt8) : Option (Nat × Nat) :=
  [1, 2, 3, 4].findSome? fun length =>
    match decode (bytes.take length) with
    | .ok [c] => some (c.toNat, length)
    | _ => none

def unifyLines : List Char → List Char
  | '\r' :: '\n' :: rest => '\n' :: unifyLines rest
  | '\r' :: rest => '\n' :: unifyLines rest
  | c :: rest => c :: unifyLines rest
  | [] => []

example : (decode [0x61, 0xC3, 0xA9]).toOption = some ['a', 'é'] := by decide +kernel
example : decode [0x61, 0xED, 0xA0, 0x80] = .error ⟨.tail, 1, [0xED]⟩ := rfl
example : decode [0xE2, 0x82] = .error ⟨.cutOff, 0, [0xE2, 0x82]⟩ := rfl
example : encode [0x61, 0xE9, 0x20AC] = [0x61, 0xC3, 0xA9, 0xE2, 0x82, 0xAC] := by decide
example : unwritable? [0x61, 0xD800, 0xDCFF] = some ⟨1, [0xD800, 0xDCFF]⟩ := by decide

end Chip8.Utf8
