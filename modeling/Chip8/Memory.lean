import Chip8.Text.Hex

/-! Byte memory of a fixed size. Single accesses take any integer as address, where one
below zero counts back from the end; block reads clamp to the memory, and a block write
is refused as a whole unless every byte of it fits. -/
namespace Chip8

structure Memory (size : Nat) where
  bytes : Vector UInt8 size
deriving DecidableEq

namespace Memory

inductive Fault
  | emptySize
  | hugeSize
  | noRoom
  | outside
  | unaddressable
  | notBytes
  | misfit (count : Nat) (address : Int) (size : Nat)
deriving DecidableEq, Repr

def Fault.message : Fault → String
  | .emptySize => "invalid memory size"
  | .hugeSize => "cannot fit 'int' into an index-sized integer"
  | .noRoom => ""
  | .outside => "bytearray index out of range"
  | .unaddressable => "cannot fit 'int' into an index-sized integer"
  | .notBytes => "bytes must be in range(0, 256)"
  | .misfit count address size =>
    s!"block of {count} bytes at {Hex.tagged 5 address} exceeds memory size {Hex.tagged 2 size}"

def zeros (size : Nat) : Memory size :=
  ⟨Vector.replicate size 0⟩

/-- Zeroed memory of a requested size, which has to be positive and a signed 64-bit word. There is
room for so many bytes. -/
def ofSize? (room : Nat) (size : Int) : Except Fault ((n : Nat) × Memory n) :=
  if size ≤ 0 then .error .emptySize
  else if 0x8000000000000000 ≤ size then .error .hugeSize
  else if room < size then .error .noRoom
  else .ok ⟨size.toNat, zeros size.toNat⟩

/-- The cell that an address names. Nothing beyond a signed 64-bit word is an address. -/
def cell? (size : Nat) (address : Int) : Except Fault (Fin size) :=
  if direct : 0 ≤ address ∧ address < size then
    .ok ⟨address.toNat, by omega⟩
  else if back : -size ≤ address ∧ address < 0 then
    .ok ⟨(address + size).toNat, by omega⟩
  else if -0x8000000000000000 ≤ address ∧ address < 0x8000000000000000 then
    .error .outside
  else
    .error .unaddressable

theorem cell?_of_lt {size a : Nat} (inside : a < size) :
    cell? size a = .ok ⟨a, inside⟩ := by
  simp [cell?, inside]

variable {size : Nat}

def load8 (m : Memory size) (address : Int) : Except Fault UInt8 := do
  let cell ← cell? size address
  return m.bytes[cell.val]

def load16 (m : Memory size) (address : Int) : Except Fault Nat := do
  let high ← m.load8 address
  let low ← m.load8 (address + 1)
  return high.toNat <<< 8 ||| low.toNat

def store8 (m : Memory size) (address value : Int) : Except Fault (Memory size) := do
  let cell ← cell? size address
  return ⟨m.bytes.set cell (UInt8.ofInt value)⟩

/-- A bound of a block, counted back from the end when negative and held inside the memory. -/
def clamp (size : Nat) (bound : Int) : Nat :=
  if bound < 0 then (bound + size).toNat else min bound.toNat size

/-- The bytes from `address` up to `address + length`, as far as they lie in memory. -/
def readBlock (m : Memory size) (address length : Int) : Array UInt8 :=
  m.bytes.toArray.extract (clamp size address) (clamp size (address + length))

/-- Overwrites consecutive cells from `start` on; what would pass the end is dropped. -/
def overwrite (m : Memory size) (start : Nat) : List UInt8 → Memory size
  | [] => m
  | b :: rest => overwrite ⟨m.bytes.setIfInBounds start b⟩ (start + 1) rest

def writeBytes (m : Memory size) (address : Int) (block : List UInt8) :
    Except Fault (Memory size) :=
  if address < 0 ∨ size < address + block.length then
    .error (.misfit block.length address size)
  else
    .ok (m.overwrite address.toNat block)

def bytes? (values : List Int) : Except Fault (List UInt8) :=
  if values.all fun v => 0 ≤ v && v < 256 then
    .ok (values.map UInt8.ofInt)
  else
    .error .notBytes

theorem toNat_ofInt (i : Int) : ((UInt8.ofInt i).toNat : Int) = i % 0x100 := by
  rw [UInt8.ofInt, UInt8.toNat_ofNat']
  omega

/-- Writes a block of integers: first each has to be a byte, then the block has to fit. -/
def writeBlock (m : Memory size) (address : Int) (values : List Int) :
    Except Fault (Memory size) := do
  m.writeBytes address (← bytes? values)

@[ext] theorem ext_get {m k : Memory size}
    (same : ∀ i : Fin size, m.bytes[i.val] = k.bytes[i.val]) : m = k := by
  obtain ⟨mb⟩ := m
  obtain ⟨kb⟩ := k
  congr
  apply Vector.ext
  intro i inside
  exact same ⟨i, inside⟩

theorem overwrite_nil (m : Memory size) (start : Nat) : m.overwrite start [] = m := rfl

theorem overwrite_get_of_lt (m : Memory size) (start : Nat) (block : List UInt8)
    (i : Fin size) (before : i.val < start) :
    (m.overwrite start block).bytes[i.val] = m.bytes[i.val] := by
  induction block generalizing m start with
  | nil => rfl
  | cons b rest ih =>
    rw [overwrite, ih _ (start + 1) (by omega), Vector.getElem_setIfInBounds_ne]
    omega

theorem overwrite_get (m : Memory size) (start : Nat) (block : List UInt8) (i : Fin size) :
    (m.overwrite start block).bytes[i.val] =
      if start ≤ i.val then block.getD (i.val - start) m.bytes[i.val] else m.bytes[i.val] := by
  induction block generalizing m start with
  | nil => simp [overwrite]
  | cons b rest ih =>
    rw [overwrite]
    by_cases here : i.val = start
    · subst here
      rw [overwrite_get_of_lt _ _ _ _ (Nat.lt_succ_self _)]
      simp
    · have apart : start ≠ i.val := fun same => here same.symm
      rw [ih, Vector.getElem_setIfInBounds_ne _ apart]
      by_cases covered : start ≤ i.val
      · have later : start + 1 ≤ i.val := by omega
        have shift : i.val - start = (i.val - (start + 1)) + 1 := by omega
        rw [if_pos later, if_pos covered, shift, List.getD_cons_succ]
      · have not_later : ¬ start + 1 ≤ i.val := by omega
        rw [if_neg not_later, if_neg covered]

end Memory

end Chip8
