import Chip8.Dump
import Chip8.Proofs.Blocks
import Mathlib.Data.List.Perm.Subperm

/-! Reading tables of hexadecimal rows. The reader takes upper-case digits alone, and of a row three
for its address and two for each of its sixteen bytes, with one blank in front of each byte. What
is printed as a row it reads back; the header and blank lines it does not take for rows. -/
namespace Chip8

namespace Hex

def digit? (c : Char) : Option Nat :=
  if '0' ≤ c ∧ c ≤ '9' then some (c.toNat - '0'.toNat)
  else if 'A' ≤ c ∧ c ≤ 'F' then some (c.toNat - 'A'.toNat + 10)
  else none

def number? (cs : List Char) : Option Nat := (cs.mapM digit?).map value

theorem digit?_upperDigit : ∀ d < 16, digit? (upperDigit d) = some d := by decide +kernel

theorem mapM_upperDigit {ds : List Nat} (small : ∀ d ∈ ds, d < 16) :
    (ds.map upperDigit).mapM digit? = some ds := by
  induction ds with
  | nil => rfl
  | cons d rest ih =>
    obtain ⟨first, others⟩ := List.forall_mem_cons.1 small
    simp [digit?_upperDigit d first, ih others]

theorem value_zeros_append (k : Nat) (ds : List Nat) :
    value (List.replicate k 0 ++ ds) = value ds := by
  have zeros : (List.replicate k 0).foldl (fun total d => 16 * total + d) 0 = 0 := by
    induction k with
    | zero => rfl
    | succ k ih => rw [List.replicate_succ, List.foldl_cons, ih]
  rw [value, List.foldl_append, zeros, value]

theorem number?_upper (width n : Nat) : number? (upper width n).toList = some n := by
  have padded : (upper width n).toList =
      (List.replicate (width - (digits n).length) 0 ++ digits n).map upperDigit := by
    simp [upper, fill, upperDigit]
  have small : ∀ d ∈ List.replicate (width - (digits n).length) 0 ++ digits n, d < 16 := by
    intro d member
    obtain zero | digit := List.mem_append.1 member
    · simp [List.eq_of_mem_replicate zero]
    · exact digits_lt_sixteen n d digit
  rw [number?, padded, mapM_upperDigit small, Option.map_some, value_zeros_append, value_digits]

theorem length_digits_of_lt {n : Nat} (small : n < 16) : (digits n).length = 1 := by
  rw [digits, if_pos small, List.length_singleton]

theorem length_digits_le (n : Nat) : (digits n).length ≤ (digits (n / 16)).length + 1 := by
  by_cases small : n < 16
  · rw [length_digits_of_lt small]
    omega
  · have split : digits n = digits (n / 16) ++ [n % 16] := by rw [digits, if_neg small]
    simp [split]

theorem length_upper {width n : Nat} (fits : (digits n).length ≤ width) :
    (upper width n).toList.length = width := by
  rw [upper, String.toList_ofList, length_fill, List.length_map]
  omega

theorem length_upper_three {n : Nat} (small : n < 0x1000) : (upper 3 n).toList.length = 3 := by
  have first := length_digits_le n
  have second := length_digits_le (n / 16)
  have last : (digits (n / 16 / 16)).length = 1 := length_digits_of_lt (by omega)
  exact length_upper (by omega)

theorem length_byte (b : UInt8) : (byte b).toList.length = 2 := by
  have byte := b.toNat_lt
  have first := length_digits_le b.toNat
  have last : (digits (b.toNat / 16)).length = 1 := length_digits_of_lt (by omega)
  exact length_upper (by omega)

theorem newline_not_mem_of_number? {cs : List Char} {n : Nat} (read : number? cs = some n) :
    '\n' ∉ cs := by
  obtain ⟨ds, read, _⟩ := Option.map_eq_some_iff.1 read
  clear * - read
  induction cs generalizing ds with
  | nil => simp
  | cons c rest ih =>
    simp only [List.mapM_cons, bind, Option.bind_eq_some_iff] at read
    obtain ⟨d, digit, others, read, _⟩ := read
    intro member
    obtain same | later := List.mem_cons.1 member
    · rw [← same] at digit
      cases digit
    · exact ih others read later

end Hex

namespace Dump

def readBytes? : List Char → Option (List UInt8)
  | [] => some []
  | ' ' :: high :: low :: rest => do
    let value ← Hex.number? [high, low]
    return UInt8.ofNat value :: (← readBytes? rest)
  | _ => none

def readRow? : List Char → Option (Nat × List UInt8)
  | a :: b :: c :: rest => do
    let start ← Hex.number? [a, b, c]
    let bytes ← readBytes? rest
    if bytes.length = 16 then some (start, bytes) else none
  | _ => none

def lines (text : String) : List (List Char) := text.toList.splitOn '\n'

/-- The byte that a line shows for an address, if it is a row that reaches the address. -/
def byteInLine? (line : List Char) (a : Nat) : Option UInt8 :=
  (readRow? line).bind fun (start, bytes) => if start ≤ a then bytes[a - start]? else none

/-- The byte that the first row to reach an address shows for it. -/
def byteIn? (text : String) (a : Nat) : Option UInt8 :=
  (lines text).findSome? (byteInLine? · a)

theorem readBytes?_flatMap (bytes : List UInt8) :
    readBytes? (bytes.flatMap fun b => ' ' :: (Hex.byte b).toList) = some bytes := by
  induction bytes with
  | nil => rfl
  | cons b rest ih =>
    obtain ⟨high, low, digits⟩ := List.length_eq_two.1 (Hex.length_byte b)
    have read : Hex.number? [high, low] = some b.toNat := by
      rw [← digits]
      exact Hex.number?_upper 2 b.toNat
    simp [digits, readBytes?, read, ih]

theorem blank_cons_intercalate {pieces : List (List Char)} (any : pieces ≠ []) :
    ' ' :: [' '].intercalate pieces = pieces.flatMap (' ' :: ·) := by
  induction pieces with
  | nil => exact absurd rfl any
  | cons piece rest ih =>
    by_cases last : rest = []
    · simp [last]
    · rw [List.intercalate_cons_of_ne_nil last, List.flatMap_cons, ← ih last]
      simp

theorem readRow?_row {size : Nat} (m : Memory size) {start : Nat} (small : start < 0x1000)
    (fits : start + 16 ≤ size) : readRow? (row m start).toList =
      some (start, (List.range 16).map fun k => m.byteAt (start + k)) := by
  have bytes : (m.readBlock start rowSize).toList =
      (List.range 16).map fun k => m.byteAt (start + k) :=
    m.readBlock_of_fits (Int.natCast_nonneg start) (show (start : Int) + (16 : Nat) ≤ size by omega)
  obtain ⟨a, b, c, digits⟩ := List.length_eq_three.1 (Hex.length_upper_three small)
  have address : Hex.upperSigned 3 start = Hex.upper 3 start := if_neg (by omega)
  have read : Hex.number? [a, b, c] = some start := by
    rw [← digits]
    exact Hex.number?_upper 3 start
  have shape : (row m start).toList = a :: b :: c ::
      ((List.range 16).map fun k => m.byteAt (start + k)).flatMap
        fun byte => ' ' :: (Hex.byte byte).toList := by
    simp only [row, address, bytes, digits, String.toList_append, String.toList_intercalate]
    have any : ((List.range 16).map fun k => m.byteAt (start + k)).map
        (fun byte => (Hex.byte byte).toList) ≠ [] := by simp
    simpa [List.flatMap_map, Function.comp_def] using blank_cons_intercalate any
  rw [shape]
  simp [readRow?, read, readBytes?_flatMap]

theorem byteInLine?_row {size : Nat} (m : Memory size) {start : Nat} (small : start < 0x1000)
    (fits : start + 16 ≤ size) (a : Nat) : byteInLine? (row m start).toList a =
      if start ≤ a ∧ a < start + 16 then some (m.byteAt a) else none := by
  rw [byteInLine?, readRow?_row m small fits, Option.bind_some]
  by_cases above : start ≤ a
  · by_cases below : a < start + 16
    · have inside : a - start < 16 := by omega
      simp [above, below, inside]
    · have past : ¬ a - start < 16 := by omega
      simp [above, below, past]
  · simp [above]

theorem newline_not_mem_of_readBytes? {cs : List Char} {bytes : List UInt8}
    (read : readBytes? cs = some bytes) : '\n' ∉ cs := by
  fun_induction readBytes? cs generalizing bytes with
  | case1 => simp
  | case2 high low rest ih =>
    simp only [bind, Option.bind_eq_some_iff] at read
    obtain ⟨value, digits, others, read, _⟩ := read
    simpa [ih read] using Hex.newline_not_mem_of_number? digits
  | case3 => cases read

theorem newline_not_mem_of_readRow? {cs : List Char} {shown : Nat × List UInt8}
    (read : readRow? cs = some shown) : '\n' ∉ cs := by
  unfold readRow? at read
  split at read
  · simp only [bind, Option.bind_eq_some_iff] at read
    obtain ⟨start, digits, bytes, read, _⟩ := read
    simpa [newline_not_mem_of_readBytes? read] using Hex.newline_not_mem_of_number? digits
  · cases read

end Dump

end Chip8
