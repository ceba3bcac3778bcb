import Chip8.Change
import Chip8.Proofs.Blocks
import Chip8.Proofs.Decoding

/-! Blocks of integers. A block is written as a whole, or it is refused as a whole and memory is
left as it was. Replacing a range of bytes would not be enough on its own: its bounds are held
inside the bytes, so that a block beyond them would land elsewhere or change how many there are. -/
namespace Chip8.Memory

/-- Bytes in which a block has taken the place of those from `first` up to `last`, as far as there
are any. The block may be longer or shorter than what it replaces. -/
def spliced (bytes : List UInt8) (first last : Int) (block : List UInt8) : List UInt8 :=
  let start := clamp bytes.length first
  bytes.take start ++ block ++ bytes.drop (max start (clamp bytes.length last))

/-- Writes integers into bytes whose number nothing fixes. Each integer has to be a byte, and the
block has to lie inside; only then it is spliced in. -/
def splice (address : Int) (values : List Int) : Change (List UInt8) Fault Unit := fun bytes =>
  match bytes? values with
  | .error fault => .error fault bytes
  | .ok block =>
    if address < 0 ∨ bytes.length < address + block.length then
      .error (.misfit block.length address bytes.length) bytes
    else
      .ok () (spliced bytes address (address + block.length) block)

variable {size : Nat}

def readNumbers (m : Memory size) (address length : Int) : List Int :=
  (m.readBlock address length).toList.map fun b => (b.toNat : Int)

/-- The integers are bytes, and a block of them lies in a memory of this size. -/
structure Fits (size : Nat) (address : Int) (values : List Int) : Prop where
  bytes : ∀ v ∈ values, 0 ≤ v ∧ v ≤ 255
  low : 0 ≤ address
  high : address + values.length ≤ size

/-- What is wrong with integers that do not fit: it is noticed first if they are no bytes. -/
def misfit (size : Nat) (address : Int) (values : List Int) : Fault :=
  if ∃ v ∈ values, v < 0 ∨ 255 < v then .notBytes else .misfit values.length address size

/-- `k` is `m` with integers in place of the bytes from `address` on. -/
structure Placed (address : Int) (values : List Int) (m k : Memory size) : Prop where
  block : ∀ i (inside : i < values.length),
    ((k.byteAt (address.toNat + i)).toNat : Int) = values[i]
  others : ∀ a : Nat, a < address ∨ address + values.length ≤ a → k.byteAt a = m.byteAt a

/-- However memory is read, it is the same: byte by byte, in words whose high byte comes first, and
in blocks; and a block that was read can be written back. -/
structure Coherent (m : Memory size) : Prop where
  byte : ∀ {start count i : Nat}, start + count ≤ size → i < count →
    ∃ b, (m.readBlock start count).toList[i]? = some b ∧ m.load8 (start + i : Nat) = .ok b
  word : ∀ {start count i : Nat}, start + count ≤ size → i + 1 < count →
    ∃ high low, (m.readBlock start count).toList[i]? = some high ∧
      (m.readBlock start count).toList[i + 1]? = some low ∧
      m.load16 (start + i : Nat) = .ok (high.toNat * 0x100 + low.toNat)
  back : ∀ {start count : Nat}, start + count ≤ size →
    m.writeBlock start (m.readNumbers start count) = .ok m

theorem length_toList (m : Memory size) : m.bytes.toList.length = size := Vector.length_toList

theorem getElem_toList (m : Memory size) {a : Nat} (inside : a < m.bytes.toList.length) :
    m.bytes.toList[a] = m.byteAt a := by
  rw [byteAt_eq_getElem m (m.length_toList ▸ inside), Vector.getElem_toList]

theorem toList_overwrite (m : Memory size) {address : Int} {block : List UInt8}
    (low : 0 ≤ address) (high : address + block.length ≤ size) :
    (m.overwrite address.toNat block).bytes.toList =
      spliced m.bytes.toList address (address + block.length) block := by
  have behind : (address + block.length).toNat = address.toNat + block.length := by omega
  have later : max address.toNat (address.toNat + block.length) = address.toNat + block.length := by
    omega
  rw [spliced, length_toList, clamp_of_inside low (by omega), clamp_of_inside (by omega) high,
    behind, later]
  have short : (m.bytes.toList.take address.toNat).length = address.toNat := by
    rw [List.length_take, length_toList]
    omega
  have front : (m.bytes.toList.take address.toNat ++ block).length =
      address.toNat + block.length := by
    rw [List.length_append, short]
  refine List.ext_getElem ?_ fun a inside _ => ?_
  · rw [length_toList, List.length_append, front, List.length_drop, length_toList]
    omega
  · rw [getElem_toList]
    by_cases before : a < address.toNat
    · rw [m.byteAt_overwrite (.inl before), List.getElem_append_left (by omega),
        List.getElem_append_left (by omega), List.getElem_take, getElem_toList]
    · by_cases covered : a < address.toNat + block.length
      · obtain ⟨k, rfl⟩ := Nat.exists_eq_add_of_le (Nat.not_lt.1 before)
        rw [m.byteAt_overwrite_add (by omega) (by omega), List.getElem_append_left (by omega),
          List.getElem_append_right (by omega)]
        simp only [short, Nat.add_sub_cancel_left]
      · rw [m.byteAt_overwrite (.inr (by omega)), List.getElem_append_right (by omega),
          List.getElem_drop, getElem_toList]
        congr 1
        omega

example : spliced [1, 2, 3] (-1) 0 [9] = [1, 2, 9, 3] := by decide

theorem splice_eq (m : Memory size) (address : Int) (values : List Int) :
    splice address values m.bytes.toList =
      Changed.whole m.bytes.toList ((m.writeBlock address values).map fun k => k.bytes.toList) := by
  rw [splice, writeBlock]
  cases bytes? values with
  | error fault => rfl
  | ok block =>
    simp only [bind, Except.bind, writeBytes, length_toList]
    split
    · rfl
    · next inside =>
      obtain ⟨low, high⟩ := not_or.1 inside
      rw [← m.toList_overwrite (Int.not_lt.1 low) (Int.not_lt.1 high)]
      rfl

section Writes

variable {m k l j : Memory size} {address other : Int} {values others : List Int}

theorem not_fits_iff : ¬ Fits size address values ↔
    (∃ v ∈ values, v < 0 ∨ 255 < v) ∨ address < 0 ∨ size < address + values.length := by
  constructor
  · intro misfits
    by_cases bad : ∃ v ∈ values, v < 0 ∨ 255 < v
    · exact .inl bad
    · refine .inr (Decidable.byContradiction fun inside => misfits ⟨fun v member => ?_, ?_, ?_⟩)
      · have byte : ¬ (v < 0 ∨ 255 < v) := fun large => bad ⟨v, member, large⟩
        omega
      · omega
      · omega
  · rintro (⟨v, member, large⟩ | out) fits
    · have byte := fits.bytes v member
      omega
    · have low := fits.low
      have high := fits.high
      omega

theorem bytes?_eq (values : List Int) :
    bytes? values = if ∃ v ∈ values, v < 0 ∨ 255 < v then .error .notBytes
      else .ok (values.map UInt8.ofInt) := by
  have all : (values.all fun v => 0 ≤ v && v < 256) = true ↔ ¬ ∃ v ∈ values, v < 0 ∨ 255 < v := by
    simp only [List.all_eq_true, Bool.and_eq_true, decide_eq_true_eq, not_exists, not_and]
    exact forall₂_congr fun v _ => by omega
  simp only [bytes?, all, ite_not]

theorem writeBlock_of_not_fits (m : Memory size) (misfits : ¬ Fits size address values) :
    m.writeBlock address values = .error (misfit size address values) := by
  rw [writeBlock, bytes?_eq, misfit]
  split
  · rfl
  · next bytes =>
    have out := (not_fits_iff.1 misfits).resolve_left bytes
    simp only [bind, Except.bind, writeBytes, List.length_map, if_pos out]

theorem writeBlock_of_fits (m : Memory size) (fits : Fits size address values) :
    m.writeBlock address values =
      .ok (m.overwrite address.toNat (values.map UInt8.ofInt)) := by
  obtain ⟨bytes, inside⟩ := not_or.1 (mt not_fits_iff.2 (not_not_intro fits))
  rw [writeBlock, bytes?_eq, if_neg bytes]
  simp only [bind, Except.bind, writeBytes, List.length_map, if_neg inside]

theorem placed_overwrite (m : Memory size) (fits : Fits size address values) :
    Placed address values m (m.overwrite address.toNat (values.map UInt8.ofInt)) where
  block i inside := by
    have low := fits.low
    have high := fits.high
    have byte := fits.bytes _ (List.getElem_mem inside)
    rw [m.byteAt_overwrite_add (by rw [List.length_map]; omega)
      (by rw [List.length_map]; exact inside), List.getElem_map, toNat_ofInt]
    omega
  others a outside := by
    have low := fits.low
    refine m.byteAt_overwrite ?_
    rw [List.length_map]
    omega

theorem Placed.agree (one : Placed address values m k) (again : Placed address values l j)
    (low : 0 ≤ address) {a : Nat} (covered : address ≤ a ∧ a < address + values.length) :
    k.byteAt a = j.byteAt a := by
  have inside : a - address.toNat < values.length := by omega
  have here : address.toNat + (a - address.toNat) = a := by omega
  have first := one.block _ inside
  have second := again.block _ inside
  rw [here] at first second
  rw [← UInt8.toNat_inj]
  omega

theorem Placed.unique (one : Placed address values m k) (again : Placed address values m j)
    (low : 0 ≤ address) : k = j := by
  refine ext_byteAt fun a _ => ?_
  by_cases covered : address ≤ a ∧ a < address + values.length
  · exact one.agree again low covered
  · rw [one.others a (by omega), again.others a (by omega)]

theorem writeBlock_eq_ok_iff :
    m.writeBlock address values = .ok k ↔ Fits size address values ∧ Placed address values m k := by
  by_cases fits : Fits size address values
  · rw [writeBlock_of_fits m fits, Except.ok.injEq, and_iff_right fits]
    have placed := placed_overwrite m fits
    exact ⟨fun same => same ▸ placed, fun again => placed.unique again fits.low⟩
  · rw [writeBlock_of_not_fits m fits]
    exact iff_of_false nofun fun written => fits written.1

theorem Placed.readNumbers (placed : Placed address values m k)
    (fits : Fits size address values) : k.readNumbers address values.length = values := by
  rw [Memory.readNumbers, k.readBlock_of_fits fits.low fits.high, List.map_map]
  refine List.ext_getElem (by simp) fun i _ inside => ?_
  rw [List.getElem_map, List.getElem_range]
  exact placed.block i inside

theorem written_in_either_order (one : m.writeBlock address values = .ok k)
    (another : m.writeBlock other others = .ok l)
    (apart : ∀ a : Int, ¬ (address ≤ a ∧ a < address + values.length ∧
      other ≤ a ∧ a < other + others.length)) :
    ∃ both, k.writeBlock other others = .ok both ∧ l.writeBlock address values = .ok both := by
  obtain ⟨fits, here⟩ := writeBlock_eq_ok_iff.1 one
  obtain ⟨fits', there⟩ := writeBlock_eq_ok_iff.1 another
  have low := fits.low
  have then' := placed_overwrite k fits'
  refine ⟨_, writeBlock_of_fits k fits', writeBlock_eq_ok_iff.2 ⟨fits, fun i inside => ?_,
    fun a outside => ?_⟩⟩
  · have disjoint := apart (address.toNat + i : Nat)
    rw [then'.others _ (by omega)]
    exact here.block i inside
  · by_cases covered : other ≤ a ∧ a < other + others.length
    · exact then'.agree there fits'.low covered
    · rw [then'.others a (by omega), there.others a (by omega), here.others a outside]

theorem getElem?_readBlock (m : Memory size) {start count i : Nat} (fits : start + count ≤ size)
    (inside : i < count) :
    (m.readBlock start count).toList[i]? = some (m.byteAt (start + i)) := by
  rw [m.readBlock_of_fits (Int.natCast_nonneg start) (by omega)]
  simp [inside]

theorem coherent (m : Memory size) : m.Coherent where
  byte {start count i} fits inside :=
    ⟨m.byteAt (start + i), m.getElem?_readBlock fits inside,
      m.load8_of_inside (by omega) (by omega)⟩
  word {start count i} fits inside := by
    have high := m.load8_of_inside (a := (start + i : Nat)) (by omega) (by omega)
    have low := m.load8_of_inside (a := (start + i : Nat) + 1) (by omega) (by omega)
    refine ⟨m.byteAt (start + i), m.byteAt (start + (i + 1)),
      m.getElem?_readBlock fits (Nat.lt_of_succ_lt inside), m.getElem?_readBlock fits inside, ?_⟩
    rw [← Instruction.fetch_eq_load16, Instruction.fetch, high, low]
    rfl
  back {start count} fits := by
    have numbers : m.readNumbers start count =
        (List.range count).map fun i => ((m.byteAt (start + i)).toNat : Int) := by
      rw [readNumbers, m.readBlock_of_fits (Int.natCast_nonneg start) (by omega), List.map_map]
      rfl
    rw [numbers, writeBlock_eq_ok_iff]
    refine ⟨⟨fun v member => ?_, Int.natCast_nonneg start, ?_⟩, fun i inside => ?_, fun _ _ => rfl⟩
    · obtain ⟨i, _, rfl⟩ := List.mem_map.1 member
      have byte := (m.byteAt (start + i)).toNat_lt
      omega
    · rw [List.length_map, List.length_range]
      omega
    · rw [List.getElem_map, List.getElem_range]
      rfl

theorem exists_stored (m : Memory size) {a : Nat} (inside : a < size) (v : Int) :
    ∃ k, m.store8 a v = .ok k ∧ ((k.byteAt a).toNat : Int) = v % 0x100 ∧
      ∀ b ≠ a, k.byteAt b = m.byteAt b := by
  refine ⟨⟨m.bytes.set a (UInt8.ofInt v)⟩, ?_, ?_, fun b other => ?_⟩
  · rw [store8, cell?_of_lt inside]
    rfl
  · rw [byteAt_eq_getElem _ inside, Vector.getElem_set_self, toNat_ofInt]
  · rw [byteAt, byteAt, Vector.getElem?_set_ne inside other.symm]

end Writes

/-- A block of integers that are no bytes, or that would not lie in memory, is refused and has
changed nothing; any other takes its place, moves no byte around it and is read back. Blocks apart
from each other do not care which is written first. A single integer is stored by its low byte. -/
theorem blocks_written_whole (m : Memory size) (address : Int) (values : List Int) :
    ((∃ fault, m.writeBlock address values = .error fault) ↔
      (∃ v ∈ values, v < 0 ∨ 255 < v) ∨ address < 0 ∨ size < address + values.length) ∧
    (¬ Fits size address values →
      m.writeBlock address values = .error (misfit size address values) ∧
      splice address values m.bytes.toList =
        .error (misfit size address values) m.bytes.toList) ∧
    (Fits size address values → ∃ k, m.writeBlock address values = .ok k ∧
      splice address values m.bytes.toList = .ok () k.bytes.toList ∧
      k.bytes.toList.length = size ∧ Placed address values m k ∧
      k.readNumbers address values.length = values ∧ k.Coherent ∧
      ∀ other others l, m.writeBlock other others = .ok l →
        (∀ a : Int, ¬ (address ≤ a ∧ a < address + values.length ∧
          other ≤ a ∧ a < other + others.length)) →
        ∃ both, k.writeBlock other others = .ok both ∧
          l.writeBlock address values = .ok both) ∧
    ∀ (a : Nat) (v : Int), a < size → ∃ k, m.store8 a v = .ok k ∧
      ((k.byteAt a).toNat : Int) = v % 0x100 ∧ ∀ b ≠ a, k.byteAt b = m.byteAt b := by
  have spliced := m.splice_eq address values
  refine ⟨?_, fun misfits => ?_, fun fits => ?_, fun a v inside => m.exists_stored inside v⟩
  · rw [← not_fits_iff]
    refine ⟨fun ⟨fault, refused⟩ fits => ?_, fun misfits => ⟨_, m.writeBlock_of_not_fits misfits⟩⟩
    rw [m.writeBlock_of_fits fits] at refused
    cases refused
  · have refused := m.writeBlock_of_not_fits misfits
    rw [refused] at spliced
    exact ⟨refused, spliced⟩
  · have written := m.writeBlock_of_fits fits
    have placed := m.placed_overwrite fits
    rw [written] at spliced
    exact ⟨_, written, spliced, length_toList _, placed, placed.readNumbers fits,
      coherent _, fun _ _ _ another disjoint => written_in_either_order written another disjoint⟩

theorem last_word_written :
    Fits 4 2 [0x12, 0x34] ∧ ¬ Fits 4 3 [0x12, 0x34] ∧
      (zeros 4).writeBlock 3 [0x12, 0x34] = .error (.misfit 2 3 4) ∧
      ∃ k l both, (zeros 4).writeBlock 2 [0x12, 0x34] = .ok k ∧
        k.readNumbers 2 2 = [0x12, 0x34] ∧ (zeros 4).writeBlock 0 [0xFF, 0xFE] = .ok l ∧
        k.writeBlock 0 [0xFF, 0xFE] = .ok both ∧ l.writeBlock 2 [0x12, 0x34] = .ok both ∧
        ∃ j, (zeros 4).store8 3 (-2) = .ok j ∧ ((j.byteAt 3).toNat : Int) = 0xFE := by
  have fits : Fits 4 2 [0x12, 0x34] := ⟨by decide, by decide, by decide⟩
  have misfits : ¬ Fits 4 3 [0x12, 0x34] := fun ⟨_, _, high⟩ => absurd high (by decide)
  obtain ⟨_, _, accepts, stores⟩ := blocks_written_whole (zeros 4) 2 [0x12, 0x34]
  obtain ⟨_, refuses, _⟩ := blocks_written_whole (zeros 4) 3 [0x12, 0x34]
  obtain ⟨k, written, _, _, _, read, _, commutes⟩ := accepts fits
  obtain ⟨l, another, _⟩ :=
    (blocks_written_whole (zeros 4) 0 [0xFF, 0xFE]).2.2.1 ⟨by decide, by decide, by decide⟩
  obtain ⟨both, first, second⟩ := commutes 0 [0xFF, 0xFE] l another (by simp; omega)
  obtain ⟨j, stored, low, _⟩ := stores 3 (-2) (by decide)
  exact ⟨fits, misfits, (refuses misfits).1, k, l, both, written, read, another, first, second,
    j, stored, low⟩

end Chip8.Memory
