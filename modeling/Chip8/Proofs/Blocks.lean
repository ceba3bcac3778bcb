import Chip8.Proofs.Fetch

/-! Blocks of memory, told byte by byte. A block that lies in memory is read as a whole; a block
that is written changes the bytes under it and no others. -/
namespace Chip8

theorem foldl_latest {α β : Type} (given? : α → Option β) (givers : List α) (b : β) :
    let final := givers.foldl (fun b c => (given? c).getD b) b
    (∀ c ∈ givers, given? c = none) ∧ final = b ∨
      ∃ first c later value, givers = first ++ c :: later ∧ given? c = some value ∧
        (∀ d ∈ later, given? d = none) ∧ final = value := by
  induction givers generalizing b with
  | nil => exact .inl ⟨by simp, rfl⟩
  | cons c rest ih =>
    rw [List.foldl_cons]
    obtain ⟨ungiven, same⟩ | ⟨first, d, later, value, split, given, ungiven, same⟩ :=
      ih ((given? c).getD b)
    · cases given : given? c with
      | none =>
        rw [given, Option.getD_none] at same
        exact .inl ⟨List.forall_mem_cons.2 ⟨given, ungiven⟩, same⟩
      | some value =>
        rw [given, Option.getD_some] at same
        exact .inr ⟨[], c, rest, value, rfl, given, ungiven, same⟩
    · refine .inr ⟨c :: first, d, later, value, ?_, given, ungiven, same⟩
      rw [split, List.cons_append]

namespace Memory

variable {size : Nat}

theorem byteAt_eq_getElem (m : Memory size) {a : Nat} (inside : a < size) :
    m.byteAt a = m.bytes[a] := by
  rw [byteAt, Vector.getElem?_eq_getElem inside, Option.getD_some]

theorem ext_byteAt {m k : Memory size} (same : ∀ a < size, m.byteAt a = k.byteAt a) : m = k := by
  refine ext_get fun i => ?_
  have here := same i.val i.isLt
  rwa [byteAt_eq_getElem _ i.isLt, byteAt_eq_getElem _ i.isLt] at here

theorem clamp_of_inside {bound : Int} (low : 0 ≤ bound) (high : bound ≤ size) :
    clamp size bound = bound.toNat := by
  unfold clamp
  rw [if_neg (by omega)]
  omega

theorem readBlock_of_fits (m : Memory size) {a : Int} {count : Nat} (low : 0 ≤ a)
    (fits : a + count ≤ size) :
    (m.readBlock a count).toList = (List.range count).map fun k => m.byteAt (a.toNat + k) := by
  have stop : (a + count).toNat = a.toNat + count := by omega
  rw [readBlock, clamp_of_inside low (by omega), clamp_of_inside (by omega) fits, stop]
  apply List.ext_getElem?
  intro k
  by_cases inside : k < count
  · have far : a.toNat + k < size := by omega
    simp [inside, far, byteAt]
  · have past : count ≤ k := by omega
    have short : (m.bytes.toArray.extract a.toNat (a.toNat + count)).toList.length ≤ k := by
      rw [Array.length_toList, Array.size_extract]
      omega
    rw [List.getElem?_eq_none short, List.getElem?_eq_none (by simpa using past)]

theorem byteAt_overwrite_of_inside (m : Memory size) (start : Nat) (block : List UInt8) {a : Nat}
    (inside : a < size) : (m.overwrite start block).byteAt a =
      (if start ≤ a then block[a - start]? else none).getD (m.byteAt a) := by
  rw [byteAt_eq_getElem _ inside, byteAt_eq_getElem _ inside,
    m.overwrite_get start block ⟨a, inside⟩]
  split
  · exact List.getD_eq_getElem?_getD
  · rfl

theorem byteAt_overwrite (m : Memory size) {start a : Nat} {block : List UInt8}
    (outside : a < start ∨ start + block.length ≤ a) :
    (m.overwrite start block).byteAt a = m.byteAt a := by
  by_cases inside : a < size
  · rw [m.byteAt_overwrite_of_inside start block inside]
    split
    · rw [List.getElem?_eq_none (by omega), Option.getD_none]
    · rfl
  · rw [byteAt, byteAt, Vector.getElem?_eq_none (by omega), Vector.getElem?_eq_none (by omega)]

theorem byteAt_overwrite_add (m : Memory size) {start k : Nat} {block : List UInt8}
    (fits : start + block.length ≤ size) (covered : k < block.length) :
    (m.overwrite start block).byteAt (start + k) = block[k] := by
  rw [m.byteAt_overwrite_of_inside start block (by omega), if_pos (by omega),
    Nat.add_sub_cancel_left, List.getElem?_eq_getElem covered, Option.getD_some]

end Memory

end Chip8
