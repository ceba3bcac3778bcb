import Chip8.Execute

/-! The cells of a sprite. They come in ascending order, whatever the rows, so the first of them
that lies below the screen is the least one that does. -/
namespace Chip8

theorem find?_eq_some_iff_least {p : Nat → Bool} {l : List Nat} (ascending : l.Pairwise (· < ·))
    (a : Nat) : l.find? p = some a ↔ a ∈ l ∧ p a = true ∧ ∀ b ∈ l, p b = true → a ≤ b := by
  induction l with
  | nil => simp
  | cons c l ih =>
    obtain ⟨least, ascending⟩ := List.pairwise_cons.1 ascending
    cases found : p c with
    | true =>
      rw [List.find?_cons_of_pos found]
      constructor
      · rintro ⟨⟩
        refine ⟨List.mem_cons_self, found, fun b member _ => ?_⟩
        obtain rfl | later := List.mem_cons.1 member
        · exact Nat.le_refl _
        · exact Nat.le_of_lt (least b later)
      · rintro ⟨member, _, below⟩
        obtain rfl | later := List.mem_cons.1 member
        · rfl
        · have above := least a later
          have under := below c List.mem_cons_self found
          omega
    | false =>
      rw [List.find?_cons_of_neg (by simp [found]), ih ascending]
      have other (b : Nat) (kind : p b = true) : b ≠ c := by
        rintro rfl
        rw [found] at kind
        cases kind
      constructor
      · rintro ⟨member, kind, below⟩
        refine ⟨List.mem_cons_of_mem _ member, kind, fun b inside kind' => ?_⟩
        exact below b ((List.mem_cons.1 inside).resolve_left (other b kind')) kind'
      · rintro ⟨member, kind, below⟩
        refine ⟨(List.mem_cons.1 member).resolve_left (other a kind), kind, fun b inside => ?_⟩
        exact below b (List.mem_cons_of_mem _ inside)

namespace Sprite

theorem mem_rowCells (base : Nat) (bits : UInt8) (cell : Nat) :
    cell ∈ rowCells base bits ↔
      ∃ column, column < 8 ∧ bits.toNat.testBit (7 - column) = true ∧ cell = base + column := by
  simp only [rowCells, List.mem_map, List.mem_filter, List.mem_range, and_assoc, @eq_comm _ cell]

theorem mem_cells (base : Nat) (rows : List UInt8) (cell : Nat) :
    cell ∈ cells base rows ↔
      ∃ row bits column, rows[row]? = some bits ∧ column < 8 ∧
        bits.toNat.testBit (7 - column) = true ∧ cell = base + 64 * row + column := by
  induction rows generalizing base with
  | nil => simp [cells]
  | cons first rest ih =>
    rw [cells, List.mem_append, mem_rowCells, ih]
    constructor
    · rintro (⟨column, narrow, lit, rfl⟩ | ⟨row, bits, column, inside, narrow, lit, rfl⟩)
      · exact ⟨0, first, column, rfl, narrow, lit, rfl⟩
      · exact ⟨row + 1, bits, column, inside, narrow, lit, by omega⟩
    · rintro ⟨row, bits, column, inside, narrow, lit, rfl⟩
      cases row with
      | zero =>
        cases inside
        exact .inl ⟨column, narrow, lit, by omega⟩
      | succ row => exact .inr ⟨row, bits, column, inside, narrow, lit, by omega⟩

theorem ascending_rowCells (base : Nat) (bits : UInt8) :
    (rowCells base bits).Pairwise (· < ·) := by
  refine List.Pairwise.map _ (fun a b before => ?_) (List.pairwise_lt_range.filter _)
  omega

theorem ascending_cells (base : Nat) (rows : List UInt8) :
    (cells base rows).Pairwise (· < ·) := by
  induction rows generalizing base with
  | nil => exact .nil
  | cons first rest ih =>
    refine List.pairwise_append.2 ⟨ascending_rowCells base first, ih _, fun a here b below => ?_⟩
    obtain ⟨column, narrow, _, rfl⟩ := (mem_rowCells _ _ _).1 here
    obtain ⟨row, bits, column', _, _, _, rfl⟩ := (mem_cells _ _ _).1 below
    omega

end Sprite

namespace Frame

theorem lit_toggle_of_ne (f : Frame) {i j : Nat} (apart : i ≠ j) :
    (f.toggle i).lit j = f.lit j := by
  by_cases inside : i < 2048
  · rw [lit_toggle f i j inside, if_neg apart]
  · rw [toggle, dif_neg inside]

theorem foldl_plot {cells : List Nat} (apart : cells.Nodup) (f : Frame) (hit : Bool) :
    cells.foldl plot (f, hit) = (cells.foldl toggle f, hit || cells.any f.lit) := by
  induction cells generalizing f hit with
  | nil => simp
  | cons c rest ih =>
    obtain ⟨fresh, apart⟩ := List.nodup_cons.1 apart
    have unseen : rest.any (f.toggle c).lit = rest.any f.lit := by
      rw [Bool.eq_iff_iff, List.any_eq_true, List.any_eq_true]
      refine exists_congr fun i => and_congr_right fun later => ?_
      have other : c ≠ i := by
        rintro rfl
        exact fresh later
      rw [lit_toggle_of_ne f other]
    rw [List.foldl_cons, List.foldl_cons, List.any_cons, plot, ih apart, unseen, Bool.or_assoc]

end Frame

end Chip8
