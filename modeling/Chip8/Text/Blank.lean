import Chip8.Text.CodePoints

/-! White space over the whole of Unicode: separators and the controls that separate. -/
namespace Chip8.Blank

def points : List Nat :=
  [0x9, 0xA, 0xB, 0xC, 0xD, 0x1C, 0x1D, 0x1E, 0x1F, 0x20, 0x85, 0xA0, 0x1680, 0x2000, 0x2001,
   0x2002, 0x2003, 0x2004, 0x2005, 0x2006, 0x2007, 0x2008, 0x2009, 0x200A, 0x2028, 0x2029,
   0x202F, 0x205F, 0x3000]

def isBlank (point : Nat) : Bool := points.contains point

def trim (t : CodePoints) : CodePoints :=
  ((t.dropWhile isBlank).reverse.dropWhile isBlank).reverse

section Surroundings

variable {α : Type} {blank : α → Bool} {before core after : List α}

theorem dropWhile_of_solid (solid : ∀ a ∈ core, blank a = false) : core.dropWhile blank = core := by
  cases core with
  | nil => rfl
  | cons c rest => exact List.dropWhile_cons_of_neg (by simp [solid c List.mem_cons_self])

theorem trim_surrounded
    (blanks : ∀ a ∈ before ++ after, blank a = true) (solid : ∀ a ∈ core, blank a = false) :
    (((before ++ core ++ after).dropWhile blank).reverse.dropWhile blank).reverse = core := by
  obtain ⟨front, behind⟩ := List.forall_mem_append.1 blanks
  have rear : ∀ a ∈ after.reverse, blank a = true := fun a member =>
    behind a (List.mem_reverse.1 member)
  rw [List.append_assoc, List.dropWhile_append_of_pos front]
  cases core with
  | nil =>
    have none : (after ++ []).dropWhile blank = [] := List.dropWhile_append_of_pos behind
    rw [List.append_nil] at none
    rw [List.nil_append, none]
    rfl
  | cons c rest =>
    have stops : ((c :: rest) ++ after).dropWhile blank = (c :: rest) ++ after :=
      List.dropWhile_cons_of_neg (by simp [solid c List.mem_cons_self])
    rw [stops, List.reverse_append, List.dropWhile_append_of_pos rear,
      dropWhile_of_solid fun a member => solid a (List.mem_reverse.1 member), List.reverse_reverse]

end Surroundings

end Chip8.Blank
