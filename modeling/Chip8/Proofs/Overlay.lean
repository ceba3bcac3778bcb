import Chip8.Proofs.Drawing
import Chip8.Proofs.History

/-! Sprites laid over each other. A draw inverts the cells that its sprite covers, so of any number
of draws nothing but the parity counts with which they cover a cell. The order in which they come
does not matter, nor what is executed between them, as long as the screen is not cleared. -/
namespace Chip8

/-- What a draw lays over the frame: the position that two registers give, and the bytes at I. -/
structure Sprite where
  x : UInt8
  y : UInt8
  rows : List UInt8
deriving DecidableEq

namespace Sprite

/-- Whether there is a set bit over the cell, which may lie below the screen. -/
def Covers (p : Sprite) (cell : Nat) : Prop :=
  ∃ row bits column, p.rows[row]? = some bits ∧ column < 8 ∧
    bits.toNat.testBit (7 - column) = true ∧
    cell = p.x.toNat + column + (p.y.toNat + row) * 64

def covered (p : Sprite) : List Nat := cells (p.x.toNat + 64 * p.y.toNat) p.rows

theorem mem_covered (p : Sprite) (cell : Nat) : cell ∈ p.covered ↔ p.Covers cell := by
  rw [covered, mem_cells]
  have same (row column : Nat) : p.x.toNat + 64 * p.y.toNat + 64 * row + column =
      p.x.toNat + column + (p.y.toNat + row) * 64 := by omega
  simp only [same, Covers]

instance (p : Sprite) : DecidablePred p.Covers :=
  fun cell => decidable_of_iff _ (p.mem_covered cell)

end Sprite

namespace Frame

theorem lit_dark (cell : Nat) : dark.lit cell = false := by
  unfold lit
  split
  · exact Vector.getElem_replicate _
  · rfl

theorem eq_of_lit {f g : Frame} (same : ∀ cell < 2048, f.lit cell = g.lit cell) : f = g := by
  obtain ⟨f⟩ := f
  obtain ⟨g⟩ := g
  congr 1
  refine Vector.ext fun cell inside => ?_
  have here := same cell inside
  simpa only [lit, dif_pos inside] using here

end Frame

namespace State

variable {s : State} {ins : Instruction}

def sprite (ins : Instruction) (s : State) : Sprite :=
  ⟨s.v.byte ins.x, s.v.byte ins.y, s.readAtIndex ins.n⟩

theorem cellsOf_eq (ins : Instruction) (s : State) : s.cellsOf ins = (s.sprite ins).covered := rfl

theorem refusal?_draw_eq_none_iff (drawing : ins.operation = .draw) : s.refusal? ins = none ↔
    s.i + ins.n ≤ 0x1000 ∧ ∀ cell ∈ (s.sprite ins).covered, cell < 2048 := by
  simp only [refusal?, drawing, spriteRefusal?, cellsOf_eq, blockRefusal?, Option.or_eq_none_iff,
    Option.map_eq_none_iff, List.find?_eq_none, decide_eq_true_eq, Nat.not_le, ite_eq_right_iff,
    reduceCtorEq, imp_false, Int.not_lt]

theorem lit_frameAfter_draw (drawing : ins.operation = .draw) (allowed : s.refusal? ins = none)
    (cell : Nat) : (s.frameAfter ins).lit cell =
      (s.frame.lit cell ^^ decide ((s.sprite ins).Covers cell)) := by
  have drawn : s.frameAfter ins = (s.sprite ins).covered.foldl Frame.toggle s.frame := by
    rw [frameAfter, drawing, cellsOf_eq]
  have inside := ((refusal?_draw_eq_none_iff drawing).1 allowed).2
  rw [drawn, Frame.lit_foldl_toggle_of_nodup inside (s.nodup_cellsOf ins),
    decide_eq_decide.2 ((s.sprite ins).mem_covered cell)]

end State

namespace Completion

/-- The sprite that a completed draw has laid over the frame. -/
def sprite? (c : Completion) : Option Sprite :=
  if c.instruction.operation = .draw then some (c.before.sprite c.instruction) else none

def overlay (cell : Nat) (lit : Bool) (c : Completion) : Bool :=
  match c.instruction.operation with
  | .clear => false
  | .draw => lit ^^ decide ((c.before.sprite c.instruction).Covers cell)
  | _ => lit

theorem overlay_of_unclear {c : Completion} (unclear : c.instruction.operation ≠ .clear)
    (cell : Nat) (lit : Bool) :
    c.overlay cell lit = (lit ^^ c.sprite?.any fun p => decide (p.Covers cell)) := by
  unfold overlay sprite?
  split
  · next clears => exact absurd clears unclear
  · next draws => rw [if_pos draws, Option.any_some]
  · next other => rw [if_neg other, Option.any_none, Bool.xor_false]

theorem foldl_overlay {past : List Completion}
    (unclear : ∀ c ∈ past, c.instruction.operation ≠ .clear) (cell : Nat) (lit : Bool) :
    (past.foldl (overlay cell) lit).toNat =
      (lit.toNat + (past.filterMap sprite?).countP fun p => decide (p.Covers cell)) % 2 := by
  induction past generalizing lit with
  | nil => cases lit <;> rfl
  | cons c rest ih =>
    obtain ⟨first, unclear⟩ := List.forall_mem_cons.1 unclear
    rw [List.foldl_cons, ih unclear, overlay_of_unclear first]
    cases drawn : c.sprite? with
    | none => rw [List.filterMap_cons_none drawn, Option.any_none, Bool.xor_false]
    | some p =>
      rw [List.filterMap_cons_some drawn, List.countP_cons, Option.any_some]
      generalize List.countP _ _ = n
      cases lit <;> cases decide (p.Covers cell) <;>
        simp only [Bool.xor_true, Bool.xor_false, Bool.not_true, Bool.not_false, Bool.toNat_true,
          Bool.toNat_false, if_true, Bool.false_eq_true, if_false] <;>
        omega

end Completion

theorem recounts_lit (ρ : Type) [RandomSource ρ] (cell : Nat) :
    Recounts ρ (fun s => s.frame.lit cell) (Completion.overlay cell) where
  executed {s t r after ins} whole done := by
    obtain ⟨_, allowed, drawn, _, rfl⟩ := (State.execute_eq_ok_iff whole _ _ _ _).1 done
    obtain ⟨op, word⟩ := ins
    cases op with
    | clear => exact Frame.lit_dark cell
    | draw => exact State.lit_frameAfter_draw rfl allowed cell
    | _ => rfl
  aside _ _ _ _ _ := rfl
  loaded _ := rfl

namespace State

variable {ρ : Type} [RandomSource ρ] {s t : State} {ins : Instruction}

theorem WellFormed.draw_outside_iff (whole : s.WellFormed) (drawing : ins.operation = .draw)
    (r : ρ) : (∃ index, perform ins s r = (.error (.spriteOutside index) s, r)) ↔
      s.i + ins.n ≤ 0x1000 ∧ ∃ cell, 2048 ≤ cell ∧ (s.sprite ins).Covers cell := by
  by_cases fits : s.i + ins.n ≤ 0x1000
  · rw [perform_eq whole, refusal?_draw drawing fits, cellsOf_eq, and_iff_right fits]
    cases found : (s.sprite ins).covered.find? (2048 ≤ ·) with
    | none =>
      refine iff_of_false ?_ ?_
      · rintro ⟨index, failed⟩
        simp [drawFor, drawing] at failed
      · rintro ⟨cell, below, covers⟩
        have inside := List.find?_eq_none.1 found cell (((s.sprite ins).mem_covered cell).2 covers)
        exact inside (decide_eq_true below)
    | some cell =>
      refine iff_of_true ⟨cell, rfl⟩ ⟨cell, ?_, ?_⟩
      · simpa using List.find?_some found
      · exact ((s.sprite ins).mem_covered cell).1 (List.mem_of_find?_eq_some found)
  · have refused : s.refusal? ins = some (.pastEnd ins.n s.i) := by
      simp only [refusal?, drawing, spriteRefusal?, blockRefusal?]
      rw [if_pos (by omega), Option.some_or]
    rw [perform_eq whole, refused]
    refine iff_of_false ?_ fun inside => fits inside.1
    rintro ⟨index, failed⟩
    cases failed

theorem WellFormed.perform_draw_eq_ok_iff (whole : s.WellFormed) (drawing : ins.operation = .draw)
    (r after : ρ) : perform ins s r = (.ok () t, after) ↔
      s.refusal? ins = none ∧ after = r ∧ t = { s with
        frame := s.frameAfter ins
        v := s.v.raise ((s.sprite ins).covered.any s.frame.lit)
        redraw := true, pc := (s.pc + 2) % 0x10000 } := by
  have frame : (s.cellsOf ins).foldl Frame.toggle s.frame = s.frameAfter ins := by
    rw [frameAfter, drawing]
  have effect := effect_draw (s := s) drawing 0
  rw [frame] at effect
  rw [perform_eq whole]
  cases s.refusal? ins with
  | some fault => simp
  | none => simp [drawFor, drawing, effect, cellsOf_eq, eq_comm, and_comm]

theorem WellFormed.draw_twice (whole : s.WellFormed) (drawing : ins.operation = .draw) {r after : ρ}
    (done : perform ins s r = (.ok () t, after)) {u : State} {again : Instruction}
    (whole' : u.WellFormed) (frame : u.frame = t.frame) (drawing' : again.operation = .draw)
    (fits' : u.i + again.n ≤ 0x1000) (same : u.sprite again = s.sprite ins) (q : ρ) :
    ∃ w, perform again u q = (.ok () w, q) ∧ w.frame = s.frame ∧
      (w.v.byte Registers.flag = 1 ↔
        ∃ cell, (s.sprite ins).Covers cell ∧ s.frame.lit cell = false) := by
  obtain ⟨allowed, _, rfl⟩ := (whole.perform_draw_eq_ok_iff drawing _ _).1 done
  have inside := ((refusal?_draw_eq_none_iff drawing).1 allowed).2
  have allowed' : u.refusal? again = none :=
    (refusal?_draw_eq_none_iff drawing').2 ⟨fits', by rw [same]; exact inside⟩
  have inverted (cell : Nat) : u.frame.lit cell =
      (s.frame.lit cell ^^ decide ((s.sprite ins).Covers cell)) := by
    rw [frame]
    exact lit_frameAfter_draw drawing allowed cell
  refine ⟨_, (whole'.perform_draw_eq_ok_iff drawing' _ _).2 ⟨allowed', rfl, rfl⟩, ?_, ?_⟩
  · refine Frame.eq_of_lit fun cell _ => ?_
    have restored := lit_frameAfter_draw drawing' allowed' cell
    rw [inverted, same, Bool.xor_assoc, Bool.xor_self, Bool.xor_false] at restored
    exact restored
  · have collides : (s.sprite ins).covered.any u.frame.lit = true ↔
        ∃ cell, (s.sprite ins).Covers cell ∧ s.frame.lit cell = false := by
      rw [List.any_eq_true]
      refine exists_congr fun cell => ?_
      rw [Sprite.mem_covered]
      refine and_congr_right fun covers => ?_
      rw [inverted, decide_eq_true covers, Bool.xor_true, Bool.not_eq_true']
    dsimp only
    rw [Registers.raise, Registers.byte_put whole'.full, if_pos rfl, same, ← collides]
    cases (s.sprite ins).covered.any u.frame.lit <;> decide

end State

namespace Deed

variable {ρ κ ε : Type} [RandomSource ρ]

def drawn (deeds : List (Deed κ ε)) (m : Session ρ κ) : List Sprite :=
  (past deeds m).filterMap Completion.sprite?

theorem lit_all {deeds : List (Deed κ ε)} {m : Session ρ κ} (whole : m.state.WellFormed)
    (unclear : ∀ c ∈ past deeds m, c.instruction.operation ≠ .clear) (cell : Nat) :
    ((all deeds m).state.frame.lit cell).toNat = ((m.state.frame.lit cell).toNat +
      (drawn deeds m).countP fun p => decide (p.Covers cell)) % 2 := by
  rw [(recounts_lit ρ cell).all deeds whole, Completion.foldl_overlay unclear, drawn]

variable {ρ' κ' ε' : Type} [RandomSource ρ']

/-- Draws commute, and cancel in pairs. Two sessions that begin with the same frame and draw the
same sprites, however ordered and whatever they do besides, end with the same frame. -/
theorem draws_commute {deeds : List (Deed κ ε)} {deeds' : List (Deed κ' ε')} {m : Session ρ κ}
    {m' : Session ρ' κ'} (whole : m.state.WellFormed) (whole' : m'.state.WellFormed)
    (same : m'.state.frame = m.state.frame)
    (unclear : ∀ c ∈ past deeds m, c.instruction.operation ≠ .clear)
    (unclear' : ∀ c ∈ past deeds' m', c.instruction.operation ≠ .clear) :
    ((drawn deeds' m').Perm (drawn deeds m) →
      (all deeds' m').state.frame = (all deeds m).state.frame) ∧
    (∀ cell, ((all deeds m).state.frame.lit cell).toNat = ((m.state.frame.lit cell).toNat +
      (drawn deeds m).countP fun p => decide (p.Covers cell)) % 2) ∧
    (∀ p, (drawn deeds m).count p % 2 = 0 →
      ∀ cell, ((all deeds m).state.frame.lit cell).toNat = ((m.state.frame.lit cell).toNat +
        ((drawn deeds m).filter (· ≠ p)).countP fun p => decide (p.Covers cell)) % 2) ∧
    (∀ (s t u : State) (ins again : Instruction) (r after q : ρ), s.WellFormed →
      ins.operation = .draw → State.perform ins s r = (.ok () t, after) →
      u.WellFormed → u.frame = t.frame → again.operation = .draw → u.i + again.n ≤ 0x1000 →
      u.sprite again = s.sprite ins →
        ∃ w, State.perform again u q = (.ok () w, q) ∧ w.frame = s.frame ∧
          (w.v.byte Registers.flag = 1 ↔
            ∃ cell, (s.sprite ins).Covers cell ∧ s.frame.lit cell = false)) ∧
    ∀ (s : State) (ins : Instruction) (r : ρ), s.WellFormed → ins.operation = .draw →
      ((∃ index, State.perform ins s r = (.error (.spriteOutside index) s, r)) ↔
        s.i + ins.n ≤ 0x1000 ∧ ∃ cell, 2048 ≤ cell ∧ (s.sprite ins).Covers cell) := by
  refine ⟨fun reordered => ?_, lit_all whole unclear, fun p even cell => ?_, ?_, ?_⟩
  · refine Frame.eq_of_lit fun cell _ => ?_
    have ours := lit_all whole unclear cell
    have theirs := lit_all whole' unclear' cell
    rw [same, reordered.countP_eq, ← ours] at theirs
    generalize (all deeds' m').state.frame.lit cell = theirs' at theirs ⊢
    generalize (all deeds m).state.frame.lit cell = ours' at theirs ⊢
    cases theirs' <;> cases ours' <;> first | rfl | cases theirs
  · have parts := List.countP_eq_countP_filter_add (drawn deeds m)
      (fun p => decide (p.Covers cell)) (· ≠ p)
    have own : (fun q => !decide (q ≠ p)) = (· == p) := by
      funext q
      rw [decide_not, Bool.not_not]
      rfl
    -- an even number of copies covers a cell an even number of times or never
    rw [own, List.filter_beq, List.countP_replicate] at parts
    rw [lit_all whole unclear, parts]
    split at parts <;> split <;> omega
  · exact fun s t u ins again r after q whole drawing done whole' frame drawing' fits' same =>
      whole.draw_twice drawing done whole' frame drawing' fits' same q
  · exact fun s ins r whole drawing => whole.draw_outside_iff drawing r

def powered : Session Script Unit := .start (Script.ofArray #[]) ()

def executing (image : List UInt8) (count : Nat) : List (Deed Unit Empty) :=
  .loadImage image [] :: List.replicate count .execute

theorem rows_over_glyph_or_under :
    (all (executing [0xD0, 0x03, 0xD0, 0x05] 2) powered).state.frame =
      (all (executing [0xD0, 0x05, 0xD0, 0x03] 2) powered).state.frame := by
  have whole : powered.state.WellFormed := State.sound_initial.toWellFormed
  obtain ⟨unclear, unclear', reordered⟩ :
      (∀ c ∈ past (executing [0xD0, 0x05, 0xD0, 0x03] 2) powered,
        c.instruction.operation ≠ .clear) ∧
      (∀ c ∈ past (executing [0xD0, 0x03, 0xD0, 0x05] 2) powered,
        c.instruction.operation ≠ .clear) ∧
      (drawn (executing [0xD0, 0x03, 0xD0, 0x05] 2) powered).Perm
        (drawn (executing [0xD0, 0x05, 0xD0, 0x03] 2) powered) := by
    decide +kernel
  exact (draws_commute whole whole rfl unclear unclear').1 reordered

theorem third_draw_misses :
    let zero : Sprite := ⟨0, 0, [0xF0, 0x90, 0x90, 0x90, 0xF0]⟩
    let redrawing := executing [0xD0, 0x05, 0xD0, 0x05, 0xD0, 0x05] 3
    (past redrawing powered).length = 3 ∧ drawn redrawing powered = [zero, zero, zero] ∧
      ¬ ((all redrawing powered).state.v.byte Registers.flag = 1 ↔ ∃ cell, zero.Covers cell) := by
  intro zero redrawing
  obtain ⟨length, same, covers, unflagged⟩ :
      (past redrawing powered).length = 3 ∧ drawn redrawing powered = [zero, zero, zero] ∧
        zero.Covers 0 ∧ (all redrawing powered).state.v.byte Registers.flag ≠ 1 := by
    decide +kernel
  exact ⟨length, same, fun claimed => unflagged (claimed.2 ⟨0, covers⟩)⟩

end Deed

end Chip8
