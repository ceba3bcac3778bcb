import Chip8.Proofs.Faults

/-! Drawing, told as a set of cells. Which cells a sprite covers depends on two registers and on the
bytes at I alone; a frame that is drawn on is inverted there and nowhere else. -/
namespace Chip8

namespace Frame

theorem lit_foldl_toggle {cells : List Nat} (inside : ∀ c ∈ cells, c < 2048) (f : Frame)
    (i : Nat) : (cells.foldl toggle f).lit i = (f.lit i ^^ decide (cells.count i % 2 = 1)) := by
  induction cells generalizing f with
  | nil => simp
  | cons c rest ih =>
    obtain ⟨first, inside⟩ := List.forall_mem_cons.1 inside
    rw [List.foldl_cons, ih inside, lit_toggle f c i first]
    by_cases same : c = i
    · subst same
      rw [if_pos rfl, List.count_cons_self]
      obtain even | odd := Nat.mod_two_eq_zero_or_one (rest.count c)
      · simp [even, show (rest.count c + 1) % 2 = 1 by omega]
      · simp [odd, show (rest.count c + 1) % 2 = 0 by omega]
    · rw [if_neg same, List.count_cons_of_ne same]

theorem lit_foldl_toggle_of_nodup {cells : List Nat} (inside : ∀ c ∈ cells, c < 2048)
    (apart : cells.Nodup) (f : Frame) (i : Nat) :
    (cells.foldl toggle f).lit i = (f.lit i ^^ decide (i ∈ cells)) := by
  rw [lit_foldl_toggle inside, apart.count]
  split <;> simp [*]

end Frame

namespace State

/-- Whether the sprite at I that an instruction would draw has a set bit there. -/
def SpriteBit (s : State) (ins : Instruction) (row column : Nat) : Prop :=
  row < ins.n ∧ column < 8 ∧
    (s.memory.byteAt (s.i.toNat + row)).toNat.testBit (7 - column) = true

/-- The cell under a pixel of the sprite, which may lie below the screen. -/
def spriteIndex (s : State) (ins : Instruction) (row column : Nat) : Nat :=
  (s.v.byte ins.x).toNat + column + ((s.v.byte ins.y).toNat + row) * 64

/-- What a sprite that lies on the screen has done to the machine. -/
structure Drawn (ins : Instruction) (s t : State) : Prop where
  flips : ∃ cells : List Nat, cells.Nodup ∧ (∀ cell, cell ∈ cells ↔ s.SpriteCell ins cell) ∧
    t.frame = cells.foldl Frame.toggle s.frame
  covered : ∀ cell, s.SpriteCell ins cell → t.frame.lit cell = !s.frame.lit cell
  uncovered : ∀ cell, ¬ s.SpriteCell ins cell → t.frame.lit cell = s.frame.lit cell
  collided : (∃ cell, s.SpriteCell ins cell ∧ s.frame.lit cell = true) →
    t.v.byte Registers.flag = 1
  clear : (∀ cell, s.SpriteCell ins cell → s.frame.lit cell = false) →
    t.v.byte Registers.flag = 0
  full : t.v.Full
  others : ∀ y, y ≠ Registers.flag → t.v.byte y = s.v.byte y
  redraw : t.redraw = true
  pc : t.pc = (s.pc + 2) % 0x10000
  onward : s.pc < 0xFFFE → t.pc = s.pc + 2
  rest : t = { s with frame := t.frame, v := t.v, redraw := t.redraw, pc := t.pc }

variable {s : State} {ins : Instruction}

theorem spriteCell_iff (cell : Nat) :
    s.SpriteCell ins cell ↔
      ∃ row column, s.SpriteBit ins row column ∧ cell = s.spriteIndex ins row column := by
  simp only [SpriteCell, SpriteBit, spriteIndex, and_assoc]

theorem spriteIndex_injective {row column row' column' : Nat} (one : s.SpriteBit ins row column)
    (other : s.SpriteBit ins row' column')
    (same : s.spriteIndex ins row column = s.spriteIndex ins row' column') :
    row = row' ∧ column = column' := by
  have narrow := one.2.1
  have narrow' := other.2.1
  unfold spriteIndex at same
  omega

theorem nodup_cellsOf (s : State) (ins : Instruction) : (s.cellsOf ins).Nodup :=
  (Sprite.ascending_cells _ _).imp fun before => Nat.ne_of_lt before

theorem effect_draw (drawing : ins.operation = .draw) (drawn : Int) :
    { s.effect ins drawn with opcode := s.opcode } =
      { s with
        frame := (s.cellsOf ins).foldl Frame.toggle s.frame
        v := s.v.raise ((s.cellsOf ins).any s.frame.lit)
        redraw := true, pc := (s.pc + 2) % 0x10000 } := by
  simp [effect, memoryAfter, registersAfter, indexAfter, stackAfter, spAfter, delayAfter,
    soundAfter, frameAfter, redrawAfter, target, skips, drawing]

theorem refusal?_draw (drawing : ins.operation = .draw) (fits : s.i + ins.n ≤ 0x1000) :
    s.refusal? ins = ((s.cellsOf ins).find? (2048 ≤ ·)).map .spriteOutside := by
  have allowed : s.blockRefusal? ins.n = none := by rw [blockRefusal?, if_neg (by omega)]
  simp only [refusal?, drawing, spriteRefusal?, allowed, Option.none_or]

section WellFormed

variable (whole : s.WellFormed) (drawing : ins.operation = .draw) (fits : s.i + ins.n ≤ 0x1000)
include whole drawing fits

theorem WellFormed.draw_refused {row column : Nat} (bit : s.SpriteBit ins row column)
    (below : 2048 ≤ s.spriteIndex ins row column) :
    ∃ row column, s.SpriteBit ins row column ∧ 2048 ≤ s.spriteIndex ins row column ∧
      (∀ row' column', s.SpriteBit ins row' column' → 2048 ≤ s.spriteIndex ins row' column' →
        s.spriteIndex ins row column ≤ s.spriteIndex ins row' column') ∧
      s.refusal? ins = some (.spriteOutside (s.spriteIndex ins row column)) := by
  cases found : (s.cellsOf ins).find? (2048 ≤ ·) with
  | none =>
    have member : s.spriteIndex ins row column ∈ s.cellsOf ins :=
      (mem_cellsOf whole fits _).2 ((spriteCell_iff _).2 ⟨row, column, bit, rfl⟩)
    have above := List.find?_eq_none.1 found _ member
    exact absurd (decide_eq_true below) above
  | some cell =>
    obtain ⟨covered, under, least⟩ := (find?_cellsOf_eq_some_iff whole fits cell).1 found
    obtain ⟨first, second, set, rfl⟩ := (spriteCell_iff cell).1 covered
    refine ⟨first, second, set, under, fun row' column' bit' under' => ?_, ?_⟩
    · exact least _ ((spriteCell_iff _).2 ⟨row', column', bit', rfl⟩) under'
    · rw [refusal?_draw drawing fits, found, Option.map_some]

omit drawing in
theorem WellFormed.cells_on_screen
    (inside : ∀ row column, s.SpriteBit ins row column → s.spriteIndex ins row column < 2048) :
    ∀ cell ∈ s.cellsOf ins, cell < 2048 := by
  intro cell member
  obtain ⟨row, column, bit, rfl⟩ := (spriteCell_iff cell).1 ((mem_cellsOf whole fits cell).1 member)
  exact inside row column bit

theorem WellFormed.drawn_effect (small : ∀ cell ∈ s.cellsOf ins, cell < 2048)
    (drawn : Int) : Drawn ins s { s.effect ins drawn with opcode := s.opcode } := by
  have cells := mem_cellsOf whole fits
  have apart := s.nodup_cellsOf ins
  have low := whole.pc_nonneg
  rw [effect_draw drawing]
  refine ⟨⟨_, apart, cells, rfl⟩, fun cell covered => ?_, fun cell uncovered => ?_,
    fun ⟨cell, covered, lit⟩ => ?_, fun dark => ?_, whole.full.raised _, fun y other => ?_,
    rfl, rfl, fun below => ?_, rfl⟩
  -- a cell comes once in the list, so toggling along it inverts its members and nothing else
  · rw [Frame.lit_foldl_toggle_of_nodup small apart, decide_eq_true ((cells cell).2 covered),
      Bool.xor_true]
  · rw [Frame.lit_foldl_toggle_of_nodup small apart, decide_eq_false (mt (cells cell).1 uncovered),
      Bool.xor_false]
  · have hit : (s.cellsOf ins).any s.frame.lit = true :=
      List.any_eq_true.2 ⟨cell, (cells cell).2 covered, lit⟩
    rw [hit, Registers.raise, Registers.byte_put whole.full, if_pos rfl, if_pos rfl]
  · have missed : (s.cellsOf ins).any s.frame.lit = false :=
      List.any_eq_false.2 fun cell member => by simp [dark cell ((cells cell).1 member)]
    rw [missed, Registers.raise, Registers.byte_put whole.full, if_pos rfl]
    rfl
  · rw [Registers.raise, Registers.byte_put whole.full, if_neg other.symm]
  · show (s.pc + 2) % 0x10000 = s.pc + 2
    omega

variable {ρ : Type} [RandomSource ρ]

/-- A sprite of which a set bit lies below the screen is refused, and the least such cell named.
Every other one is drawn: its pixels lie on cells of their own, which are inverted once each, and
VF tells whether one of them was lit. -/
theorem WellFormed.draw_inverts_sprite (r : ρ) :
    ((∃ row column, s.SpriteBit ins row column ∧ 2048 ≤ s.spriteIndex ins row column) →
      ∃ row column, s.SpriteBit ins row column ∧ 2048 ≤ s.spriteIndex ins row column ∧
        (∀ row' column', s.SpriteBit ins row' column' → 2048 ≤ s.spriteIndex ins row' column' →
          s.spriteIndex ins row column ≤ s.spriteIndex ins row' column') ∧
        perform ins s r = (.error (.spriteOutside (s.spriteIndex ins row column)) s, r)) ∧
    ((∀ row column, s.SpriteBit ins row column → s.spriteIndex ins row column < 2048) →
      (∀ row column row' column', s.SpriteBit ins row column → s.SpriteBit ins row' column' →
        s.spriteIndex ins row column = s.spriteIndex ins row' column' →
          row = row' ∧ column = column') ∧
      ∃ t, perform ins s r = (.ok () t, r) ∧ Drawn ins s t) := by
  constructor
  · rintro ⟨row, column, bit, below⟩
    obtain ⟨row, column, bit, below, least, refused⟩ :=
      whole.draw_refused drawing fits bit below
    refine ⟨row, column, bit, below, least, ?_⟩
    rw [perform_eq whole, refused]
  · intro inside
    have small := whole.cells_on_screen fits inside
    have allowed : s.refusal? ins = none := by
      rw [refusal?_draw drawing fits, Option.map_eq_none_iff, List.find?_eq_none]
      intro cell member
      simpa using small cell member
    refine ⟨fun _ _ _ _ => spriteIndex_injective, _, ?_, whole.drawn_effect drawing fits small 0⟩
    simp only [perform_eq whole, allowed, drawFor, drawing]

end WellFormed

def edge : State :=
  { initial with
    v := .ofList (62 :: 3 :: List.replicate 14 0), frame := Frame.dark.toggle 254 }

theorem edge_spills : edge.WellFormed ∧
    ∃ t, perform ⟨.draw, 0xD015⟩ edge (Script.ofArray #[]) = (.ok () t, Script.ofArray #[]) ∧
      t.frame.lit 254 = false ∧ t.frame.lit 256 = true ∧ t.v.byte Registers.flag = 1 := by
  have whole : edge.WellFormed := by
    constructor
    · rfl
    all_goals decide
  have right : (edge.v.byte (Instruction.mk .draw 0xD015).x).toNat = 62 := by decide
  have down : (edge.v.byte (Instruction.mk .draw 0xD015).y).toNat = 3 := by decide
  have lit (column : Nat) (bit : edge.SpriteBit ⟨.draw, 0xD015⟩ 0 column) :
      edge.SpriteCell ⟨.draw, 0xD015⟩ (254 + column) :=
    (spriteCell_iff _).2 ⟨0, column, bit, by rw [spriteIndex, right, down]; omega⟩
  have first := lit 0 ⟨by decide, by decide, by decide +kernel⟩
  have second := lit 2 ⟨by decide, by decide, by decide +kernel⟩
  have drawing : (Instruction.mk .draw 0xD015).operation = .draw := rfl
  obtain ⟨_, draws⟩ := whole.draw_inverts_sprite drawing (by decide) (Script.ofArray #[])
  obtain ⟨_, t, done, drawn⟩ := draws fun row column bit => by
    have short : row < 5 := bit.1
    have narrow := bit.2.1
    rw [spriteIndex, right, down]
    omega
  refine ⟨whole, t, done, ?_, ?_, drawn.collided ⟨254, first, by decide +kernel⟩⟩
  · rw [drawn.covered 254 first]
    decide +kernel
  · rw [drawn.covered 256 second]
    decide +kernel

end State

end Chip8
