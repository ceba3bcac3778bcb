import Chip8.Display
import Chip8.State
import Mathlib.Data.List.Nodup

/-! One raster seen three ways: as a surface on which a square is filled for every lit cell, as a
table of colors and as a text. The squares cover just the pixels that magnify lit cells, so all
three show the same cells, at every scale. -/
namespace Chip8

structure Area where
  left : Int
  top : Int
  width : Int
  height : Int

namespace Area

instance : Membership (Int × Int) Area where
  mem a p := (a.left ≤ p.1 ∧ p.1 < a.left + a.width) ∧ a.top ≤ p.2 ∧ p.2 < a.top + a.height

instance (a : Area) (p : Int × Int) : Decidable (p ∈ a) :=
  inferInstanceAs (Decidable
    ((a.left ≤ p.1 ∧ p.1 < a.left + a.width) ∧ a.top ≤ p.2 ∧ p.2 < a.top + a.height))

def Apart (a b : Area) : Prop := ∀ p ∈ a, p ∉ b

/-- Where the magnified cell `i` lies. -/
def square (scale : Int) (i : Nat) : Area :=
  ⟨(i % 64 : Nat) * scale, (i / 64 : Nat) * scale, scale, scale⟩

theorem mem_square {scale : Int} (positive : 0 < scale) (i : Nat) (p : Int × Int) :
    p ∈ square scale i ↔ p.1 / scale = (i % 64 : Nat) ∧ p.2 / scale = (i / 64 : Nat) := by
  have axis (a c : Int) : c * scale ≤ a ∧ a < c * scale + scale ↔ a / scale = c := by
    have next : c * scale + scale = (c + 1) * scale := by rw [Int.add_mul, Int.one_mul]
    rw [next, ← Int.le_ediv_iff_mul_le positive, ← Int.ediv_lt_iff_lt_mul positive]
    omega
  exact and_congr (axis _ _) (axis _ _)

theorem square_apart {scale : Int} (positive : 0 < scale) {i j : Nat} (different : i ≠ j) :
    Apart (square scale i) (square scale j) := by
  intro p one other
  rw [mem_square positive] at one other
  omega

theorem square_inside {scale : Int} (positive : 0 < scale) {i : Nat} (inside : i < 2048)
    {p : Int × Int} (member : p ∈ square scale i) :
    (0 ≤ p.1 ∧ p.1 < 64 * scale) ∧ 0 ≤ p.2 ∧ p.2 < 32 * scale := by
  obtain ⟨column, row⟩ := (mem_square positive i p).1 member
  have above (a : Int) : 0 ≤ a / scale → 0 ≤ a := (Int.ediv_nonneg_iff_of_pos positive).1
  have below (a bound : Int) : a / scale < bound → a < bound * scale :=
    (Int.ediv_lt_iff_lt_mul positive).1
  refine ⟨⟨above _ ?_, below _ _ ?_⟩, above _ ?_, below _ _ ?_⟩ <;> omega

end Area

def Request.area? : Request → Option Area
  | .fillRect _ left top width height => some ⟨left, top, width, height⟩
  | _ => none

/-- A surface with what has been painted on it. -/
structure Canvas where
  width : Int
  height : Int
  color : Int × Int → Int

namespace Canvas

/-- What a request does to the surface that was made last. A filling covers the whole of it or one
rectangle. -/
def paint (c : Canvas) : Request → Canvas
  | .surface width height => ⟨width, height, fun _ => Display.black⟩
  | .fill color => { c with color := fun _ => color }
  | .fillRect color left top width height =>
    { c with
      color := fun p => if p ∈ (⟨left, top, width, height⟩ : Area) then color else c.color p }
  | _ => c

def ofRequests (requests : List Request) : Canvas :=
  requests.foldl paint ⟨0, 0, fun _ => Display.black⟩

theorem foldl_squares (color scale : Int) (indices : List Nat) (c : Canvas) :
    let painted := (indices.map fun (i : Nat) =>
      Request.fillRect color ((i % 64 : Nat) * scale) ((i / 64 : Nat) * scale) scale scale).foldl
      paint c
    painted.width = c.width ∧ painted.height = c.height ∧
      ∀ p, painted.color p =
        if ∃ i ∈ indices, p ∈ Area.square scale i then color else c.color p := by
  induction indices generalizing c with
  | nil => simp
  | cons i rest ih =>
    obtain ⟨width, height, painted⟩ := ih (c.paint
      (.fillRect color ((i % 64 : Nat) * scale) ((i / 64 : Nat) * scale) scale scale))
    refine ⟨width, height, fun p => ?_⟩
    rw [List.map_cons, List.foldl_cons, painted]
    simp only [paint, List.mem_cons, exists_eq_or_imp]
    by_cases later : ∃ j ∈ rest, p ∈ Area.square scale j
    · simp only [later, if_true, or_true]
    · simp only [later, if_false, or_false]
      rfl

end Canvas

namespace Grid

variable {α : Type} (g : Grid α)

theorem mem_indices (p : α → Bool) (i : Nat) :
    i ∈ g.indices p ↔ ∃ inside : i < 2048, p g.cells[i] = true := by
  simp only [indices, List.mem_map, List.mem_filter, List.mem_finRange, true_and]
  constructor
  · rintro ⟨j, lit, rfl⟩
    exact ⟨j.isLt, lit⟩
  · rintro ⟨inside, lit⟩
    exact ⟨⟨i, inside⟩, lit, rfl⟩

theorem nodup_indices (p : α → Bool) : (g.indices p).Nodup :=
  ((List.nodup_finRange 2048).filter _).map fun _ _ => Fin.ext

theorem length_rows : g.rows.length = 32 := List.length_ofFn

theorem length_of_mem_rows {row : List α} (member : row ∈ g.rows) : row.length = 64 := by
  obtain ⟨y, rfl⟩ := (List.mem_ofFn ..).1 member
  exact List.length_ofFn

def cellAt? {β : Type} (table : List (List β)) (x y : Nat) : Option β := table[y]?.bind (·[x]?)

theorem cellAt?_map_rows {β : Type} (f : α → β) (x : Fin 64) (y : Fin 32) :
    cellAt? (g.rows.map (List.map f)) x y = some (f (g.cell x y)) := by
  have column : ((List.ofFn fun x => g.cell x y).map f)[x.val]? = some (f (g.cell x y)) := by
    rw [List.getElem?_map, List.getElem?_ofFn, dif_pos x.isLt]
    rfl
  have row : (g.rows.map (List.map f))[y.val]? = some ((List.ofFn fun x => g.cell x y).map f) := by
    rw [List.getElem?_map, rows, List.getElem?_ofFn, dif_pos y.isLt]
    rfl
  rw [cellAt?, row]
  exact column

theorem lines_of_marks (lit : α → Bool) (on off : Nat) :
    g.lines lit [on] [off] = g.rows.map (List.map fun value => if lit value then on else off) := by
  refine List.map_congr_left fun row member => ?_
  clear member
  induction row with
  | nil => rfl
  | cons value rest ih =>
    rw [List.flatMap_cons, ih, List.map_cons]
    cases lit value <;> rfl

def newline : Nat := 0x0A

theorem splitOn_text (lit : α → Bool) {on off : Nat} (plain : on ≠ newline ∧ off ≠ newline) :
    (g.text lit [on] [off]).splitOn newline =
      g.rows.map (List.map fun value => if lit value then on else off) := by
  have separator : CodePoints.ofString "\n" = [newline] := by decide
  rw [text, separator, lines_of_marks]
  refine List.splitOn_intercalate newline (fun line member => ?_) ?_
  · obtain ⟨row, _, rfl⟩ := List.mem_map.1 member
    intro feed
    obtain ⟨value, _, mark⟩ := List.mem_map.1 feed
    split at mark
    · exact plain.1 mark
    · exact plain.2 mark
  · rw [Ne, List.map_eq_nil_iff, ← List.length_eq_zero_iff, length_rows]
    decide

end Grid

theorem State.pixelOf_cell {α : Type} (g : Grid α) (x : Fin 64) (y : Fin 32) :
    State.pixelOf g x y = .ok (g.cell x y) := by
  have index : (x.val : Int) + 64 * y.val = ((x.val + 64 * y.val : Nat) : Int) := by push_cast; rfl
  rw [pixelOf, cell?, index, Memory.cell?_of_lt (by omega)]
  rfl

namespace Display

open Grid (cellAt? newline)

variable {d shown : Display} {cells : List Int}

def Taken (cells : List Int) (shown : Display) : Prop :=
  ∀ i (inside : i < 2048), cells[i]? = some (shown.cells.cells[i].toNat : Int)

theorem update_eq_ok (d : Display) (full : cells.length = 2048)
    (bytes : ∀ c ∈ cells, 0 ≤ c ∧ c < 256) :
    ∃ shown, d.update cells = .ok shown ∧ shown.on = d.on ∧ shown.off = d.off ∧
      Taken cells shown := by
  have accepted : Memory.bytes? cells = .ok (cells.map UInt8.ofInt) := by
    rw [Memory.bytes?, if_pos]
    simpa using bytes
  have size : (cells.map UInt8.ofInt).toArray.size = 2048 := by simp [full]
  refine ⟨{ d with cells := ⟨⟨(cells.map UInt8.ofInt).toArray, size⟩⟩, frames := d.frames + 1 },
    ?_, rfl, rfl, fun i inside => ?_⟩
  · simp only [update, accepted, present, Grid.ofArray?, size, dite_true]
  · have inside : i < cells.length := by omega
    have byte := bytes _ (List.getElem_mem inside)
    have value : ((UInt8.ofInt cells[i]).toNat : Int) = cells[i] := by
      rw [Memory.toNat_ofInt]
      omega
    rw [List.getElem?_eq_getElem inside]
    simp [value]

theorem isLit_iff (cell : UInt8) : isLit cell = true ↔ (cell.toNat : Int) ≠ 0 := by
  rw [isLit, bne_iff_ne, ne_eq, ← UInt8.toNat_inj]
  simp

theorem isLit_branch {β : Type} (cell : UInt8) (one other : β) :
    (if isLit cell = true then one else other) = if (cell.toNat : Int) ≠ 0 then one else other := by
  simp only [isLit_iff]

theorem Taken.mem_indices (taken : Taken cells d) (full : cells.length = 2048) (i : Nat) :
    i ∈ d.cells.indices isLit ↔ ∃ c ∈ cells[i]?, c ≠ 0 := by
  rw [d.cells.mem_indices]
  constructor
  · rintro ⟨inside, lit⟩
    exact ⟨_, taken i inside, (isLit_iff _).1 lit⟩
  · rintro ⟨c, here, lit⟩
    have inside : i < 2048 := full ▸ (List.getElem?_eq_some_iff.1 here).1
    rw [taken i inside] at here
    cases here
    exact ⟨inside, (isLit_iff _).2 lit⟩

theorem pixel_of_cell {s : State} {x : Fin 64} {y : Fin 32}
    (same : s.frame.cell x y = isLit (d.cells.cell x y)) :
    s.pixel x y = .ok (decide (((d.cells.cell x y).toNat : Int) ≠ 0)) := by
  rw [State.pixel, State.pixelOf_cell, same]
  refine congrArg Except.ok ?_
  rw [Bool.eq_iff_iff, decide_eq_true_iff]
  exact isLit_iff _

theorem paint_eq (d : Display) (scale : Int) :
    d.paint scale = .surface (64 * scale) (32 * scale) :: .fill d.off ::
      (d.cells.indices isLit).map fun (i : Nat) =>
        .fillRect d.on ((i % 64 : Nat) * scale) ((i / 64 : Nat) * scale) scale scale := rfl

theorem areas_paint (d : Display) (scale : Int) :
    (d.paint scale).filterMap Request.area? =
      (d.cells.indices isLit).map (Area.square scale) := by
  rw [paint_eq, List.filterMap_cons_none rfl, List.filterMap_cons_none rfl, List.filterMap_map,
    ← List.filterMap_eq_map]
  rfl

theorem canvas_paint (d : Display) {scale : Int} (positive : 0 < scale) :
    let canvas := Canvas.ofRequests (d.paint scale)
    canvas.width = 64 * scale ∧ canvas.height = 32 * scale ∧
      ∀ (x : Fin 64) (y : Fin 32) (p : Int × Int), p.1 / scale = x.val → p.2 / scale = y.val →
        canvas.color p = d.color (d.cells.cell x y) := by
  intro canvas
  have begun : canvas = ((d.cells.indices isLit).map fun (i : Nat) =>
      Request.fillRect d.on ((i % 64 : Nat) * scale) ((i / 64 : Nat) * scale) scale scale).foldl
      Canvas.paint ⟨64 * scale, 32 * scale, fun _ => d.off⟩ := by
    simp only [canvas, Canvas.ofRequests, paint_eq, List.foldl_cons, Canvas.paint]
  obtain ⟨width, height, painted⟩ := Canvas.foldl_squares d.on scale (d.cells.indices isLit)
    ⟨64 * scale, 32 * scale, fun _ => d.off⟩
  rw [begun]
  refine ⟨width, height, fun x y p column row => ?_⟩
  rw [painted]
  have covered : (∃ i ∈ d.cells.indices isLit, p ∈ Area.square scale i) ↔
      isLit (d.cells.cell x y) = true := by
    constructor
    · rintro ⟨i, member, here⟩
      obtain ⟨_, lit⟩ := (d.cells.mem_indices isLit i).1 member
      rw [Area.mem_square positive] at here
      obtain rfl : i = x.val + 64 * y.val := by omega
      exact lit
    · intro lit
      refine ⟨x.val + 64 * y.val, (d.cells.mem_indices isLit _).2 ⟨by omega, lit⟩, ?_⟩
      rw [Area.mem_square positive]
      omega
  simp only [covered, Display.color]

theorem pixels_canvas (d : Display) {scale : Int} (positive : 0 < scale) {px py : Int}
    (column : 0 ≤ px ∧ px < 64 * scale) (row : 0 ≤ py ∧ py < 32 * scale) :
    cellAt? d.pixels (px / scale).toNat (py / scale).toNat =
      some ((Canvas.ofRequests (d.paint scale)).color (px, py)) := by
  have within {a bound : Int} (inside : 0 ≤ a ∧ a < bound * scale) :
      0 ≤ a / scale ∧ a / scale < bound :=
    ⟨(Int.ediv_nonneg_iff_of_pos positive).2 inside.1,
      (Int.ediv_lt_iff_lt_mul positive).2 inside.2⟩
  obtain ⟨left, right⟩ := within column
  obtain ⟨top, bottom⟩ := within row
  obtain ⟨_, _, colors⟩ := d.canvas_paint positive
  let x : Fin 64 := ⟨(px / scale).toNat, by omega⟩
  let y : Fin 32 := ⟨(py / scale).toNat, by omega⟩
  rw [colors x y _ (Int.toNat_of_nonneg left).symm (Int.toNat_of_nonneg top).symm]
  exact d.cells.cellAt?_map_rows d.color x y

theorem lit_of_text {other : Display} {on off : Nat} (plain : on ≠ newline ∧ off ≠ newline)
    (different : on ≠ off) (same : other.text [on] [off] = d.text [on] [off]) (x : Fin 64)
    (y : Fin 32) : isLit (other.cells.cell x y) = isLit (d.cells.cell x y) := by
  have marks : cellAt? ((other.cells.text isLit [on] [off]).splitOn newline) x y =
      cellAt? ((d.cells.text isLit [on] [off]).splitOn newline) x y :=
    congrArg (fun t : CodePoints => cellAt? (t.splitOn newline) x y) same
  rw [Grid.splitOn_text _ _ plain, Grid.splitOn_text _ _ plain, Grid.cellAt?_map_rows,
    Grid.cellAt?_map_rows, Option.some_inj] at marks
  cases one : isLit (other.cells.cell x y) <;> cases two : isLit (d.cells.cell x y) <;>
    simp_all

/-- A picture of as many bytes as the raster has cells is taken over, and then the painted surface,
the table of colors, the text and the raster itself show the same cells. -/
theorem renderings_agree (d : Display) {cells : List Int} (full : cells.length = 2048)
    (bytes : ∀ c ∈ cells, 0 ≤ c ∧ c < 256) {scale : Int} (positive : 0 < scale)
    {desktop : Desktop} (available : desktop.available = true) {on off : Nat}
    (plain : on ≠ newline ∧ off ≠ newline) :
    ∃ shown, d.update cells = .ok shown ∧
      (∃ painted, shown.surface scale desktop = .ok painted ∧
        painted.requests.toList = desktop.requests.toList ++ shown.paint scale) ∧
      let canvas := Canvas.ofRequests (shown.paint scale)
      let areas := (shown.paint scale).filterMap Request.area?
      let lines := (shown.text [on] [off]).splitOn newline
      canvas.width = 64 * scale ∧ canvas.height = 32 * scale ∧
      (∀ px py, 0 ≤ px ∧ px < 64 * scale → 0 ≤ py ∧ py < 32 * scale →
        cellAt? shown.pixels (px / scale).toNat (py / scale).toNat =
          some (canvas.color (px, py))) ∧
      areas.Pairwise Area.Apart ∧
      (∀ a ∈ areas, ∀ p ∈ a,
        (0 ≤ p.1 ∧ p.1 < 64 * scale) ∧ 0 ≤ p.2 ∧ p.2 < 32 * scale) ∧
      (∃ lit : List Nat, lit.Nodup ∧ areas = lit.map (Area.square scale) ∧
        ∀ i, i ∈ lit ↔ ∃ c ∈ cells[i]?, c ≠ 0) ∧
      lines.length = 32 ∧ (∀ line ∈ lines, line.length = 64) ∧
      (∀ (x : Fin 64) (y : Fin 32), ∃ c byte, cells[x.val + 64 * y.val]? = some c ∧
        State.pixelOf shown.cells x y = .ok byte ∧ (byte.toNat : Int) = c ∧
        (∀ s : State, (∀ i : Fin 2048, s.frame.cells[i.val] = isLit shown.cells.cells[i.val]) →
          s.pixel x y = .ok (decide (c ≠ 0))) ∧
        cellAt? lines x y = some (if c ≠ 0 then on else off) ∧
        cellAt? shown.pixels x y = some (if c ≠ 0 then d.on else d.off)) ∧
      (on ≠ off → ∀ other : Display, other.text [on] [off] = shown.text [on] [off] →
        ∀ x y, isLit (other.cells.cell x y) = isLit (shown.cells.cell x y)) := by
  obtain ⟨shown, accepted, sameOn, sameOff, taken⟩ := update_eq_ok d full bytes
  refine ⟨shown, accepted, ⟨desktop.requestAll (shown.paint scale), ?_, ?_⟩, ?_⟩
  · rw [surface, if_neg (by omega), if_pos available]
  · simp [Desktop.requestAll]
  dsimp only
  rw [areas_paint, text, Grid.splitOn_text _ _ plain]
  obtain ⟨width, height, _⟩ := shown.canvas_paint positive
  refine ⟨width, height, fun px py column row => shown.pixels_canvas positive column row, ?_, ?_,
    ?_, ?_, ?_, ?_, ?_⟩
  · rw [List.pairwise_map]
    exact (shown.cells.nodup_indices isLit).imp (Area.square_apart positive)
  · intro a member p here
    obtain ⟨i, lit, rfl⟩ := List.mem_map.1 member
    obtain ⟨inside, _⟩ := (shown.cells.mem_indices isLit i).1 lit
    exact Area.square_inside positive inside here
  · exact ⟨_, shown.cells.nodup_indices isLit, rfl, taken.mem_indices full⟩
  · rw [List.length_map, Grid.length_rows]
  · intro line member
    obtain ⟨row, among, rfl⟩ := List.mem_map.1 member
    rw [List.length_map, shown.cells.length_of_mem_rows among]
  · intro x y
    refine ⟨((shown.cells.cell x y).toNat : Int), shown.cells.cell x y, taken _ (by omega),
      State.pixelOf_cell _ x y, rfl,
      fun s same => pixel_of_cell (same ⟨x.val + 64 * y.val, by omega⟩), ?_, ?_⟩
    · rw [Grid.cellAt?_map_rows, isLit_branch]
    · rw [pixels, Grid.cellAt?_map_rows, color, isLit_branch, sameOn, sameOff]
  · intro different other same x y
    exact lit_of_text plain different same x y

def corners : List Int := 7 :: (List.replicate 2046 0 ++ [1])

def workshop : Desktop := ⟨fun _ => none, 0, true, true, false, [], [], #[]⟩

theorem corners_agree :
    corners.length = 2048 ∧ (∀ c ∈ corners, 0 ≤ c ∧ c < 256) ∧
      ∃ shown, fresh.update corners = .ok shown ∧
        (Canvas.ofRequests (shown.paint 3)).color (191, 95) = white ∧
        cellAt? ((shown.text [0x23] [0x2E]).splitOn newline) 63 31 = some 0x23 ∧
        cellAt? ((shown.text [0x23] [0x2E]).splitOn newline) 62 31 = some 0x2E := by
  have full : corners.length = 2048 := by decide +kernel
  have bytes : ∀ c ∈ corners, 0 ≤ c ∧ c < 256 := by decide +kernel
  have last : corners[2047]? = some 1 := by decide +kernel
  have beside : corners[2046]? = some 0 := by decide +kernel
  obtain ⟨shown, accepted, _, _, _, magnified, _, _, _, _, _, cells, _⟩ :=
    renderings_agree fresh full bytes (show (0 : Int) < 3 by decide)
      (show workshop.available = true from rfl)
      (show (0x23 : Nat) ≠ newline ∧ (0x2E : Nat) ≠ newline by decide)
  refine ⟨full, bytes, shown, accepted, ?_, ?_, ?_⟩
  · obtain ⟨c, _, here, _, _, _, _, color⟩ := cells 63 31
    obtain rfl : 1 = c := Option.some.inj (last.symm.trans here)
    have painted := magnified 191 95 (by decide) (by decide)
    exact Option.some.inj (painted.symm.trans color)
  · obtain ⟨c, _, here, _, _, _, mark, _⟩ := cells 63 31
    obtain rfl : 1 = c := Option.some.inj (last.symm.trans here)
    exact mark
  · obtain ⟨c, _, here, _, _, _, mark, _⟩ := cells 62 31
    obtain rfl : 0 = c := Option.some.inj (beside.symm.trans here)
    exact mark

end Display

end Chip8
