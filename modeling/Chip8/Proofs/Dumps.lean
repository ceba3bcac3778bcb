import Chip8.Diagnostics
import Chip8.Proofs.HexTable
import Chip8.Proofs.Spans
import Mathlib.Data.List.Sort

/-! What a dump of memory shows. Either format goes through the addresses that are asked for in
ascending order and takes each of them once: the plain bytes one after the other, the table by runs
of addresses, of which it shows the rows that they reach into. So both give the same byte for an
address. -/
namespace Chip8

theorem intercalate_append {α : Type} {separator : List α} {first later : List (List α)}
    (any : first ≠ []) (any' : later ≠ []) : separator.intercalate (first ++ later) =
      separator.intercalate first ++ separator ++ separator.intercalate later := by
  induction first with
  | nil => exact absurd rfl any
  | cons piece rest ih =>
    by_cases last : rest = []
    · simp [last, List.intercalate_cons_of_ne_nil any']
    · have more : rest ++ later ≠ [] := by simp [last]
      rw [List.cons_append, List.intercalate_cons_of_ne_nil more, ih last,
        List.intercalate_cons_of_ne_nil last]
      simp

theorem intercalate_ne_nil {α : Type} {separator : List α} {pieces : List (List α)}
    (any : pieces ≠ []) (filled : ∀ piece ∈ pieces, piece ≠ []) :
    separator.intercalate pieces ≠ [] := by
  cases pieces with
  | nil => exact absurd rfl any
  | cons piece rest =>
    have first := filled piece List.mem_cons_self
    by_cases last : rest = []
    · simpa [last] using first
    · simp [List.intercalate_cons_of_ne_nil last, first]

theorem intercalate_blocks {blocks : List (List (List Char))}
    (filled : ∀ block ∈ blocks, block ≠ []) :
    ['\n', '\n'].intercalate (blocks.map ['\n'].intercalate) =
      ['\n'].intercalate ([[]].intercalate blocks) := by
  induction blocks with
  | nil => rfl
  | cons block rest ih =>
    obtain ⟨first, others⟩ := List.forall_mem_cons.1 filled
    by_cases last : rest = []
    · simp [last]
    · have more : rest.map ['\n'].intercalate ≠ [] := by simp [last]
      have later : [[]].intercalate rest ≠ [] := intercalate_ne_nil last others
      have between : block ++ [[]] ++ [[]].intercalate rest =
          block ++ [] :: [[]].intercalate rest := by simp
      rw [List.map_cons, List.intercalate_cons_of_ne_nil more, ih others,
        List.intercalate_cons_of_ne_nil last, between,
        intercalate_append first (List.cons_ne_nil _ _), List.intercalate_cons_of_ne_nil later]
      simp

theorem mem_intercalate {α : Type} {separator : List α} {pieces : List (List α)} {a : α}
    (member : a ∈ separator.intercalate pieces) :
    a ∈ separator ∨ ∃ piece ∈ pieces, a ∈ piece := by
  induction pieces with
  | nil => simp at member
  | cons piece rest ih =>
    by_cases last : rest = []
    · exact .inr ⟨piece, List.mem_cons_self, by simpa [last] using member⟩
    · rw [List.intercalate_cons_of_ne_nil last, List.mem_append, List.mem_append] at member
      obtain (here | between) | later := member
      · exact .inr ⟨piece, List.mem_cons_self, here⟩
      · exact .inl between
      · refine (ih later).imp id ?_
        rintro ⟨other, among, here⟩
        exact ⟨other, List.mem_cons_of_mem _ among, here⟩

theorem mem_intercalate_of_mem {α : Type} {separator : List α} {pieces : List (List α)}
    {piece : List α} {a : α} (among : piece ∈ pieces) (member : a ∈ piece) :
    a ∈ separator.intercalate pieces := by
  induction pieces with
  | nil => cases among
  | cons first rest ih =>
    by_cases last : rest = []
    · subst last
      simpa [List.mem_singleton.1 among] using member
    · rw [List.intercalate_cons_of_ne_nil last, List.mem_append, List.mem_append]
      obtain rfl | later := List.mem_cons.1 among
      · exact .inl (.inl member)
      · exact .inr (ih later)

namespace Span

structure InMemory (s : Span) : Prop where
  low : 0 ≤ s.first
  filled : s.first ≤ s.last
  high : s.last ≤ 0xFFF

instance (spans : List Span) (a : Int) : Decidable (Asked spans a) :=
  inferInstanceAs (Decidable (spans = [] ∧ a ∈ whole ∨ ∃ s ∈ spans, a ∈ s))

def addresses (spans : List Span) : List Nat := (List.range 0x1000).filter (Asked spans ·)

def numbers (s : Span) : List Nat := List.range' s.first.toNat (s.last + 1 - s.first).toNat

variable {spans : List Span} {s : Span}

theorem mem_addresses {a : Nat} : a ∈ addresses spans ↔ a < 0x1000 ∧ Asked spans a := by
  simp [addresses]

theorem ascending_addresses (spans : List Span) : (addresses spans).Pairwise (· < ·) :=
  List.pairwise_lt_range.filter _

theorem mem_numbers (inside : s.InMemory) {a : Nat} : a ∈ s.numbers ↔ (a : Int) ∈ s := by
  have low := inside.low
  have filled := inside.filled
  rw [numbers, List.mem_range'_1, mem_iff]
  omega

theorem bounds_of_asked (inside : ∀ s ∈ spans, s.InMemory) {a : Int} (asked : Asked spans a) :
    0 ≤ a ∧ a ≤ 0xFFF := by
  obtain ⟨_, whole⟩ | ⟨s, member, above, below⟩ := asked
  · exact whole
  · have low := (inside s member).low
    have high := (inside s member).high
    omega

theorem inMemory_of_mem_join (inside : ∀ s ∈ spans, s.InMemory) (member : s ∈ join spans) :
    s.InMemory := by
  obtain ⟨joined, covered⟩ := joined_asked fun s member => (inside s member).filled
  have filled := joined.filled s member
  have first := bounds_of_asked inside ((covered s.first).1 ⟨s, member, Int.le_refl _, filled⟩)
  have last := bounds_of_asked inside ((covered s.last).1 ⟨s, member, filled, Int.le_refl _⟩)
  exact ⟨first.1, filled, last.2⟩

theorem flatMap_numbers_join (inside : ∀ s ∈ spans, s.InMemory) :
    (join spans).flatMap numbers = addresses spans := by
  obtain ⟨joined, covered⟩ := joined_asked fun s member => (inside s member).filled
  have fits {s : Span} (member : s ∈ join spans) := inMemory_of_mem_join inside member
  have ascending : ((join spans).flatMap numbers).Pairwise (· < ·) := by
    refine List.pairwise_flatMap.2 ⟨fun s _ => List.pairwise_lt_range', ?_⟩
    refine joined.apart.imp_of_mem fun {s t} one other apart a early b late => ?_
    rw [mem_numbers (fits one), mem_iff] at early
    rw [mem_numbers (fits other), mem_iff] at late
    omega
  have same (a : Nat) : a ∈ (join spans).flatMap numbers ↔ a ∈ addresses spans := by
    rw [List.mem_flatMap, mem_addresses, ← covered]
    constructor
    · rintro ⟨s, member, here⟩
      rw [mem_numbers (fits member)] at here
      have bounds := bounds_of_asked inside ((covered a).1 ⟨s, member, here⟩)
      exact ⟨by omega, s, member, here⟩
    · rintro ⟨_, s, member, here⟩
      exact ⟨s, member, (mem_numbers (fits member)).2 here⟩
  exact List.Subset.antisymm_of_pairwise ascending (ascending_addresses spans)
    (fun a => (same a).1) (fun a => (same a).2)

end Span

namespace Dump

variable {spans : List Span} {s : Span}

theorem readBlock_span (m : Memory 0x1000) (inside : s.InMemory) :
    (m.readBlock s.first (s.last + 1 - s.first)).toList = s.numbers.map m.byteAt := by
  have low := inside.low
  have filled := inside.filled
  have high := inside.high
  have count : s.last + 1 - s.first = ((s.last + 1 - s.first).toNat : Int) := by omega
  rw [count, m.readBlock_of_fits low (by omega), Span.numbers, List.range'_eq_map_range,
    List.map_map]
  simp [Function.comp_def]

theorem binary_join (m : Memory 0x1000) (inside : ∀ s ∈ spans, s.InMemory) :
    binary m (Span.join spans) = (Span.addresses spans).map m.byteAt := by
  rw [binary, ← Span.flatMap_numbers_join inside, List.map_flatMap]
  exact List.flatMap_congr fun s member =>
    readBlock_span m (Span.inMemory_of_mem_join inside member)

/-- The numbers of the rows that a span reaches into. -/
def rowNumbers (s : Span) : List Nat :=
  List.range' (s.first.toNat / 16) (s.last.toNat / 16 + 1 - s.first.toNat / 16)

theorem mem_rowNumbers (filled : s.first ≤ s.last) {n : Nat} :
    n ∈ rowNumbers s ↔ s.first.toNat / 16 ≤ n ∧ n ≤ s.last.toNat / 16 := by
  rw [rowNumbers, List.mem_range'_1]
  omega

theorem rowStarts_eq (inside : s.InMemory) :
    rowStarts s = (rowNumbers s).map fun n => ((16 * n : Nat) : Int) := by
  have low := inside.low
  have filled := inside.filled
  rw [rowStarts, rowNumbers, List.range'_eq_map_range, List.map_map]
  simp only [rowSize, Function.comp_def]
  have count : ((s.last - (s.first - s.first % (16 : Nat))) / (16 : Nat) + 1).toNat =
      s.last.toNat / 16 + 1 - s.first.toNat / 16 := by omega
  rw [count]
  refine List.map_congr_left fun k _ => ?_
  omega

theorem lt_of_mem_rowNumbers (inside : s.InMemory) {n : Nat} (member : n ∈ rowNumbers s) :
    n < 256 := by
  have high := inside.high
  rw [mem_rowNumbers inside.filled] at member
  omega

theorem header_eq : header = "ADR 00 01 02 03 04 05 06 07 08 09 0A 0B 0C 0D 0E 0F" := by
  decide +kernel

/-- The lines of one block: the header and the rows that the span reaches into. -/
def blockLines (m : Memory 0x1000) (s : Span) : List (List Char) :=
  header.toList :: (rowNumbers s).map fun n => (row m ((16 * n : Nat) : Int)).toList

theorem toList_block (m : Memory 0x1000) (inside : s.InMemory) :
    (block m s).toList = ['\n'].intercalate (blockLines m s) := by
  simp [block, blockLines, String.toList_intercalate, rowStarts_eq inside, Function.comp_def]

theorem newline_not_mem_blockLines (m : Memory 0x1000) (inside : s.InMemory) :
    ∀ line ∈ blockLines m s, '\n' ∉ line := by
  rw [blockLines, List.forall_mem_cons, List.forall_mem_map]
  refine ⟨by decide +kernel, fun n member => ?_⟩
  have small := lt_of_mem_rowNumbers inside member
  exact newline_not_mem_of_readRow? (readRow?_row m (by omega) (by omega))

theorem lines_table (m : Memory 0x1000) {runs : List Span} (any : runs ≠ [])
    (inside : ∀ s ∈ runs, s.InMemory) :
    lines (table m runs) = [[]].intercalate (runs.map (blockLines m)) := by
  have blocks : (table m runs).toList =
      ['\n'].intercalate ([[]].intercalate (runs.map (blockLines m))) := by
    have filled : ∀ block ∈ runs.map (blockLines m), block ≠ [] := by simp [blockLines]
    rw [table, String.toList_intercalate, ← intercalate_blocks filled, List.map_map, List.map_map]
    congr 1
    exact List.map_congr_left fun s member => toList_block m (inside s member)
  rw [lines, blocks]
  refine List.splitOn_intercalate _ (fun line member => ?_) (intercalate_ne_nil ?_ ?_)
  · obtain blank | ⟨block, among, here⟩ := mem_intercalate member
    · simp [List.mem_singleton.1 blank]
    · obtain ⟨s, member, rfl⟩ := List.mem_map.1 among
      exact newline_not_mem_blockLines m (inside s member) line here
  · simpa using any
  · simp [blockLines]

theorem eq_byteAt_of_byteInLine? (m : Memory 0x1000) (inside : s.InMemory) {a : Nat} {b : UInt8}
    {line : List Char} (member : line ∈ blockLines m s) (shown : byteInLine? line a = some b) :
    b = m.byteAt a := by
  obtain rfl | row := List.mem_cons.1 member
  · have none : readRow? header.toList = none := by decide +kernel
    simp [byteInLine?, none] at shown
  · obtain ⟨n, among, rfl⟩ := List.mem_map.1 row
    have small := lt_of_mem_rowNumbers inside among
    rw [byteInLine?_row m (by omega) (by omega)] at shown
    simp only [Option.ite_none_right_eq_some, Option.some.injEq] at shown
    exact shown.2.symm

theorem exists_byteInLine? (m : Memory 0x1000) (inside : s.InMemory) {a : Nat}
    (here : (a : Int) ∈ s) : ∃ line ∈ blockLines m s, byteInLine? line a = some (m.byteAt a) := by
  have number : a / 16 ∈ rowNumbers s := by
    rw [Span.mem_iff] at here
    rw [mem_rowNumbers inside.filled]
    omega
  have small := lt_of_mem_rowNumbers inside number
  have reached : 16 * (a / 16) ≤ a ∧ a < 16 * (a / 16) + 16 := by omega
  refine ⟨_, List.mem_cons_of_mem _ (List.mem_map_of_mem number), ?_⟩
  rw [byteInLine?_row m (by omega) (by omega), if_pos reached]

theorem byteIn?_table (m : Memory 0x1000) {runs : List Span}
    (inside : ∀ s ∈ runs, s.InMemory) {a : Nat} (covered : Span.Covered runs a) :
    byteIn? (table m runs) a = some (m.byteAt a) := by
  obtain ⟨s, member, here⟩ := covered
  rw [byteIn?, lines_table m (List.ne_nil_of_mem member) inside]
  have reached : ((([[]] : List (List Char)).intercalate (runs.map (blockLines m))).findSome?
      (byteInLine? · a)).isSome := by
    obtain ⟨line, among, shown⟩ := exists_byteInLine? m (inside s member) here
    exact List.findSome?_isSome_iff.2 ⟨line,
      mem_intercalate_of_mem (List.mem_map_of_mem member) among, by rw [shown, Option.isSome_some]⟩
  obtain ⟨b, found⟩ := Option.isSome_iff_exists.1 reached
  obtain ⟨line, among, shown⟩ := List.exists_of_findSome?_eq_some found
  obtain blank | ⟨block, among, here⟩ := mem_intercalate among
  · rw [List.mem_singleton.1 blank] at shown
    cases shown
  · obtain ⟨t, other, rfl⟩ := List.mem_map.1 among
    rw [found, eq_byteAt_of_byteInLine? m (inside t other) here shown]

end Dump

namespace Diagnostics

def Options.deliver (o : Options) (content : List UInt8) (disk : Disk) :
    Except Escape (List UInt8 × Disk) :=
  match o.dump with
  | .absent => .ok (content, disk)
  | .blank => .error (.lacking .openFile)
  | .value file => ((disk.write (Path.ofText file) content).mapError .disk).map ([], ·)

theorem writeDump_eq (o : Options) (m : Memory 0x1000) (disk : Disk) :
    writeDump o m disk = o.deliver (match o.format with
      | .table => line (.ofString (Dump.table m (Span.join o.spans)))
      | .binary => Dump.binary m (Span.join o.spans)) disk := rfl

/-- The table shows, run by run and in whole rows, what the plain bytes hold: at every address that
is asked for, the byte of memory. -/
theorem dumps_agree (m : Memory 0x1000) {spans : List Span} (inside : ∀ s ∈ spans, s.InMemory) :
    let runs := Span.join spans
    let text := Dump.table m runs
    let asked := Span.addresses spans
    let content := asked.map m.byteAt
    (∀ o disk, o.spans = spans → writeDump o m disk = o.deliver (match o.format with
      | .table => line (.ofString text)
      | .binary => content) disk) ∧
    ((∀ a, a ∈ asked ↔ a < 0x1000 ∧ Span.Asked spans a) ∧ asked.Pairwise (· < ·)) ∧
    ((∀ s, s ∈ runs ↔ Span.Maximal (Span.Asked spans) s) ∧
      runs.Pairwise fun s t => s.last + 1 < t.first) ∧
    Dump.lines text = [[]].intercalate (runs.map fun s =>
      "ADR 00 01 02 03 04 05 06 07 08 09 0A 0B 0C 0D 0E 0F".toList ::
        (List.range' (s.first.toNat / 16) (s.last.toNat / 16 + 1 - s.first.toNat / 16)).map
          fun n => (Dump.row m ((16 * n : Nat) : Int)).toList) ∧
    (∀ n < 256, Dump.readRow? (Dump.row m ((16 * n : Nat) : Int)).toList =
      some (16 * n, (List.range 16).map fun k => m.byteAt (16 * n + k))) ∧
    ∀ a ∈ asked, Dump.byteIn? text a = some (m.byteAt a) ∧
      content[asked.idxOf a]? = Dump.byteIn? text a := by
  intro runs text asked content
  have filled (s : Span) (member : s ∈ spans) : s.first ≤ s.last := (inside s member).filled
  obtain ⟨joined, covered⟩ := Span.joined_asked filled
  have same : Span.Covered runs = Span.Asked spans := funext fun a => propext (covered a)
  have fits (s : Span) (member : s ∈ runs) := Span.inMemory_of_mem_join inside member
  have any : runs ≠ [] := Span.join_ne_nil filled
  refine ⟨?_, ⟨fun a => Span.mem_addresses, Span.ascending_addresses spans⟩,
    ⟨fun s => ?_, joined.apart⟩, ?_, fun n small => ?_, fun a member => ?_⟩
  · rintro o disk rfl
    rw [writeDump_eq, Dump.binary_join m inside]
  · rw [← same]
    exact joined.mem_iff_maximal
  · rw [← Dump.header_eq]
    exact Dump.lines_table m any fits
  · exact Dump.readRow?_row m (by omega) (by omega)
  · have shown : Dump.byteIn? text a = some (m.byteAt a) :=
      Dump.byteIn?_table m fits ((covered a).2 (Span.mem_addresses.1 member).2)
    refine ⟨shown, ?_⟩
    rw [shown, List.getElem?_map, List.getElem?_idxOf member, Option.map_some]

def sharing : List Span := [⟨0x4D, 0x5F⟩, ⟨0x46, 0x4B⟩]

theorem sharing_dumped : (∀ s ∈ sharing, s.InMemory) ∧
    Dump.byteIn? (Dump.table State.initial.memory (Span.join sharing)) 0x4D = some 0xF0 ∧
    ((Span.addresses sharing).map State.initial.memory.byteAt)[6]? = some 0xF0 := by
  have inside : ∀ s ∈ sharing, s.InMemory := by
    refine List.forall_mem_cons.2 ⟨?_, List.forall_mem_cons.2 ⟨?_, List.forall_mem_nil _⟩⟩
    all_goals constructor <;> decide
  have asked : 0x4D ∈ Span.addresses sharing := by decide +kernel
  have rank : (Span.addresses sharing).idxOf 0x4D = 6 := by decide +kernel
  have stored : State.initial.memory.byteAt 0x4D = 0xF0 := by decide +kernel
  obtain ⟨_, _, _, _, _, agree⟩ := dumps_agree State.initial.memory inside
  obtain ⟨shown, held⟩ := agree 0x4D asked
  rw [rank] at held
  rw [shown, stored] at held
  rw [stored] at shown
  exact ⟨inside, shown, held⟩

end Diagnostics

end Chip8
