import Chip8.Observer
import Chip8.Proofs.Fetch

/-! Trees of observers, leaf by leaf. What a tree says before a cycle is what its leaves say, from
left to right, and a leaf decides by its own state and the program counters of the cycles so far
alone. So what it will say can be told in advance. -/
namespace Chip8

theorem Trace.line_of_wellFormed {s : State} (whole : s.WellFormed) :
    ∃ line, Trace.line s = .ok line := by
  have low := whole.pc_nonneg
  unfold Trace.line
  split
  · next inside =>
    rw [State.peek16, Memory.load16, Memory.load8_of_inside _ low (by omega),
      Memory.load8_of_inside _ (by omega) (by omega)]
    exact ⟨_, rfl⟩
  · exact ⟨_, rfl⟩

theorem Breakpoints.contains_ofList (addresses : List Int) (pc : Int) :
    (ofList addresses).addresses.contains pc = true ↔ ∃ a ∈ addresses, a % 0x1000 = pc := by
  have inserted (known : List Int) :
      pc ∈ addresses.foldl (fun known a => insert (a % 0x1000) known) known ↔
        (∃ a ∈ addresses, a % 0x1000 = pc) ∨ pc ∈ known := by
    induction addresses generalizing known with
    | nil => simp
    | cons a rest ih =>
      rw [List.foldl_cons, ih, mem_insert, eq_comm]
      simp [or_left_comm, or_assoc]
  rw [ofList, List.contains_iff_mem, inserted]
  simp

namespace Observer

mutual

/-- The members that are no chains, from left to right. -/
def leaves : Observer → List Observer
  | stall o => [stall o]
  | breakpoints o => [breakpoints o]
  | limit o => [limit o]
  | trace o => [trace o]
  | probe o => [probe o]
  | chain members => leavesAll members

def leavesAll : List Observer → List Observer
  | [] => []
  | o :: rest => leaves o ++ leavesAll rest

end

/-- What a leaf says before cycle `k`, counted from zero. `pcs` are the program counters before
the cycles. -/
def fires? (pcs : Nat → Int) (k : Nat) : Observer → Option CodePoints
  | stall o =>
    let previous := match k with
      | 0 => o.previous
      | k + 1 => some (pcs k)
    if previous = some (pcs k) then some (Stall.message (pcs k)) else none
  | breakpoints o =>
    if o.addresses.contains (pcs k) then some (Breakpoints.message (pcs k)) else none
  | limit o => if o.limit ≤ o.count + (k + 1) then some CycleLimit.message else none
  | trace _ => none
  | probe o => if o.stopAt = some ((o.seen.size + (k + 1) : Nat) : Int) then some o.reason else none
  | chain _ => none

def voices (pcs : Nat → Int) (k : Nat) (o : Observer) : List CodePoints :=
  o.leaves.filterMap (fires? pcs k)

/-- An observer that looks at a machine speaks as its leaves do, and what is left of it will. -/
structure Spoken (pcs : Nat → Int) (o : Observer) (n : Notice Observer) : Prop where
  fault : n.fault = none
  stops : n.stops = o.voices pcs 0
  later : ∀ k, n.observer.voices (fun i => pcs (i + 1)) k = o.voices pcs (k + 1)

theorem voices_of_leaf (pcs : Nat → Int) (k : Nat) {o : Observer} (leaf : o.leaves = [o]) :
    o.voices pcs k = (fires? pcs k o).toList := by
  rw [voices, leaf]
  cases fired : fires? pcs k o <;> simp [fired]

section Notice

variable {pcs : Nat → Int} {s : State} (threshold : Int)

theorem spoken_stall (now : pcs 0 = s.pc) (o : Stall) :
    Spoken pcs (stall o) ((o.notice s).map stall) := by
  have kept : (o.notice s).observer.previous = some s.pc := by
    unfold Stall.notice
    split <;> rfl
  refine ⟨?_, ?_, fun k => ?_⟩
  · unfold Stall.notice
    split <;> rfl
  · rw [voices_of_leaf _ _ rfl, fires?, now]
    simp only [Notice.map, Stall.notice]
    split <;> rfl
  · rw [Notice.map, voices_of_leaf _ _ rfl, voices_of_leaf _ _ rfl]
    -- Its own memory decides the first cycle only, and what it remembers now is `pcs 0`.
    cases k with
    | zero => simp only [fires?, kept, now]
    | succ k => rfl

theorem spoken_breakpoints (now : pcs 0 = s.pc) (o : Breakpoints) :
    Spoken pcs (breakpoints o) ((o.notice s).map breakpoints) := by
  have kept : (o.notice s).observer.addresses = o.addresses := by
    unfold Breakpoints.notice
    split <;> rfl
  refine ⟨?_, ?_, fun k => ?_⟩
  · unfold Breakpoints.notice
    split <;> rfl
  · rw [voices_of_leaf _ _ rfl, fires?, now]
    simp only [Notice.map, Breakpoints.notice]
    split <;> rfl
  · rw [Notice.map, voices_of_leaf _ _ rfl, voices_of_leaf _ _ rfl, fires?, fires?, kept]

theorem spoken_limit (o : CycleLimit) : Spoken pcs (limit o) (o.notice.map limit) := by
  have counted : o.notice.observer.limit = o.limit ∧ o.notice.observer.count = o.count + 1 := by
    unfold CycleLimit.notice
    split <;> exact ⟨rfl, rfl⟩
  refine ⟨?_, ?_, fun k => ?_⟩
  · unfold CycleLimit.notice
    split <;> rfl
  · rw [voices_of_leaf _ _ rfl, fires?]
    simp only [Notice.map, CycleLimit.notice]
    split <;> rfl
  · rw [Notice.map, voices_of_leaf _ _ rfl, voices_of_leaf _ _ rfl, fires?, fires?, counted.1,
      counted.2, Nat.add_assoc, Nat.add_comm 1]

theorem spoken_probe (o : Probe) : Spoken pcs (probe o) ((o.notice s).map probe) := by
  have size : (o.notice s).observer.seen.size = o.seen.size + 1 := Array.size_push _
  refine ⟨rfl, ?_, fun k => ?_⟩
  · rw [voices_of_leaf _ _ rfl, fires?, Notice.map, ← size]
    unfold Probe.notice
    dsimp only
    split <;> rfl
  · rw [Notice.map, voices_of_leaf _ _ rfl, voices_of_leaf _ _ rfl, fires?, fires?, size,
      Nat.add_assoc, Nat.add_comm 1]
    rfl

theorem spoken_trace (whole : s.WellFormed) (o : Trace) :
    Spoken pcs (trace o) ((o.notice threshold s).map trace) := by
  obtain ⟨line, shown⟩ := Trace.line_of_wellFormed whole
  refine ⟨?_, ?_, fun k => ?_⟩
  · unfold Trace.notice
    dsimp only
    split
    · rw [shown]; rfl
    · rfl
  · rw [voices_of_leaf _ _ rfl, fires?]
    unfold Trace.notice
    dsimp only
    split
    · rw [shown]; rfl
    · rfl
  · rw [Notice.map, voices_of_leaf _ _ rfl, voices_of_leaf _ _ rfl, fires?, fires?]

mutual

theorem spoken_notice (whole : s.WellFormed) (now : pcs 0 = s.pc) :
    ∀ o, Spoken pcs o (notice threshold s o)
  | stall o => spoken_stall now o
  | breakpoints o => spoken_breakpoints now o
  | limit o => spoken_limit o
  | trace o => spoken_trace threshold whole o
  | probe o => spoken_probe o
  | chain members => by
    have all := spoken_noticeAll whole now members
    rw [notice]
    exact ⟨all.1, all.2.1, all.2.2⟩

theorem spoken_noticeAll (whole : s.WellFormed) (now : pcs 0 = s.pc) : ∀ members,
    (noticeAll threshold s members).fault = none ∧
      (noticeAll threshold s members).stops = (chain members).voices pcs 0 ∧
      ∀ k, (chain (noticeAll threshold s members).observer).voices (fun i => pcs (i + 1)) k =
        (chain members).voices pcs (k + 1)
  | [] => ⟨rfl, rfl, fun _ => rfl⟩
  | o :: rest => by
    have first := spoken_notice whole now o
    have others := spoken_noticeAll whole now rest
    have joined (pcs : Nat → Int) (k : Nat) (o : Observer) (rest : List Observer) :
        (chain (o :: rest)).voices pcs k = o.voices pcs k ++ (chain rest).voices pcs k := by
      simp only [voices, leaves, leavesAll, List.filterMap_append]
    rw [noticeAll]
    dsimp only
    rw [first.fault]
    refine ⟨others.1, ?_, fun k => ?_⟩
    · rw [joined, first.stops, others.2.1]
    · rw [joined, joined, first.later, others.2.2]

end

end Notice

end Observer

end Chip8
