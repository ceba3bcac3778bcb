import Chip8.Log
import Chip8.State

/-! Observers look at the machine before each cycle and may ask the run to stop. They do
not change the machine. A chain asks its members from left to right. -/
namespace Chip8

/-- What looking at one cycle gives: the observer afterwards, the stops it asks for, what it
reports and the fault that kept it from going on, if any. -/
structure Notice (ω : Type) where
  observer : ω
  stops : List CodePoints := []
  reports : List Report := []
  fault : Option Fault := none

namespace Notice

def map {ω ψ : Type} (hold : ω → ψ) (n : Notice ω) : Notice ψ :=
  ⟨hold n.observer, n.stops, n.reports, n.fault⟩

end Notice

/-- Asks to stop once the program counter is the same in two cycles running. -/
structure Stall where
  previous : Option Int
  seen : Nat
  stalledAt : Option Int

namespace Stall

def fresh : Stall := ⟨none, 0, none⟩

def message (pc : Int) : CodePoints := .ofString s!"stalled at {Hex.upperSigned 3 pc}"

def notice (o : Stall) (s : State) : Notice Stall :=
  if o.previous = some s.pc then
    { observer := ⟨some s.pc, o.seen + 1, some s.pc⟩, stops := [message s.pc] }
  else
    { observer := { o with previous := some s.pc, seen := o.seen + 1 } }

end Stall

/-- Asks to stop when the program counter is one of the addresses. -/
structure Breakpoints where
  /-- Ascending, each once. -/
  addresses : List Int
  hit : Option Int

namespace Breakpoints

def insert (a : Int) : List Int → List Int
  | [] => [a]
  | b :: rest => if a < b then a :: b :: rest else if a = b then b :: rest else b :: insert a rest

/-- Addresses count modulo the size of the address space. -/
def ofList (addresses : List Int) : Breakpoints :=
  ⟨addresses.foldl (fun known a => insert (a % 0x1000) known) [], none⟩

def message (pc : Int) : CodePoints := .ofString s!"breakpoint at {Hex.upperSigned 3 pc}"

def notice (o : Breakpoints) (s : State) : Notice Breakpoints :=
  if o.addresses.contains s.pc then
    { observer := { o with hit := some s.pc }, stops := [message s.pc] }
  else
    { observer := o }

theorem mem_insert (a c : Int) (known : List Int) : c ∈ insert a known ↔ c = a ∨ c ∈ known := by
  induction known with
  | nil => simp [insert]
  | cons b rest ih =>
    simp only [insert]
    split
    · simp
    · split
      · next same => subst same; simp
      · simp only [List.mem_cons, ih]
        exact or_left_comm

end Breakpoints

/-- Asks to stop from the cycle on that fills the limit. -/
structure CycleLimit where
  limit : Nat
  count : Nat
  reached : Bool

namespace CycleLimit

def ofNat (limit : Nat) : CycleLimit := ⟨limit, 0, false⟩

def message : CodePoints := .ofString "cycle limit reached"

def notice (o : CycleLimit) : Notice CycleLimit :=
  if o.limit ≤ o.count + 1 then
    { observer := ⟨o.limit, o.count + 1, true⟩, stops := [message] }
  else
    { observer := { o with count := o.count + 1 } }

end CycleLimit

/-- Reports one line per cycle and remembers the latest program counters. -/
structure Trace where
  level : Int
  capacity : Nat
  /-- Oldest first. -/
  history : Array Int

namespace Trace

def fresh : Trace := ⟨Report.debug, 32, #[]⟩

/-- Adds the newest entry and forgets the oldest if there is no room for both. -/
def remember (capacity : Nat) (history : Array Int) (pc : Int) : Array Int :=
  let longer := history.push pc
  longer.extract (longer.size - capacity) longer.size

/-- What a trace shows of the machine. The word is 0 if it does not end within memory. -/
def line (s : State) : Except Fault TraceLine := do
  let word ← if s.pc + 1 < 0x1000 then s.peek16 s.pc else .ok 0
  return {
    pc := s.pc, word := word, i := s.i, sp := s.sp, delay := s.delay, sound := s.sound
    registers := s.v.toList }

/-- The program counter is remembered even if the machine cannot be shown. -/
def notice (threshold : Int) (o : Trace) (s : State) : Notice Trace :=
  let o := { o with history := remember o.capacity o.history s.pc }
  if Report.enabled threshold o.level then
    match line s with
    | .ok line => { observer := o, reports := [.traced o.level line] }
    | .error fault => { observer := o, fault := some fault }
  else
    { observer := o }

end Trace

/-- Remembers every program counter and asks to stop at one chosen call. -/
structure Probe where
  stopAt : Option Int
  reason : CodePoints
  seen : Array Int

namespace Probe

def notice (o : Probe) (s : State) : Notice Probe :=
  let seen := o.seen.push s.pc
  { observer := { o with seen }
    stops := if o.stopAt = some (seen.size : Int) then [o.reason] else [] }

end Probe

inductive Observer
  | stall (o : Stall)
  | breakpoints (o : Breakpoints)
  | limit (o : CycleLimit)
  | trace (o : Trace)
  | probe (o : Probe)
  | chain (members : List Observer)

namespace Observer

inductive Fault
  | limitNotPositive
  | negativeHistory
  | hugeHistory
deriving DecidableEq, Repr

def Fault.message : Fault → String
  | .limitNotPositive => "cycle limit must be positive"
  | .negativeHistory => "maxlen must be non-negative"
  | .hugeHistory => "Python int too large to convert to C ssize_t"

def limit? (limit : Int) : Except Fault Observer :=
  if 0 < limit then .ok (.limit (.ofNat limit.toNat)) else .error .limitNotPositive

def trace? (level history : Int) : Except Fault Observer :=
  if history < -0x8000000000000000 ∨ 0x8000000000000000 ≤ history then .error .hugeHistory
  else if history < 0 then .error .negativeHistory
  else .ok (.trace ⟨level, history.toNat, #[]⟩)

mutual

def notice (threshold : Int) (s : State) : Observer → Notice Observer
  | stall o => (o.notice s).map stall
  | breakpoints o => (o.notice s).map breakpoints
  | limit o => o.notice.map limit
  | trace o => (o.notice threshold s).map trace
  | probe o => (o.notice s).map probe
  | chain members => (noticeAll threshold s members).map chain

/-- Lets one observer after the other look, until one of them cannot go on. -/
def noticeAll (threshold : Int) (s : State) : List Observer → Notice (List Observer)
  | [] => { observer := [] }
  | o :: rest =>
    let first := notice threshold s o
    match first.fault with
    | some _ => first.map (· :: rest)
    | none =>
      let others := noticeAll threshold s rest
      ⟨first.observer :: others.observer, first.stops ++ others.stops,
        first.reports ++ others.reports, others.fault⟩

end

def add? (o member : Observer) : Option Observer :=
  match o with
  | chain members => some (chain (members ++ [member]))
  | _ => none

end Observer

end Chip8
