import Chip8.Proofs.Protocol
import Chip8.Proofs.Reachable

/-! The history of a session: what was called on it, and which instructions that completed, each
with the state that it was executed in. Whatever only completed instructions move is what one gets
by going through them in order. -/
namespace Chip8

structure Completion where
  before : State
  instruction : Instruction

namespace Session

variable {ρ κ ε : Type} [RandomSource ρ]

/-- What a cycle that begins here completes, whether it fails afterwards or not. -/
def completion? (around : Surroundings κ ε) (m : Session ρ κ) : Option Completion :=
  (executed? around m).map fun done => ⟨m.state, done.1⟩

theorem completion?_of_observed {around : Surroundings κ ε} {m seen : Session ρ κ}
    (observed : observe around.observer m = .ok () seen) (state : seen.state = m.state) :
    completion? around m = completion? (⟨none, none⟩ : Surroundings κ ε) seen := by
  have here : observe (none : Option (State → κ → Reply κ ε Unit)) seen = .ok () seen := rfl
  simp only [completion?, executed?, observed, here, state]

def completions (around : Surroundings κ ε) : (fuel : Nat) → Session ρ κ → List Completion
  | 0, _ => []
  | fuel + 1, m =>
    if m.stopping then []
    else (completion? around m).toList ++
      match cycle around m with
      | .ok _ k => completions around fuel k
      | .error _ _ => []

end Session

/-- Anything that is done with a session from outside. -/
inductive Deed (κ ε : Type)
  | loadImage (image : List UInt8) (name : CodePoints)
  | loadFile (disk : Disk) (path : Path) (name : CodePoints)
  | run (around : Surroundings κ ε) (handler : Option (Fault → κ → Reply κ ε Unit)) (fuel : Nat)
  | step (around : Surroundings κ ε)
  | execute
  | tick
  | setKeys (snapshot : Array Bool)
  | stop (reason : CodePoints)
  | elsewhere (world : κ)

namespace Deed

open Session (cycle)

variable {ρ κ ε : Type} [RandomSource ρ]

def apply (m : Session ρ κ) : Deed κ ε → Session ρ κ
  | loadImage image name => (m.loadImage image name).2
  | loadFile disk path name => (m.loadFile disk path name).2
  | run around handler fuel => (Session.run around handler fuel m).2
  | step around => (cycle around).after m
  | execute => (Session.execute : Session.Step ρ κ ε Unit).after m
  | tick => { m with state := m.state.tick.2 }
  | setKeys snapshot => (Session.setKeys snapshot : Session.Step ρ κ ε Unit).after m
  | stop reason => m.requestStop reason
  | elsewhere world => { m with world }

def completions (m : Session ρ κ) : Deed κ ε → List Completion
  | run around _ fuel => Session.completions around fuel m.openRun
  | step around => (Session.completion? around m).toList
  | execute => (Session.completion? (⟨none, none⟩ : Surroundings κ ε) m).toList
  | _ => []

def all (deeds : List (Deed κ ε)) (m : Session ρ κ) : Session ρ κ := deeds.foldl apply m

theorem all_append (first later : List (Deed κ ε)) (m : Session ρ κ) :
    all (first ++ later) m = all later (all first m) := List.foldl_append

/-- The instructions that deeds in a row complete, oldest first. -/
def past : List (Deed κ ε) → Session ρ κ → List Completion
  | [], _ => []
  | d :: later, m => d.completions m ++ past later (d.apply m)

theorem act_iff {m k : Session ρ κ} : Session.Act ε m k ↔ ∃ d : Deed κ ε, k = d.apply m := by
  constructor
  · intro done
    cases done with
    | loadImage image name => exact ⟨loadImage image name, rfl⟩
    | loadFile disk path name => exact ⟨loadFile disk path name, rfl⟩
    | run around handler fuel => exact ⟨run around handler fuel, rfl⟩
    | step around => exact ⟨step around, rfl⟩
    | execute => exact ⟨execute, rfl⟩
    | tick => exact ⟨tick, rfl⟩
    | setKeys snapshot => exact ⟨setKeys snapshot, rfl⟩
    | stop reason => exact ⟨stop reason, rfl⟩
    | elsewhere world => exact ⟨elsewhere world, rfl⟩
  · rintro ⟨d, rfl⟩
    cases d <;> constructor

theorem reachable_iff {m : Session ρ κ} :
    Session.Reachable ε m ↔
      ∃ (random : ρ) (world : κ) (deeds : List (Deed κ ε)),
        m = all deeds (.start random world) := by
  constructor
  · intro reached
    induction reached with
    | fresh random world => exact ⟨random, world, [], rfl⟩
    | act _ done ih =>
      obtain ⟨random, world, deeds, rfl⟩ := ih
      obtain ⟨d, rfl⟩ := act_iff.1 done
      exact ⟨random, world, deeds ++ [d], (all_append deeds [d] _).symm⟩
  · rintro ⟨random, world, deeds, rfl⟩
    suffices all_reached : ∀ (deeds : List (Deed κ ε)) {k : Session ρ κ},
        Session.Reachable ε k → Session.Reachable ε (all deeds k) from
      all_reached deeds (.fresh random world)
    intro deeds
    induction deeds with
    | nil => exact id
    | cons d later ih => exact fun reached => ih (.act reached (act_iff.2 ⟨d, rfl⟩))

end Deed

/-- A view of the machine that only completed instructions change, each by the same rule. -/
structure Recounts {β : Type} (ρ : Type) [RandomSource ρ] (view : State → β)
    (next : β → Completion → β) : Prop where
  executed : ∀ {s t : State} {r after : ρ} {ins : Instruction}, s.WellFormed →
    s.execute r = (.ok ins t, after) → view t = next (view s) ⟨s, ins⟩
  aside : ∀ (s : State) (keys : Keys) (redraw : Bool) (delay sound : Int),
    view { s with keys, redraw, delay, sound } = view s
  loaded : ∀ {s : State} {image : List UInt8} {memory : Memory 0x1000},
    Program.place s.memory image = .ok memory → view { s with memory } = view s

namespace Recounts

open Session (cycle completion?)

variable {ρ κ ε β : Type} [RandomSource ρ] {view : State → β} {next : β → Completion → β}
  (recounts : Recounts ρ view next)
include recounts

theorem pause {a b : Machine ρ} (whole : a.state.WellFormed) (paused : Pause a b) :
    view b.state = view a.state := by
  cases paused with
  | refused failed => rw [State.execute_error_state whole failed]
  | shown => exact recounts.aside a.state _ false _ _
  | keyed keys => exact recounts.aside a.state keys _ _ _
  | ticked => exact recounts.aside a.state _ _ _ _
  | loaded placed => exact recounts.loaded placed

theorem trail {a b : Machine ρ} {trace : List Executed} (trail : Trail a trace b)
    (whole : a.state.WellFormed) (still : trace = []) : view b.state = view a.state := by
  induction trail with
  | start => rfl
  | pause before paused ih => rw [recounts.pause (before.wellFormed whole) paused, ih still]
  | executed => simp at still

theorem silent {m k : Session ρ κ} (silent : Session.Silent m k) (whole : m.state.WellFormed) :
    view k.state = view m.state := recounts.trail silent.trail whole rfl

theorem execute (m : Session ρ κ) (whole : m.state.WellFormed) :
    view ((Session.execute : Session.Step ρ κ ε Unit).after m).state =
      (completion? (⟨none, none⟩ : Surroundings κ ε) m).toList.foldl next (view m.state) := by
  have observed : Session.observe (none : Option (State → κ → Reply κ ε Unit)) m = .ok () m := rfl
  cases executed : (Session.execute : Session.Step ρ κ ε Unit) m with
  | error e k =>
    obtain ⟨fault, t, random, refused, _, rfl⟩ := (Session.execute_eq_error_iff _ _ _).1 executed
    have kept := State.execute_error_state whole refused
    simp only [Change.after_of_error executed, completion?, Session.executed?, observed, refused,
      kept, Option.map_none, Option.toList_none, List.foldl_nil]
  | ok _ k =>
    obtain ⟨ins, t, random, done, rfl⟩ := (Session.execute_eq_ok_iff _ _).1 executed
    simp only [Change.after_of_ok executed, completion?, Session.executed?, observed, done,
      Option.map_some, Option.toList_some, List.foldl_cons, List.foldl_nil]
    exact recounts.executed whole done

theorem cycle (around : Surroundings κ ε) {m : Session ρ κ} (whole : m.state.WellFormed) :
    view ((cycle around).after m).state =
      (completion? around m).toList.foldl next (view m.state) := by
  have same := Session.sameMachine_observe around.observer m
  cases observed : Session.observe around.observer m with
  | error e seen =>
    rw [Change.after_of_error observed] at same
    have state : seen.state = m.state := congrArg (·.state) same.machine
    have untold : completion? around m = none := by
      simp only [completion?, Session.executed?, observed, Option.map_none]
    rw [Change.after_of_error (Session.cycle_of_unseen observed), state, untold]
    rfl
  | ok _ seen =>
    rw [Change.after_of_ok observed] at same
    have state : seen.state = m.state := congrArg (·.state) same.machine
    have whole : seen.state.WellFormed := state ▸ whole
    have told := Session.completion?_of_observed observed state
    have performed := recounts.execute (ε := ε) seen whole
    obtain ⟨trace, trail⟩ := Session.execute_trail (ε := ε) seen
    rw [← told, state] at performed
    cases executed : (Session.execute : Session.Step ρ κ ε Unit) seen with
    | error e k =>
      rw [Change.after_of_error executed] at performed
      rw [Change.after_of_error (Session.cycle_of_refused observed executed), performed]
    | ok _ k =>
      rw [Change.after_of_ok executed] at performed trail
      have attended := Session.silent_attend around.host { k with cycles := k.cycles + 1 }
      have kept := recounts.silent attended (trail.wellFormed whole)
      rw [Change.after, Session.cycle_of_executed observed executed, ← Change.after, kept]
      exact performed

theorem loop (around : Surroundings κ ε) (fuel : Nat) {m : Session ρ κ}
    (whole : m.state.WellFormed) :
    view (Session.loop around fuel m).2.state =
      (Session.completions around fuel m).foldl next (view m.state) := by
  induction fuel generalizing m with
  | zero => rfl
  | succ fuel ih =>
    have first := recounts.cycle around whole
    rw [Session.completions, Session.loop]
    cases m.stopping with
    | true => rfl
    | false =>
      obtain ⟨trace, advances⟩ := Session.cycle_trace around m
      cases stepped : Session.cycle around m with
      | ok _ k =>
        rw [Change.after_of_ok stepped] at first advances
        rw [if_neg Bool.false_ne_true, if_neg Bool.false_ne_true, List.foldl_append, ← first]
        exact ih (advances.trail.wellFormed whole)
      | error e k =>
        rw [Change.after_of_error stepped] at first
        rw [if_neg Bool.false_ne_true, if_neg Bool.false_ne_true, List.foldl_append, ← first]
        cases e <;> rfl

theorem apply (d : Deed κ ε) {m : Session ρ κ} (whole : m.state.WellFormed) :
    view (d.apply m).state = (d.completions m).foldl next (view m.state) := by
  cases d with
  | loadImage image name => exact recounts.silent (Session.silent_loadImage m image name) whole
  | loadFile disk path name =>
    exact recounts.silent (Session.silent_loadFile m disk path name) whole
  | run around handler fuel =>
    have same := Session.sameMachine_run around handler fuel m
    have state : (Session.run around handler fuel m).2.state =
        (Session.loop around fuel m.openRun).2.state := congrArg (·.state) same.machine
    have opened : m.openRun.state = m.state := rfl
    rw [Deed.apply, state, recounts.loop around fuel (m := m.openRun) whole, opened]
    rfl
  | step around => exact recounts.cycle around whole
  | execute => exact recounts.execute m whole
  | tick => exact recounts.aside m.state _ _ _ _
  | setKeys snapshot => exact recounts.silent (Session.silent_setKeys snapshot m) whole
  | stop reason => exact recounts.silent (Session.sameMachine_requestStop m reason).silent whole
  | elsewhere world => rfl

theorem all (deeds : List (Deed κ ε)) {m : Session ρ κ} (whole : m.state.WellFormed) :
    view (Deed.all deeds m).state = (Deed.past deeds m).foldl next (view m.state) := by
  induction deeds generalizing m with
  | nil => rfl
  | cons d later ih =>
    obtain ⟨trace, trail⟩ := (Deed.act_iff.2 ⟨d, rfl⟩ : Session.Act ε m (d.apply m)).trail
    rw [Deed.past, List.foldl_append, ← recounts.apply d whole]
    exact ih (trail.wellFormed whole)

end Recounts

end Chip8
