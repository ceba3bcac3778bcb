import Chip8.Proofs.Protocol

/-! Cycles by number. A cycle that completes is a turn, whatever its host and observer are: it has
executed one instruction, taken over keys and counted the timers down, and its host, if there is
one, has been called for a frame that was to be shown, for the keys and for a beep. -/
namespace Chip8

theorem Change.bind_eq_ok {σ ε α β : Type} {first : Change σ ε α} {rest : α → Change σ ε β}
    {s u : σ} {b : β} (done : (first >>= rest) s = .ok b u) :
    ∃ a t, first s = .ok a t ∧ rest a t = .ok b u := by
  cases begun : first s with
  | ok a t => exact ⟨a, t, rfl, (bind_of_ok rest begun).symm.trans done⟩
  | error e t =>
    rw [bind_of_error rest begun] at done
    cases done

variable {ρ κ ε α : Type}

namespace Asked

def frame? : Asked → Option Frame
  | render frame => some frame
  | _ => none

def snapshot? : Asked → Option (Array Bool)
  | poll snapshot => snapshot
  | _ => none

end Asked

namespace Recorded

def frames (w : Recorded κ ε) : List Frame := w.hostCalls.filterMap Asked.frame?

def polls (w : Recorded κ ε) : List (Array Bool) := w.hostCalls.filterMap Asked.snapshot?

def beeps (w : Recorded κ ε) : Nat := w.hostCalls.countP (· matches .beep)

end Recorded

namespace Turn

def heard (t : Turn ρ) : List Asked :=
  (if t.executed.state.redraw then [.render t.executed.state.frame] else []) ++
    [.poll (some t.keys.down.toArray)] ++ if t.rings then [.beep] else []

theorem frames_heard (t : Turn ρ) : t.heard.filterMap Asked.frame? =
    if t.executed.state.redraw then [t.executed.state.frame] else [] := by
  unfold heard
  cases t.executed.state.redraw <;> cases t.rings <;> rfl

theorem polls_heard (t : Turn ρ) : t.heard.filterMap Asked.snapshot? = [t.keys.down.toArray] := by
  unfold heard
  cases t.executed.state.redraw <;> cases t.rings <;> rfl

theorem beeps_heard (t : Turn ρ) :
    t.heard.countP (· matches .beep) = if t.rings then 1 else 0 := by
  unfold heard
  cases t.executed.state.redraw <;> cases t.rings <;> rfl

end Turn

namespace Session

theorem becomes_of_call {ask : State → κ → Reply κ ε α} {m k : Session ρ κ} {a : α}
    (done : (call ask : Step ρ κ ε α) m = .ok a k) :
    (ask m.state m.world).value = .ok a ∧ Becomes m m.state (ask m.state m.world).world k := by
  cases given : (ask m.state m.world).value with
  | error e =>
    rw [call_eq, given] at done
    cases done
  | ok b =>
    obtain ⟨j, called, becomes⟩ := call_served m ask given
    cases called.symm.trans done
    exact ⟨rfl, becomes⟩

/-- The machine has come to this state, and the host has been called for this. -/
structure Hears (m : Session ρ (Recorded κ ε)) (state : State) (calls : List Asked)
    (k : Session ρ (Recorded κ ε)) : Prop where
  machine : k.machine = ⟨state, m.random⟩
  calls : k.world.hostCalls = m.world.hostCalls ++ calls

section Attend

variable {host : Option (Host κ ε)} {m k j : Session ρ (Recorded κ ε)} {state final : State}
  {before after : List Asked}

theorem Hears.rest (m : Session ρ (Recorded κ ε)) : Hears m m.state [] m :=
  ⟨rfl, (List.append_nil _).symm⟩

theorem Hears.trans (one : Hears m state before k) (other : Hears k final after j) :
    Hears m final (before ++ after) j where
  machine := by
    have random : k.random = m.random := congrArg (·.random) one.machine
    rw [other.machine, random]
  calls := by rw [other.calls, one.calls, List.append_assoc]

theorem hears_of_recording (asked : State → Option α → Asked) (ask : State → κ → Reply κ ε α) {a : α}
    (done : (call fun s => recording (asked s) (ask s) : Step ρ (Recorded κ ε) ε α) m = .ok a k) :
    Hears m m.state ([asked m.state (some a)].filter Asked.isHost) k := by
  obtain ⟨given, becomes⟩ := becomes_of_call done
  have value : (ask m.state m.world.world).value = .ok a := given
  refine ⟨?_, ?_⟩
  · rw [machine, becomes.state, becomes.random]
  · rw [becomes.world, hostCalls_recording, value]
    rfl

theorem hears_of_observe {observer : Option (State → κ → Reply κ ε Unit)}
    (done : (observe (observer.map fun look s => recording (fun _ => .look) (look s)) :
      Step ρ (Recorded κ ε) ε Unit) m = .ok () k) : Hears m m.state [] k := by
  cases observer with
  | none =>
    cases done
    exact .rest m
  | some look => exact hears_of_recording (fun _ _ => .look) look done

theorem hears_of_present
    (done : (present (host.map Host.recorded) : Step ρ (Recorded κ ε) ε Unit) m = .ok () k) :
    Hears m { m.state with redraw := false }
      (if host.isSome && m.state.redraw then [.render m.state.frame] else []) k := by
  rw [present_eq] at done
  cases shows : m.state.redraw with
  | false =>
    rw [shows, if_neg Bool.false_ne_true] at done
    cases done
    have same : { m.state with redraw := false } = m.state := by rw [← shows]
    rw [Bool.and_false, same]
    exact .rest m
  | true =>
    rw [shows, if_pos rfl] at done
    obtain ⟨_, j, revealed, lowered⟩ := Change.bind_eq_ok done
    cases lowered
    cases host with
    | none =>
      cases revealed
      exact ⟨rfl, (List.append_nil _).symm⟩
    | some h =>
      have heard : Hears m m.state [.render m.state.frame] j :=
        hears_of_recording (fun s _ => .render s.frame) (fun s => h.render s.frame) revealed
      have state : j.state = m.state := congrArg (·.state) heard.machine
      have random : j.random = m.random := congrArg (·.random) heard.machine
      refine ⟨?_, heard.calls⟩
      rw [machine, random, ← state]

theorem hears_of_pollKeys
    (done : (pollKeys (host.map Host.recorded) : Step ρ (Recorded κ ε) ε Unit) m = .ok () k) :
    Hears m { m.state with keys := k.state.keys }
      (if host.isSome then [.poll (some k.state.keys.down.toArray)] else []) k := by
  cases host with
  | none =>
    cases done
    exact .rest m
  | some h =>
    obtain ⟨snapshot, j, polled, taken⟩ := Change.bind_eq_ok done
    have heard : Hears m m.state [.poll (some snapshot)] j :=
      hears_of_recording (fun _ => .poll) (fun _ => h.poll) polled
    have state : j.state = m.state := congrArg (·.state) heard.machine
    have random : j.random = m.random := congrArg (·.random) heard.machine
    unfold setKeys State.setKeys at taken
    cases sixteen : Keys.ofArray? snapshot with
    | none =>
      rw [sixteen] at taken
      cases taken
    | some keys =>
      rw [sixteen] at taken
      cases taken
      rw [← Keys.toArray_of_ofArray? sixteen] at heard
      refine ⟨?_, heard.calls⟩
      rw [machine, random, ← state]

theorem hears_of_tick
    (done : (tick (host.map Host.recorded) : Step ρ (Recorded κ ε) ε Unit) m = .ok () k) :
    Hears m m.state.tick.2 (if host.isSome && m.state.sound == 1 then [.beep] else []) k := by
  have expired : m.state.tick.1 = (m.state.sound == 1) := rfl
  rw [tick_eq, expired] at done
  generalize (m.state.sound == 1) = rings at done ⊢
  cases rings with
  | false =>
    cases done
    rw [Bool.and_false]
    exact ⟨rfl, (List.append_nil _).symm⟩
  | true =>
    cases host with
    | none =>
      cases done
      exact ⟨rfl, (List.append_nil _).symm⟩
    | some h =>
      have heard := hears_of_recording (fun _ _ => .beep) (fun _ => h.beep) done
      exact ⟨heard.machine, heard.calls⟩

end Attend

/-- From a session to the one after a completed cycle, told as a turn. -/
structure Taken (hosted : Bool) (m : Session ρ (Recorded κ ε)) (t : Turn ρ)
    (k : Session ρ (Recorded κ ε)) [RandomSource ρ] : Prop where
  before : t.before = m.machine
  executed : t.before.state.execute t.before.random =
    (.ok t.instruction t.executed.state, t.executed.random)
  after : k.machine = t.after
  last : k.last = some t.instruction
  calls : k.world.hostCalls = m.world.hostCalls ++ if hosted then t.heard else []

variable [RandomSource ρ] {around : Surroundings κ ε}

theorem exists_turn {m k : Session ρ (Recorded κ ε)} (done : cycle around.recorded m = .ok () k) :
    ∃ t, Taken around.host.isSome m t k := by
  rw [cycle_eq] at done
  obtain ⟨_, seen, observed, done⟩ := Change.bind_eq_ok done
  obtain ⟨_, i, executed, done⟩ := Change.bind_eq_ok done
  obtain ⟨_, j, counted, attended⟩ := Change.bind_eq_ok done
  obtain ⟨ins, s, random, performed, rfl⟩ := (execute_eq_ok_iff _ _).1 executed
  cases counted
  have looked := hears_of_observe observed
  have kept := silent_attend around.recorded.host
    { seen with state := s, random, last := some ins, cycles := seen.cycles + 1 }
  rw [Change.after_of_ok attended] at kept
  obtain ⟨_, shown, presented, attended⟩ := Change.bind_eq_ok attended
  obtain ⟨_, keyed, polled, ticked⟩ := Change.bind_eq_ok attended
  have presents := hears_of_present presented
  have polls := hears_of_pollKeys polled
  have ticks := hears_of_tick ticked
  obtain ⟨keys, same⟩ : ∃ keys, keyed.state.keys = keys := ⟨_, rfl⟩
  have lowered : shown.state = { s with redraw := false } := congrArg (·.state) presents.machine
  rw [same, lowered] at polls
  have taken : keyed.state = { s with redraw := false, keys } := congrArg (·.state) polls.machine
  rw [taken] at ticks
  have attends := (presents.trans polls).trans ticks
  have state : seen.state = m.state := congrArg (·.state) looked.machine
  have source : seen.random = m.random := congrArg (·.random) looked.machine
  refine ⟨⟨m.machine, ins, ⟨s, random⟩, keys⟩, ?_⟩
  exact {
    before := rfl
    executed := by
      rw [state, source] at performed
      exact performed
    after := attends.machine
    last := kept.last
    calls := by
      have heard : seen.world.hostCalls = m.world.hostCalls :=
        looked.calls.trans (List.append_nil _)
      rw [attends.calls, heard]
      congr 1
      cases around.host <;> rfl }

section Taken

variable {m k : Session ρ (Recorded κ ε)} {t : Turn ρ}

theorem Taken.performed {hosted : Bool} (taken : Taken hosted m t k) :
    m.state.execute m.random = (.ok t.instruction t.executed.state, t.executed.random) := by
  have executed := taken.executed
  rw [taken.before] at executed
  exact executed

variable (taken : Taken true m t k)
include taken

theorem Taken.frames : k.world.frames = m.world.frames ++
    if t.executed.state.redraw then [t.executed.state.frame] else [] := by
  rw [Recorded.frames, taken.calls, if_pos rfl, List.filterMap_append, t.frames_heard,
    Recorded.frames]

theorem Taken.polls : k.world.polls = m.world.polls ++ [t.keys.down.toArray] := by
  rw [Recorded.polls, taken.calls, if_pos rfl, List.filterMap_append, t.polls_heard,
    Recorded.polls]

theorem Taken.beeps : k.world.beeps = m.world.beeps + if t.rings then 1 else 0 := by
  rw [Recorded.beeps, taken.calls, if_pos rfl, List.countP_append, t.beeps_heard, Recorded.beeps]

end Taken

/-- The session after so many cycles, whether they completed or not. -/
def cycled (around : Surroundings κ ε) (m : Session ρ κ) : Nat → Session ρ κ
  | 0 => m
  | k + 1 => (cycle around).after (cycled around m k)

/-- The first `n` cycles complete. -/
def Completed (around : Surroundings κ ε) (m : Session ρ κ) (n : Nat) : Prop :=
  ∀ k < n, Changed.isOk (cycle around (cycled around m k)) = true

section Completed

variable {m : Session ρ κ} {n k : Nat}

theorem Completed.cycle (completed : Completed around m n) (below : k < n) :
    Session.cycle around (cycled around m k) = .ok () (cycled around m (k + 1)) := by
  have done := completed k below
  cases stepped : Session.cycle around (cycled around m k) with
  | error e j =>
    rw [stepped] at done
    cases done
  | ok _ j => rw [cycled, Change.after_of_ok stepped]

theorem Completed.mono (completed : Completed around m n) (below : k ≤ n) :
    Completed around m k :=
  fun j before => completed j (Nat.lt_of_lt_of_le before below)

theorem Completed.extend {j : Session ρ κ} (completed : Completed around m n)
    (done : Session.cycle around (cycled around m n) = .ok () j) :
    Completed around m (n + 1) ∧ cycled around m (n + 1) = j := by
  refine ⟨fun i below => ?_, Change.after_of_ok done⟩
  obtain before | rfl := Nat.lt_succ_iff_lt_or_eq.1 below
  · exact completed i before
  · rw [done]
    rfl

theorem cycled_cycle (around : Surroundings κ ε) (m : Session ρ κ) (k : Nat) :
    cycled around ((Session.cycle around).after m) k = cycled around m (k + 1) := by
  induction k with
  | zero => rfl
  | succ k ih =>
    rw [cycled, ih]
    rfl

theorem Laps.cycled {begun : List (Session ρ κ)} {failure : Option (Failure ε)} {j : Session ρ κ}
    (laps : Laps around m begun failure j) (clean : failure = none) :
    Completed around m begun.length ∧ j = Session.cycled around m begun.length := by
  induction laps with
  | rest m => exact ⟨nofun, rfl⟩
  | failed => cases clean
  | @lap m k j begun failure done _ ih =>
    obtain ⟨completed, last⟩ := ih clean
    have next (i : Nat) : Session.cycled around m (i + 1) = Session.cycled around k i := by
      rw [← cycled_cycle, Change.after_of_ok done]
    rw [List.length_cons, next]
    refine ⟨fun i below => ?_, last⟩
    cases i with
    | zero =>
      rw [Session.cycled, done]
      rfl
    | succ i =>
      rw [next]
      exact completed i (Nat.lt_of_succ_lt_succ below)

end Completed

theorem Completed.turn {m : Session ρ (Recorded κ ε)} {n k : Nat}
    (completed : Completed around.recorded m n) (below : k < n) :
    ∃ t, Taken around.host.isSome (cycled around.recorded m k) t
      (cycled around.recorded m (k + 1)) :=
  exists_turn (completed.cycle below)

def alone : Surroundings Headless Empty := ⟨none, some Headless.host⟩

end Session

end Chip8
