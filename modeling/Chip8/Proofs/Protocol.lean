import Chip8.Proofs.Laps
import Chip8.Proofs.Recording
import Chip8.World

/-! What a host is asked for in a run. Every completed cycle is a turn of the host: it is shown
the frame if the instruction drew one, polled once, and made to beep if the sound timer runs out.
Of a cycle that fails it hears nothing. -/
namespace Chip8

variable {ρ κ ε α : Type}

/-- A host whose calls succeed in the worlds that it keeps to. It may ask for stops. -/
structure Host.Serves (host : Host κ ε) (Fit : κ → Prop) : Prop where
  render : ∀ f w, Fit w → (host.render f w).value = .ok () ∧ Fit (host.render f w).world
  poll : ∀ w, Fit w → ∃ snapshot, (host.poll w).value = .ok snapshot ∧ Fit (host.poll w).world
  beep : ∀ w, Fit w → (host.beep w).value = .ok () ∧ Fit (host.beep w).world

/-- One whose polls give one entry per key. -/
structure Host.Answers (host : Host κ ε) (Fit : κ → Prop) : Prop extends host.Serves Fit where
  sixteen : ∀ w snapshot, Fit w → (host.poll w).value = .ok snapshot → snapshot.size = 16

theorem Keys.ofArray?_eq_none_iff (snapshot : Array Bool) :
    ofArray? snapshot = Option.none ↔ snapshot.size ≠ 16 := by
  unfold ofArray?
  split <;> simp [*]

theorem Keys.toArray_of_ofArray? {snapshot : Array Bool} {keys : Keys}
    (full : ofArray? snapshot = some keys) : keys.down.toArray = snapshot := by
  unfold ofArray? at full
  split at full
  · cases full
    rfl
  · cases full

namespace Host

def shown (host : Host κ ε) (s : State) (w : κ) : κ :=
  if s.redraw then (host.render s.frame w).world else w

/-- The world after all calls of one cycle. `s` is the machine as its instruction left it. -/
def served (host : Host κ ε) (s : State) (w : κ) : κ :=
  let polled := (host.poll (host.shown s w)).world
  if s.sound == 1 then (host.beep polled).world else polled

variable {host : Host κ ε} {Fit : κ → Prop} {w : κ}

theorem Serves.shown (serves : host.Serves Fit) (s : State) (fit : Fit w) :
    Fit (host.shown s w) := by
  unfold Host.shown
  split
  · exact (serves.render s.frame w fit).2
  · exact fit

theorem Serves.served (serves : host.Serves Fit) (s : State) (fit : Fit w) :
    Fit (host.served s w) := by
  obtain ⟨_, _, polled⟩ := serves.poll _ (serves.shown s fit)
  unfold Host.served
  dsimp only
  split
  · exact (serves.beep _ polled).2
  · exact polled

theorem Answers.recorded (answers : host.Answers Fit) :
    host.recorded.Answers fun w => Fit w.world where
  render f w := answers.render f w.world
  poll w := answers.poll w.world
  beep w := answers.beep w.world
  sixteen w := answers.sixteen w.world

theorem Serves.lift (serves : host.Serves Fit) :
    (World.liftHost host).Serves fun w => Fit w.host where
  render f w := serves.render f w.host
  poll w := serves.poll w.host
  beep w := serves.beep w.host

theorem Answers.lift (answers : host.Answers Fit) :
    (World.liftHost host).Answers fun w => Fit w.host where
  toServes := answers.toServes.lift
  sixteen w := answers.sixteen w.host

end Host

namespace Session

structure Becomes (m : Session ρ κ) (state : State) (world : κ) (k : Session ρ κ) : Prop where
  state : k.state = state
  random : k.random = m.random
  last : k.last = m.last
  cycles : k.cycles = m.cycles
  world : k.world = world

section Serves

variable {host : Host κ ε} {Fit : κ → Prop} (serves : host.Serves Fit) (m : Session ρ κ)

theorem call_served (ask : State → κ → Reply κ ε α) {a : α}
    (ok : (ask m.state m.world).value = .ok a) :
    ∃ k, (call ask : Step ρ κ ε α) m = .ok a k ∧
      Becomes m m.state (ask m.state m.world).world k := by
  have same := sameMachine_receive m (ask m.state m.world)
  refine ⟨m.receive (ask m.state m.world), by rw [call_eq, ok]; rfl, ?_⟩
  exact ⟨congrArg (·.state) same.machine, congrArg (·.random) same.machine, same.last, same.cycles,
    world_receive _ _⟩

include serves

theorem present_served (fit : Fit m.world) :
    ∃ k, (present (some host) : Step ρ κ ε Unit) m = .ok () k ∧
      Becomes m { m.state with redraw := false } (host.shown m.state m.world) k := by
  rw [present_eq, Host.shown]
  cases changed : m.state.redraw with
  | false =>
    have same : m.state = { m.state with redraw := false } := by rw [← changed]
    exact ⟨m, rfl, same, rfl, rfl, rfl, rfl⟩
  | true =>
    obtain ⟨k, shown, becomes⟩ := call_served m (fun s world => host.render s.frame world)
      (serves.render m.state.frame m.world fit).1
    have revealed : (reveal (some host) : Step ρ κ ε Unit) m = .ok () k := shown
    refine ⟨{ k with state := { k.state with redraw := false } }, ?_, ?_⟩
    · rw [if_pos rfl, Change.bind_of_ok _ revealed]
      rfl
    · exact ⟨by rw [becomes.state], becomes.random, becomes.last, becomes.cycles, becomes.world⟩

theorem pollKeys_served (fit : Fit m.world) :
    ∃ snapshot k, (host.poll m.world).value = .ok snapshot ∧
      (pollKeys (some host) : Step ρ κ ε Unit) m = setKeys snapshot k ∧
      Becomes m m.state (host.poll m.world).world k := by
  obtain ⟨snapshot, given, _⟩ := serves.poll m.world fit
  obtain ⟨k, polled, becomes⟩ := call_served m (fun _ world => host.poll world) given
  have opened : (pollKeys (some host) : Step ρ κ ε Unit) m =
      (call (fun _ world => host.poll world) >>= setKeys) m := rfl
  exact ⟨snapshot, k, given, by rw [opened, Change.bind_of_ok _ polled], becomes⟩

theorem tick_served (fit : Fit m.world) :
    ∃ k, (tick (some host) : Step ρ κ ε Unit) m = .ok () k ∧
      Becomes m m.state.tick.2
        (if m.state.sound == 1 then (host.beep m.world).world else m.world) k := by
  rw [tick_eq]
  cases expired : m.state.sound == 1 with
  | false =>
    have silent : m.state.tick.1 = false := expired
    rw [silent]
    exact ⟨_, rfl, rfl, rfl, rfl, rfl, rfl⟩
  | true =>
    have rings : m.state.tick.1 = true := expired
    rw [rings]
    obtain ⟨k, beeped, becomes⟩ := call_served { m with state := m.state.tick.2 }
      (fun _ world => host.beep world) (serves.beep m.world fit).1
    exact ⟨k, beeped, becomes.state, becomes.random, becomes.last, becomes.cycles, becomes.world⟩

theorem attend_served (fit : Fit m.world) :
    ∃ snapshot, (host.poll (host.shown m.state m.world)).value = .ok snapshot ∧
      ((∃ k, snapshot.size ≠ 16 ∧
          (attend (some host) : Step ρ κ ε Unit) m = .error (.fault .keyCount) k) ∨
        ∃ keys k, snapshot = keys.down.toArray ∧
          (attend (some host) : Step ρ κ ε Unit) m = .ok () k ∧
          Becomes m { m.state.tick.2 with redraw := false, keys }
            (host.served m.state m.world) k) := by
  obtain ⟨j, presented, one⟩ := present_served serves m fit
  have shown : Fit j.world := one.world ▸ serves.shown m.state fit
  obtain ⟨snapshot, i, given, polled, two⟩ := pollKeys_served serves j shown
  refine ⟨snapshot, one.world ▸ given, ?_⟩
  cases taken : Keys.ofArray? snapshot with
  | none =>
    have refused : (pollKeys (some host) : Step ρ κ ε Unit) j = .error (.fault .keyCount) i := by
      simp only [polled, setKeys, State.setKeys, taken]
    refine .inl ⟨i, (Keys.ofArray?_eq_none_iff snapshot).1 taken, ?_⟩
    rw [attend, Change.bind_of_ok _ presented, Change.bind_of_error _ refused]
  | some keys =>
    have accepted : (pollKeys (some host) : Step ρ κ ε Unit) j =
        .ok () { i with state := { i.state with keys } } := by
      simp only [polled, setKeys, State.setKeys, taken]
    have fit : Fit i.world := by
      obtain ⟨_, _, fit⟩ := serves.poll j.world shown
      exact two.world ▸ fit
    obtain ⟨k, ticked, three⟩ := tick_served serves { i with state := { i.state with keys } } fit
    refine .inr ⟨keys, k, (Keys.toArray_of_ofArray? taken).symm, ?_, ?_, ?_, ?_, ?_, ?_⟩
    · rw [attend, Change.bind_of_ok _ presented, Change.bind_of_ok _ accepted, ticked]
    · rw [three.state, two.state, one.state]
      rfl
    · rw [three.random, two.random, one.random]
    · rw [three.last, two.last, one.last]
    · rw [three.cycles, two.cycles, one.cycles]
    · rw [three.world, two.state, two.world, one.state, one.world]
      rfl

theorem attend_answered (sixteen : ∀ w snapshot, Fit w → (host.poll w).value = .ok snapshot →
    snapshot.size = 16) (fit : Fit m.world) :
    ∃ keys k, (host.poll (host.shown m.state m.world)).value = .ok keys.down.toArray ∧
      (attend (some host) : Step ρ κ ε Unit) m = .ok () k ∧
      Becomes m { m.state.tick.2 with redraw := false, keys }
        (host.served m.state m.world) k := by
  obtain ⟨snapshot, given, ⟨_, wrong, _⟩ | ⟨keys, k, rfl, attended, becomes⟩⟩ :=
    attend_served serves m fit
  · exact absurd (sixteen _ _ (serves.shown m.state fit) given) wrong
  · exact ⟨keys, k, given, attended, becomes⟩

end Serves

end Session

/-- One completed cycle: the machine before its instruction and after it, and the keys that were
polled then. -/
structure Turn (ρ : Type) where
  before : Machine ρ
  instruction : Instruction
  executed : Machine ρ
  keys : Keys

def Instruction.draws (ins : Instruction) : Bool :=
  match ins.operation with
  | .clear | .draw => true
  | _ => false

namespace Turn

def after (t : Turn ρ) : Machine ρ :=
  ⟨{ t.executed.state.tick.2 with redraw := false, keys := t.keys }, t.executed.random⟩

def rings (t : Turn ρ) : Bool := t.executed.state.sound == 1

def runsOut (t : Turn ρ) : Bool := t.executed.state.sound == 1 && t.after.state.sound == 0

def calls (t : Turn ρ) : List Asked :=
  (if t.instruction.draws then [.render t.executed.state.frame] else []) ++
    [.poll (some t.keys.down.toArray)] ++ if t.rings then [.beep] else []

theorem runsOut_eq_rings (t : Turn ρ) : t.runsOut = t.rings := by
  cases expired : t.executed.state.sound == 1 with
  | false => simp [runsOut, rings, expired]
  | true =>
    have sound : t.executed.state.sound = 1 := by simpa using expired
    simp [runsOut, rings, after, State.tick, State.countDown, sound]

end Turn

theorem State.redraw_execute [RandomSource ρ] {s t : State} {r after : ρ} {ins : Instruction}
    (whole : s.WellFormed) (done : s.execute r = (.ok ins t, after)) :
    t.redraw = (ins.draws || s.redraw) := by
  obtain ⟨_, _, drawn, _, rfl⟩ := (execute_eq_ok_iff whole _ _ _ _).1 done
  rw [effect, redrawAfter, Instruction.draws]
  cases ins.operation <;> rfl

theorem State.frame_execute [RandomSource ρ] {s t : State} {r after : ρ} {ins : Instruction}
    (whole : s.WellFormed) (done : s.execute r = (.ok ins t, after)) (draws : ins.draws = false) :
    t.frame = s.frame := by
  obtain ⟨_, _, drawn, _, rfl⟩ := (execute_eq_ok_iff whole _ _ _ _).1 done
  rw [Instruction.draws] at draws
  rw [effect, frameAfter]
  split at draws <;> simp_all

/-- Turns one after the other, in which the machine does what its instructions say. -/
inductive Turns [RandomSource ρ] : Machine ρ → List (Turn ρ) → Machine ρ → Prop
  | rest (a : Machine ρ) : Turns a [] a
  | turn {t : Turn ρ} {later : List (Turn ρ)} {b : Machine ρ}
      (executed : t.before.state.execute t.before.random =
        (.ok t.instruction t.executed.state, t.executed.random))
      (rest : Turns t.after later b) : Turns t.before (t :: later) b

namespace Session

section Answered

variable [RandomSource ρ] {host : Host κ ε} {Fit : κ → Prop} {around : Surroundings κ ε}
  {m : Session ρ κ}

def noticed (around : Surroundings κ ε) (m : Session ρ κ) : κ :=
  ((observe around.observer : Step ρ κ ε Unit).after m).world

/-- The instruction of the cycle that begins here, and the machine as it leaves it. -/
def executed? (around : Surroundings κ ε) (m : Session ρ κ) : Option (Instruction × State) :=
  match observe around.observer m with
  | .error _ _ => none
  | .ok _ seen =>
    match seen.state.execute seen.random with
    | (.ok ins s, _) => some (ins, s)
    | (.error _ _, _) => none

/-- From a session to the one after a completed cycle, whose host has answered. -/
structure Answered (around : Surroundings κ ε) (host : Host κ ε) (m : Session ρ κ) (t : Turn ρ)
    (k : Session ρ κ) : Prop where
  before : t.before = m.machine
  executed : t.before.state.execute t.before.random =
    (.ok t.instruction t.executed.state, t.executed.random)
  told : executed? around m = some (t.instruction, t.executed.state)
  polled : (host.poll (host.shown t.executed.state (noticed around m))).value =
    .ok t.keys.down.toArray
  after : k.machine = t.after
  cycles : k.cycles = m.cycles + 1
  world : k.world = host.served t.executed.state (noticed around m)

theorem cycle_answered (answers : host.Answers Fit) (hosted : around.host = some host)
    (whole : m.state.WellFormed) (fit : Fit (noticed around m)) :
    (executed? around m = none ∧ ∃ e k, cycle around m = .error e k ∧ k.state = m.state ∧
      k.cycles = m.cycles ∧ k.world = noticed around m) ∨
    ∃ t k, cycle around m = .ok () k ∧ Answered around host m t k := by
  have same := sameMachine_observe around.observer m
  cases observed : observe around.observer m with
  | error e seen =>
    have world : noticed around m = seen.world := by rw [noticed, Change.after_of_error observed]
    have untold : executed? around m = none := by rw [executed?, observed]
    rw [Change.after_of_error observed] at same
    exact .inl ⟨untold, e, seen, cycle_of_unseen observed, congrArg (·.state) same.machine,
      same.cycles, world.symm⟩
  | ok _ seen =>
    have world : noticed around m = seen.world := by rw [noticed, Change.after_of_ok observed]
    rw [Change.after_of_ok observed] at same
    have state : seen.state = m.state := congrArg (·.state) same.machine
    have whole : seen.state.WellFormed := state ▸ whole
    cases executed : (execute : Step ρ κ ε Unit) seen with
    | error e k =>
      obtain ⟨f, t, random, refused, _, rfl⟩ := (execute_eq_error_iff _ _ _).1 executed
      have untold : executed? around m = none := by simp only [executed?, observed, refused]
      have kept := State.execute_error_state whole refused
      exact .inl ⟨untold, e, _, cycle_of_refused observed executed, kept.trans state, same.cycles,
        world.symm⟩
    | ok _ k =>
      obtain ⟨ins, s, random, done, rfl⟩ := (execute_eq_ok_iff _ _).1 executed
      obtain ⟨keys, k, given, attended, becomes⟩ := attend_answered answers.toServes
        { seen with state := s, random, last := some ins, cycles := seen.cycles + 1 }
        answers.sixteen (world ▸ fit)
      refine .inr ⟨⟨seen.machine, ins, ⟨s, random⟩, keys⟩, k, ?_, ?_⟩
      · rw [cycle_of_executed observed executed, hosted]
        exact attended
      · exact {
          before := same.machine
          executed := done
          told := by simp only [executed?, observed, done]
          polled := world ▸ given
          after := by rw [machine, becomes.state, becomes.random]; rfl
          cycles := by rw [becomes.cycles, same.cycles]
          world := by rw [world, becomes.world] }

end Answered

end Session

def Recorded.hostCalls (w : Recorded κ ε) : List Asked :=
  (w.calls.map Call.asked).filter Asked.isHost

theorem hostCalls_recording (asked : Option α → Asked) (ask : κ → Reply κ ε α)
    (w : Recorded κ ε) :
    (recording asked ask w).world.hostCalls =
      w.hostCalls ++ [asked (ask w.world).value.toOption].filter Asked.isHost := by
  simp [recording, Recorded.hostCalls]

theorem Host.hostCalls_served {host : Host κ ε} (s : State) (w : Recorded κ ε) {keys : Keys}
    (given : (host.recorded.poll (host.recorded.shown s w)).value = .ok keys.down.toArray) :
    (host.recorded.served s w).hostCalls = w.hostCalls ++
      ((if s.redraw then [.render s.frame] else []) ++ [.poll (some keys.down.toArray)] ++
        if s.sound == 1 then [.beep] else []) := by
  have shown : (host.recorded.shown s w).hostCalls =
      w.hostCalls ++ if s.redraw then [.render s.frame] else [] := by
    unfold Host.shown
    split
    · exact hostCalls_recording _ _ _
    · simp
  have polled (v : Recorded κ ε) (given : (host.poll v.world).value = .ok keys.down.toArray) :
      (host.recorded.poll v).world.hostCalls = v.hostCalls ++ [.poll (some keys.down.toArray)] := by
    have called := hostCalls_recording .poll host.poll v
    rw [given] at called
    exact called
  unfold Host.served
  dsimp only
  split
  · have beeped (v : Recorded κ ε) :
        (host.recorded.beep v).world.hostCalls = v.hostCalls ++ [.beep] :=
      hostCalls_recording _ _ _
    simp only [beeped, polled _ given, shown, List.append_assoc]
  · simp only [polled _ given, shown, List.append_assoc, List.append_nil]

namespace Session

variable {observer : Option (State → κ → Reply κ ε Unit)} {Fit : κ → Prop}

theorem noticed_recorded [RandomSource ρ] (host : Option (Host κ ε))
    (keeps : ∀ look ∈ observer, ∀ s w, Fit w → Fit (look s w).world)
    (m : Session ρ (Recorded κ ε)) (fit : Fit m.world.world) :
    let seen := noticed (Surroundings.recorded ⟨observer, host⟩) m
    Fit seen.world ∧ seen.hostCalls = m.world.hostCalls := by
  cases observer with
  | none => exact ⟨fit, rfl⟩
  | some look =>
    have called : noticed (Surroundings.recorded ⟨some look, host⟩) m =
        (recording (fun _ => .look) (look m.state) m.world).world :=
      (congrArg (·.world) (after_call (fun s => recording (fun _ => .look) (look s)) m)).trans
        (world_receive _ _)
    rw [called]
    refine ⟨keeps look rfl m.state m.world.world fit, ?_⟩
    rw [hostCalls_recording]
    exact List.append_nil _

variable [RandomSource ρ] {host : Host κ ε} {m k : Session ρ (Recorded κ ε)}

theorem cycle_turn (answers : host.Answers Fit)
    (keeps : ∀ look ∈ observer, ∀ s w, Fit w → Fit (look s w).world)
    (whole : m.state.WellFormed) (calm : m.state.redraw = false) (fit : Fit m.world.world) :
    (∃ e k, cycle (Surroundings.recorded ⟨observer, some host⟩) m = .error e k ∧
      k.state = m.state ∧ k.cycles = m.cycles ∧ k.world.hostCalls = m.world.hostCalls) ∨
    ∃ t k, cycle (Surroundings.recorded ⟨observer, some host⟩) m = .ok () k ∧
      Answered (Surroundings.recorded ⟨observer, some host⟩) host.recorded m t k ∧
      k.world.hostCalls = m.world.hostCalls ++ t.calls ∧ Fit k.world.world := by
  obtain ⟨fit, unheard⟩ := noticed_recorded (some host) keeps m fit
  obtain ⟨_, e, k, failed, state, cycles, world⟩ | ⟨t, k, done, answered⟩ :=
    cycle_answered answers.recorded rfl whole fit
  · exact .inl ⟨e, k, failed, state, cycles, world ▸ unheard⟩
  · refine .inr ⟨t, k, done, answered, ?_, ?_⟩
    · have redraw : t.executed.state.redraw = t.instruction.draws := by
        have whole : t.before.state.WellFormed := answered.before ▸ whole
        have calm : t.before.state.redraw = false := answered.before ▸ calm
        rw [State.redraw_execute whole answered.executed, calm, Bool.or_false]
      rw [answered.world, Host.hostCalls_served _ _ answered.polled, unheard, redraw]
      rfl
    · rw [answered.world]
      exact answers.recorded.toServes.served _ fit

theorem Laps.turns (answers : host.Answers Fit)
    (keeps : ∀ look ∈ observer, ∀ s w, Fit w → Fit (look s w).world)
    {begun : List (Session ρ (Recorded κ ε))} {failure : Option (Failure ε)}
    (laps : Laps (Surroundings.recorded ⟨observer, some host⟩) m begun failure k)
    (whole : m.state.WellFormed) (calm : m.state.redraw = false) (fit : Fit m.world.world) :
    ∃ turns last, Turns m.machine turns last ∧ k.state = last.state ∧
      k.cycles = m.cycles + turns.length ∧
      k.world.hostCalls = m.world.hostCalls ++ turns.flatMap Turn.calls := by
  induction laps with
  | rest m => exact ⟨[], m.machine, .rest _, rfl, rfl, (List.append_nil _).symm⟩
  | @failed m k e failed =>
    obtain ⟨_, _, stepped, state, cycles, calls⟩ | ⟨_, _, stepped, _⟩ :=
      cycle_turn answers keeps whole calm fit
    · rw [failed] at stepped
      cases stepped
      exact ⟨[], m.machine, .rest _, state, cycles, by rw [calls]; exact (List.append_nil _).symm⟩
    · rw [failed] at stepped
      cases stepped
  | @lap m k j begun failure done _ ih =>
    obtain ⟨_, _, stepped, _⟩ | ⟨t, _, stepped, answered, calls, fit⟩ :=
      cycle_turn answers keeps whole calm fit
    · rw [done] at stepped
      cases stepped
    · rw [done] at stepped
      cases stepped
      obtain ⟨ins, _, advances⟩ := cycle_ok done
      have still : k.state.redraw = false := congrArg (·.state.redraw) answered.after
      obtain ⟨turns, last, rest, state, cycles, later⟩ :=
        ih (advances.trail.wellFormed whole) still fit
      refine ⟨t :: turns, last, ?_, state, ?_, ?_⟩
      · rw [answered.after] at rest
        exact answered.before ▸ .turn answered.executed rest
      · rw [cycles, answered.cycles, List.length_cons]
        omega
      · rw [later, calls, List.flatMap_cons, List.append_assoc]

end Session

section Counting

theorem countP_calls {p : Asked → Bool} {q : Turn ρ → Bool}
    (one : ∀ t : Turn ρ, t.calls.countP p = if q t then 1 else 0) (turns : List (Turn ρ)) :
    (turns.flatMap Turn.calls).countP p = turns.countP q := by
  induction turns with
  | nil => rfl
  | cons t later ih =>
    rw [List.flatMap_cons, List.countP_append, one, ih, List.countP_cons, Nat.add_comm]

theorem countP_polls (turns : List (Turn ρ)) :
    (turns.flatMap Turn.calls).countP (· matches .poll _) = turns.length := by
  rw [countP_calls (q := fun _ => true), List.countP_true]
  intro t
  unfold Turn.calls
  cases t.instruction.draws <;> cases t.rings <;> rfl

theorem countP_renders (turns : List (Turn ρ)) :
    (turns.flatMap Turn.calls).countP (· matches .render _) =
      turns.countP (·.instruction.draws) := by
  refine countP_calls (fun t => ?_) turns
  unfold Turn.calls
  cases t.instruction.draws <;> cases t.rings <;> rfl

theorem countP_beeps (turns : List (Turn ρ)) :
    (turns.flatMap Turn.calls).countP (· matches .beep) = turns.countP Turn.runsOut := by
  refine countP_calls (fun t => ?_) turns
  rw [Turn.runsOut_eq_rings]
  unfold Turn.calls
  cases t.instruction.draws <;> cases t.rings <;> rfl

theorem Turns.head [RandomSource ρ] {t : Turn ρ} {later : List (Turn ρ)} {a b : Machine ρ}
    (chain : Turns a (t :: later) b) : t.before = a := by
  cases chain
  rfl

theorem Turns.next [RandomSource ρ] {first later : List (Turn ρ)} {t u : Turn ρ} {a b : Machine ρ}
    (chain : Turns a (first ++ t :: u :: later) b) : u.before = t.after := by
  induction first generalizing a with
  | nil =>
    cases chain with
    | turn _ rest => exact rest.head
  | cons v first ih =>
    cases chain with
    | turn _ rest => exact ih rest

end Counting

namespace Session

variable [RandomSource ρ] {host : Host κ ε} {Fit : κ → Prop}

/-- The calls that a host gets in a run that begins with nothing to show, in the order in which
they come: turn after turn, each with the keys that were polled in the turn before it. -/
theorem host_called_in_turns (answers : host.Answers Fit)
    (observer : Option (State → κ → Reply κ ε Unit))
    (keeps : ∀ look ∈ observer, ∀ s w, Fit w → Fit (look s w).world)
    (handler : Option (Fault → κ → Reply κ ε Unit)) (fuel : Nat) {m : Session ρ κ}
    (whole : m.state.WellFormed) (calm : m.state.redraw = false) (fit : Fit m.world) :
    ∃ k turns last,
      (run (Surroundings.recorded ⟨observer, some host⟩) (handler.map recordedHandler) fuel
        m.recorded).2 = k ∧
      k.forget = (run ⟨observer, some host⟩ handler fuel m).2 ∧
      Turns m.machine turns last ∧ k.state = last.state ∧ k.cycles = m.cycles + turns.length ∧
      k.world.hostCalls = turns.flatMap Turn.calls ∧
      (∀ first t u later, turns = first ++ t :: u :: later → u.before.state.keys = t.keys) ∧
      k.world.hostCalls.countP (· matches .poll _) = turns.length ∧
      k.world.hostCalls.countP (· matches .render _) = turns.countP (·.instruction.draws) ∧
      k.world.hostCalls.countP (· matches .beep) = turns.countP Turn.runsOut := by
  have forgets := run_forgets ⟨observer, some host⟩ handler fuel m.recorded
  have plain : m.recorded.forget (ε := ε) = m := rfl
  rw [plain] at forgets
  obtain ⟨begun, failure, laps⟩ :=
    exists_laps (Surroundings.recorded ⟨observer, some host⟩) fuel m.recorded.openRun
  have closed := run_follows
    (R := fun a b : Session ρ (Recorded κ ε) =>
      b.state = a.state ∧ b.cycles = a.cycles ∧ b.world.hostCalls = a.world.hostCalls)
    (fun _ _ _ one other => ⟨other.1.trans one.1, other.2.1.trans one.2.1, other.2.2.trans one.2.2⟩)
    (fun _ _ _ _ _ => ⟨rfl, rfl, rfl⟩)
    (handler.map recordedHandler) (by
      intro h member f a
      obtain ⟨h, _, rfl⟩ := Option.map_eq_some_iff.1 member
      have same := sameMachine_receive a (recordedHandler h f a.world)
      rw [after_call]
      refine ⟨congrArg (·.state) same.machine, same.cycles, ?_⟩
      rw [world_receive, recordedHandler, hostCalls_recording]
      exact List.append_nil _)
    (Surroundings.recorded ⟨observer, some host⟩) fuel m.recorded
  obtain ⟨turns, last, chain, state, cycles, calls⟩ := laps.turns answers keeps whole calm fit
  have written : (loop (Surroundings.recorded ⟨observer, some host⟩) fuel
      m.recorded.openRun).2.world.hostCalls = turns.flatMap Turn.calls := calls
  have told := closed.2.2.trans written
  refine ⟨_, turns, last, rfl, (congrArg Prod.snd forgets).symm, chain, closed.1.trans state,
    closed.2.1.trans cycles, told, ?_, ?_, ?_, ?_⟩
  · rintro first t u later rfl
    rw [chain.next]
    rfl
  · rw [told, countP_polls]
  · rw [told, countP_renders]
  · rw [told, countP_beeps]

def clearing : Session Script Headless :=
  ((start (Script.ofArray #[]) Headless.fresh).loadImage [0x00, 0xE0] []).2

theorem headless_answers :
    (Headless.host : Host Headless ε).Answers fun h => h.keys.size = 16 where
  render _ _ full := ⟨rfl, full⟩
  poll h full := ⟨h.keys, rfl, full⟩
  beep _ full := ⟨rfl, full⟩
  sixteen := by
    rintro h _ full ⟨⟩
    exact full

theorem clearing_is_shown :
    ∃ t : Turn Script, t.before = clearing.machine ∧
      (run (Surroundings.recorded ⟨none, some (Headless.host : Host Headless Empty)⟩) none 1
        clearing.recorded).2.world.hostCalls = t.calls := by
  have loaded : Silent (start (Script.ofArray #[]) Headless.fresh) clearing :=
    silent_loadImage _ _ _
  have whole : clearing.state.WellFormed :=
    loaded.trail.wellFormed State.sound_initial.toWellFormed
  have calm : clearing.state.redraw = false := by decide +kernel
  have full : clearing.world.keys.size = 16 := by decide +kernel
  have cycles : (run ⟨none, some (Headless.host : Host Headless Empty)⟩ none 1 clearing).2.cycles =
      clearing.cycles + 1 := by decide +kernel
  obtain ⟨k, turns, last, ended, forgets, chain, _, counted, calls, _⟩ :=
    host_called_in_turns (headless_answers (ε := Empty)) none nofun none 1 whole calm full
  rw [← forgets] at cycles
  have single : turns.length = 1 := Nat.add_left_cancel (counted.symm.trans cycles)
  obtain ⟨t, rfl⟩ := List.length_eq_one_iff.1 single
  rw [Option.map_none] at ended
  refine ⟨t, chain.head, ?_⟩
  rw [ended, calls]
  exact List.append_nil _

end Session

end Chip8
