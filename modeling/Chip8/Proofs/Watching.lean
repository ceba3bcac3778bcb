import Chip8.Proofs.Lifecycle
import Chip8.Proofs.Observers
import Chip8.Proofs.Protocol

/-! Watched runs beside unwatched cycles. An observer sees the machine and may end the run, but as
long as it does not, the machine, its host and its source of randomness go on as they would have
gone on alone. -/
namespace Chip8

variable {ρ η ε α : Type}

structure Host.Quiet (host : Host η ε) (Fit : η → Prop) : Prop extends host.Serves Fit where
  render_stops : ∀ f w, Fit w → (host.render f w).stops = []
  poll_stops : ∀ w, Fit w → (host.poll w).stops = []
  beep_stops : ∀ w, Fit w → (host.beep w).stops = []

def Changed.failure? {σ : Type} : Changed σ ε α → Option ε
  | .ok _ _ => none
  | .error e _ => some e

namespace Session

/-- Whom a session calls if it is left alone with its host. -/
def unwatched (host : Option (Host η ε)) : Surroundings (World η) ε :=
  ⟨none, host.map World.liftHost⟩

section Unobserved

variable [RandomSource ρ] (host : Option (Host η ε)) (m : Session ρ (World η))

def unobserved : Nat → Session ρ (World η)
  | 0 => m
  | k + 1 => (cycle (unwatched host)).after (unobserved k)

def counters (k : Nat) : Int := (unobserved host m k).state.pc

/-- No leaf of the observer fires before cycle `k`, and alone it completes. -/
def Uneventful (o : Observer) (k : Nat) : Prop :=
  o.voices (counters host m) k = [] ∧
    Changed.failure? (cycle (unwatched host) (unobserved host m k)) = none

end Unobserved

/-- A watched session and one that is left alone, which have come to the same. The watched one
may have been asked to stop. -/
structure Twin (Fit : η → Prop) (seen : Option Observer) (asked : Option CodePoints)
    (w a : Session ρ (World η)) : Prop where
  same : SameMachine w a
  host : a.world.host = w.world.host
  fit : Fit w.world.host
  observer : w.world.observer = seen
  pending : w.pending = asked

section Twin

variable {Fit : η → Prop} {seen : Option Observer} {asked : Option CodePoints}
  {host : Option (Host η ε)}

theorem coupling_twin :
    Coupling (Twin Fit seen asked : Session ρ (World η) → Session ρ (World η) → Prop) where
  state twin := congrArg (·.state) twin.same.machine
  random twin := congrArg (·.random) twin.same.machine
  moved state twin :=
    have random := congrArg (·.random) twin.same.machine
    { twin with same := ⟨congrArg (Machine.mk state) random, twin.same.last, twin.same.cycles⟩ }
  executed _ _ _ twin := { twin with same := ⟨rfl, rfl, twin.same.cycles⟩ }
  refused _ _ twin := { twin with same := ⟨rfl, twin.same.last, twin.same.cycles⟩ }
  counted twin :=
    have cycles := congrArg (· + 1) twin.same.cycles
    { twin with same := ⟨twin.same.machine, twin.same.last, cycles⟩ }

theorem matches_ofHost (ask : State → η → Reply η ε α)
    (quiet : ∀ s w, Fit w → Fit (ask s w).world ∧ (ask s w).stops = []) :
    Change.Matches (Twin Fit seen asked)
      (call fun s w => w.ofHost (ask s w.host) : Step ρ (World η) ε α)
      (call fun s w => w.ofHost (ask s w.host)) := by
  refine matches_call fun w a twin => ?_
  obtain ⟨fit, unstopped⟩ := quiet w.state w.world.host twin.fit
  have state : a.state = w.state := congrArg (·.state) twin.same.machine
  have given : ask a.state a.world.host = ask w.state w.world.host := by rw [state, twin.host]
  have ours := sameMachine_receive w (w.world.ofHost (ask w.state w.world.host))
  have theirs := sameMachine_receive a (a.world.ofHost (ask a.state a.world.host))
  refine ⟨(congrArg Reply.value given.symm :), ?_⟩
  exact {
    same := (ours.symm.trans twin.same).trans theirs
    host := by
      rw [world_receive, world_receive]
      exact congrArg Reply.world given
    fit := by
      rw [world_receive]
      exact fit
    observer := by
      rw [world_receive]
      exact twin.observer
    pending := by
      have none : (w.world.ofHost (ask w.state w.world.host)).stops = [] := unstopped
      rw [pending_receive, twin.pending, none]
      exact Option.or_none }

theorem hostsMatch_twin (quiet : ∀ h ∈ host, h.Quiet Fit) :
    Option.Rel (HostsMatch (Twin Fit seen asked :
        Session ρ (World η) → Session ρ (World η) → Prop))
      (host.map World.liftHost) (host.map World.liftHost) := by
  cases host with
  | none => exact .none
  | some h =>
    have quiet := quiet h rfl
    refine .some ⟨?_, ?_, ?_⟩
    · exact matches_ofHost (fun s w => h.render s.frame w) fun s w fit =>
        ⟨(quiet.render s.frame w fit).2, quiet.render_stops s.frame w fit⟩
    · refine matches_ofHost (fun _ w => h.poll w) fun _ w fit => ⟨?_, quiet.poll_stops w fit⟩
      obtain ⟨_, _, fit⟩ := quiet.poll w fit
      exact fit
    · exact matches_ofHost (fun _ w => h.beep w) fun _ w fit =>
        ⟨(quiet.beep w fit).2, quiet.beep_stops w fit⟩

variable [RandomSource ρ] {w a : Session ρ (World η)} {o : Observer}

theorem cycle_twin (quiet : ∀ h ∈ host, h.Quiet Fit) (whole : w.state.WellFormed)
    (twin : Twin Fit (some o) none w a) {n : Notice Observer}
    (noticed : o.notice w.world.threshold w.state = n) :
    Change.Alike (Twin Fit (some n.observer) n.stops.head?)
      (cycle (World.surroundings host) w) (cycle (unwatched host) a) := by
  have spoken : o.Spoken (fun _ => w.state.pc) n :=
    noticed ▸ o.spoken_notice w.world.threshold whole rfl
  have reply : (World.notice w.state w.world : Reply (World η) ε Unit) =
      ⟨{ w.world with observer := some n.observer }, n.stops, n.reports, .ok ()⟩ := by
    simp only [World.notice, twin.observer, noticed, spoken.fault]
  have looked : (observe (World.surroundings host).observer : Step ρ (World η) ε Unit) w =
      .ok () (w.receive (World.notice w.state w.world : Reply (World η) ε Unit)) := by
    have called : (observe (World.surroundings host).observer : Step ρ (World η) ε Unit) w =
        call World.notice w := rfl
    rw [called, call_eq, reply]
    rfl
  have same := sameMachine_receive w (World.notice w.state w.world : Reply (World η) ε Unit)
  rw [cycle_eq_proceed, cycle_eq_proceed, Change.bind_of_ok _ looked]
  refine coupling_twin.proceed (hostsMatch_twin quiet) _ _ ?_
  exact {
    same := same.symm.trans twin.same
    host := by
      rw [world_receive, World.notice_host]
      exact twin.host
    fit := by
      rw [world_receive, World.notice_host]
      exact twin.fit
    observer := by rw [world_receive, reply]
    pending := by
      rw [pending_receive, twin.pending, reply]
      exact Option.none_or }

theorem loop_uneventful (quiet : ∀ h ∈ host, h.Quiet Fit) {m : Session ρ (World η)}
    (twin : Twin Fit (some o) none w m) (whole : w.state.WellFormed) (n : Nat)
    (calm : ∀ k < n, Uneventful host m o k) (fuel : Nat) :
    ∃ v p, loop (World.surroundings host) (n + fuel) w = loop (World.surroundings host) fuel v ∧
      Twin Fit (some p) none v (unobserved host m n) ∧ v.state.WellFormed ∧
      ∀ k, p.voices (fun i => counters host m (n + i)) k = o.voices (counters host m) (n + k) := by
  induction n generalizing fuel with
  | zero =>
    refine ⟨w, o, by rw [Nat.zero_add], twin, whole, fun k => ?_⟩
    simp only [Nat.zero_add]
  | succ n ih =>
    obtain ⟨v, p, same, twin, whole, voices⟩ :=
      ih (fun k below => calm k (Nat.lt_succ_of_lt below)) (fuel + 1)
    obtain ⟨unsaid, completes⟩ := calm n (Nat.lt_succ_self n)
    have state : (unobserved host m n).state = v.state := congrArg (·.state) twin.same.machine
    have spoken : p.Spoken (fun i => counters host m (n + i))
        (p.notice v.world.threshold v.state) :=
      p.spoken_notice v.world.threshold whole (congrArg (·.pc) state)
    have unasked : (p.notice v.world.threshold v.state).stops.head? = none := by
      rw [spoken.stops, voices, Nat.add_zero, unsaid]
      rfl
    have step := cycle_twin quiet whole twin rfl
    have next : unobserved host m (n + 1) = (cycle (unwatched host)).after (unobserved host m n) :=
      rfl
    rw [Change.after] at next
    generalize stepped : cycle (World.surroundings host) v = x at step
    generalize alone : cycle (unwatched host) (unobserved host m n) = y at step completes next
    cases step with
    | error e _ => cases completes
    | @ok u _ _ twin' =>
      have going : v.stopping = false := pending_eq_none_iff.1 twin.pending
      obtain ⟨_, _, advances⟩ := cycle_ok stepped
      refine ⟨u, (p.notice v.world.threshold v.state).observer, ?_, ?_,
        advances.trail.wellFormed whole, fun k => ?_⟩
      · rw [Nat.succ_add, ← Nat.add_succ, same, loop_of_done going stepped]
      · rw [unasked] at twin'
        rw [next]
        exact twin'
      · have shifted : (fun i => counters host m (n + 1 + i)) =
            fun i => counters host m (n + (i + 1)) := by
          funext i
          rw [Nat.add_assoc, Nat.add_comm 1]
        rw [shifted, spoken.later, voices, Nat.add_assoc, Nat.add_comm 1]

theorem loop_eventful (quiet : ∀ h ∈ host, h.Quiet Fit) {m : Session ρ (World η)}
    (twin : Twin Fit (some o) none w m) (whole : w.state.WellFormed) (n : Nat)
    (calm : ∀ k < n, Uneventful host m o k) (eventful : ¬ Uneventful host m o n) (fuel : Nat) :
    let failure := Changed.failure? (cycle (unwatched host) (unobserved host m n))
    ∃ p k, Twin Fit (some p) (o.voices (counters host m) n).head? k (unobserved host m (n + 1)) ∧
      ((∃ e, failure = some e ∧
          loop (World.surroundings host) (n + 1 + fuel) w = (.ofFailure e, k)) ∨
        (failure = none ∧ k.stopping = true ∧
          loop (World.surroundings host) (n + 1 + fuel) w = (.stopped, k))) := by
  intro failure
  obtain ⟨v, p, same, twin, whole, voices⟩ := loop_uneventful quiet twin whole n calm (fuel + 1)
  have going : v.stopping = false := pending_eq_none_iff.1 twin.pending
  have state : (unobserved host m n).state = v.state := congrArg (·.state) twin.same.machine
  have spoken : p.Spoken (fun i => counters host m (n + i))
      (p.notice v.world.threshold v.state) :=
    p.spoken_notice v.world.threshold whole (congrArg (·.pc) state)
  have said : (p.notice v.world.threshold v.state).stops = o.voices (counters host m) n := by
    rw [spoken.stops, voices, Nat.add_zero]
  have step := cycle_twin quiet whole twin rfl
  rw [Nat.add_right_comm, Nat.add_assoc, same]
  rw [said] at step
  refine ⟨(p.notice v.world.threshold v.state).observer, ?_⟩
  cases alone : cycle (unwatched host) (unobserved host m n) with
  | ok _ a =>
    have next : unobserved host m (n + 1) = a := Change.after_of_ok alone
    have completes : failure = none := by simp only [failure, alone]; rfl
    rw [alone] at step
    generalize stepped : cycle (World.surroundings host) v = x at step
    cases step with
    | @ok k _ _ twin =>
      have asked : o.voices (counters host m) n ≠ [] := fun unsaid => eventful ⟨unsaid, completes⟩
      obtain ⟨reason, rest, said⟩ := List.exists_cons_of_ne_nil asked
      have stopping : k.stopping = true := by
        have pending : k.pending = some reason := by rw [twin.pending, said]; rfl
        exact (pending_eq_some_iff.1 pending).1
      refine ⟨k, next ▸ twin, .inr ⟨completes, stopping, ?_⟩⟩
      rw [loop_of_done going stepped, loop_of_stopping stopping]
  | error e a =>
    have next : unobserved host m (n + 1) = a := Change.after_of_error alone
    have fails : failure = some e := by simp only [failure, alone]; rfl
    rw [alone] at step
    generalize stepped : cycle (World.surroundings host) v = x at step
    cases step with
    | @error k _ _ twin =>
      exact ⟨k, next ▸ twin, .inl ⟨e, fails, loop_of_failed going stepped fuel⟩⟩

end Twin

section Alone

theorem attend_none (m : Session ρ η) : ∃ k, (attend none : Step ρ η ε Unit) m = .ok () k := by
  have presented : ∃ j, (present none : Step ρ η ε Unit) m = .ok () j := by
    rw [present_eq]
    split <;> exact ⟨_, rfl⟩
  obtain ⟨j, presented⟩ := presented
  have ticked : ∃ k, (tick none : Step ρ η ε Unit) j = .ok () k := by
    rw [tick_eq]
    cases j.state.tick.1 <;> exact ⟨_, rfl⟩
  obtain ⟨k, ticked⟩ := ticked
  refine ⟨k, ?_⟩
  rw [attend, Change.bind_of_ok _ presented]
  exact ticked

variable [RandomSource ρ] {Fit : η → Prop} {host : Option (Host η ε)} {m j : Session ρ (World η)}

theorem failure_unwatched (serves : ∀ h ∈ host, h.Serves Fit) (whole : m.state.WellFormed)
    (fit : Fit m.world.host) {e : Failure ε} (failed : cycle (unwatched host) m = .error e j) :
    j.state = m.state ∨
      e = .fault .keyCount ∧ j.cycles = m.cycles + 1 ∧
        ∃ h ∈ host, ∃ w snapshot, Fit w ∧ (h.poll w).value = .ok snapshot ∧ snapshot.size ≠ 16 := by
  cases executed : (execute : Step ρ (World η) ε Unit) m with
  | error e k =>
    have stopped : cycle (unwatched host) m = .error e k := cycle_of_refused rfl executed
    rw [failed] at stopped
    cases stopped
    obtain ⟨f, t, random, refused, _, rfl⟩ := (execute_eq_error_iff _ _ _).1 executed
    exact .inl (State.execute_error_state whole refused)
  | ok _ k =>
    have rest : cycle (unwatched host) m =
        attend (host.map World.liftHost) { k with cycles := k.cycles + 1 } :=
      cycle_of_executed rfl executed
    have world : k.world = m.world ∧ k.cycles = m.cycles := by
      obtain ⟨ins, s, random, _, rfl⟩ := (execute_eq_ok_iff _ _).1 executed
      exact ⟨rfl, rfl⟩
    rw [failed] at rest
    cases host with
    | none =>
      obtain ⟨k, attended⟩ := attend_none (ε := ε) { k with cycles := k.cycles + 1 }
      cases rest.trans attended
    | some h =>
      have serves := serves h rfl
      have fit : Fit k.world.host := world.1 ▸ fit
      obtain ⟨snapshot, given, ⟨i, wrong, attended⟩ | ⟨_, i, _, attended, _⟩⟩ :=
        attend_served serves.lift { k with cycles := k.cycles + 1 } fit
      · have counted := (silent_attend (some (World.liftHost h))
          { k with cycles := k.cycles + 1 }).cycles
        rw [Change.after_of_error attended, world.2] at counted
        cases rest.trans attended
        exact .inr ⟨rfl, counted, h, rfl, _, snapshot, serves.lift.shown _ fit, given, wrong⟩
      · cases rest.trans attended

end Alone

section Run

variable [RandomSource ρ]

def Unheard {κ : Type} (world : κ) (told : List (Call ε)) (after : κ) : Prop :=
  told = [] ∧ after = world

omit [RandomSource ρ] in
theorem notify_none {κ : Type} {world : κ} (f : Fault) {m : Session ρ κ} {reason : CodePoints}
    (same : m.world = world) (pending : m.pending = some reason) :
    ∃ told answer k, notify (none : Option (Fault → κ → Reply κ ε Unit)) f m =
      Changed.of answer k ∧ Told f false told answer ∧ Unheard world told k.world ∧
      k.pending = some reason ∧ k.cycles = m.cycles :=
  ⟨[], .ok (), m, rfl, .alone, ⟨rfl, same⟩, pending, rfl⟩

variable {Fit : η → Prop} {host : Option (Host η ε)} {m : Session ρ (World η)}

/-- How a watched run ends with cycle `k`, told by the cycles of the machine alone. -/
structure Finished (Fit : η → Prop) (host : Option (Host η ε)) (o : Observer)
    (a : Session ρ (World η)) (k : Nat) (result : Except (Failure ε) (Option Outcome))
    (final : Session ρ (World η)) : Prop where
  same : SameMachine (unobserved host a (k + 1)) final
  hosts : final.world.host = (unobserved host a (k + 1)).world.host
  fit : Fit final.world.host
  stopping : final.stopping = true
  running : final.running = false
  ends : Ends false ((unobserved host a (k + 1)).cycles - a.cycles)
    (o.voices (counters host a) k).head?
    (Changed.failure? (cycle (unwatched host) (unobserved host a k))) [] result final.reason

theorem run_eventful (quiet : ∀ h ∈ host, h.Quiet Fit) {o : Observer} {w a : Session ρ (World η)}
    (opened : Twin Fit (some o) none w.openRun a) (whole : w.state.WellFormed) (k : Nat)
    (calm : ∀ j < k, Uneventful host a o j) (eventful : ¬ Uneventful host a o k) (fuel : Nat) :
    let final := run (World.surroundings host) none (k + 1 + fuel) w
    Finished Fit host o a k final.1 final.2 := by
  intro final
  obtain ⟨p, left, twin, ended⟩ := loop_eventful quiet opened whole k calm eventful fuel
  have machine := sameMachine_run (World.surroundings host) none (k + 1 + fuel) w
  have stopped : (loop (World.surroundings host) (k + 1 + fuel) w.openRun).2 = left := by
    obtain ⟨e, _, ended⟩ | ⟨_, _, ended⟩ := ended <;> rw [ended]
  rw [stopped] at machine
  obtain ⟨told, heard, running, stopping, _, ends⟩ : ∃ told,
      Unheard left.world told final.2.world ∧ final.2.running = false ∧
      final.2.stopping = true ∧ final.2.cycles = left.cycles ∧
      Ends false (left.cycles - w.cycles) left.pending
        (Changed.failure? (cycle (unwatched host) (unobserved host a k))) told final.1
        final.2.reason :=
    run_ends (Unheard left.world) ⟨rfl, rfl⟩ (fun f _ _ => notify_none f) ended
  obtain ⟨rfl, kept⟩ := heard
  have begun : a.cycles = w.cycles := opened.same.cycles
  rw [twin.pending, ← twin.same.cycles, ← begun] at ends
  exact {
    same := twin.same.symm.trans machine
    hosts := by rw [kept]; exact twin.host.symm
    fit := by rw [kept]; exact twin.fit
    stopping, running, ends }

/-- Observers only decide when a run ends. Up to the first cycle before which a leaf fires or which
fails, and with it, the run is that of the machine alone. -/
theorem observers_only_end_runs (quiet : ∀ h ∈ host, h.Quiet Fit) {o : Observer}
    (watched : m.world.observer = some o) (whole : m.state.WellFormed) (fit : Fit m.world.host)
    (n : Nat) (calm : ∀ k < n, Uneventful host m o k) :
    (run (World.surroundings host) none n m).1 = .ok none ∧
    (¬ Uneventful host m o n → ∀ fuel,
      let final := run (World.surroundings host) none (n + 1 + fuel) m
      let before := unobserved host m n
      let alone := unobserved host m (n + 1)
      let failure := Changed.failure? (cycle (unwatched host) before)
      SameMachine alone final.2 ∧ final.2.world.host = alone.world.host ∧
      (failure = none ∨ alone.state = before.state ∨
        failure = some (.fault .keyCount) ∧ alone.cycles = before.cycles + 1 ∧
          ∃ h ∈ host, ∃ w snapshot,
            Fit w ∧ (h.poll w).value = .ok snapshot ∧ snapshot.size ≠ 16) ∧
      Ends false (alone.cycles - m.cycles) (o.voices (counters host m) n).head? failure []
        final.1 final.2.reason) := by
  have opened : Twin Fit (some o) none m.openRun m := ⟨⟨rfl, rfl, rfl⟩, rfl, fit, watched, rfl⟩
  refine ⟨?_, fun eventful fuel => ?_⟩
  · obtain ⟨v, p, same, twin, _⟩ := loop_uneventful quiet opened whole n calm 0
    have going : v.stopping = false := pending_eq_none_iff.1 twin.pending
    have left : loop (World.surroundings host) n m.openRun = (.unfinished, v) := by
      rw [Nat.add_zero] at same
      rw [same, loop, going]
      rfl
    rw [run_of_unfinished left]
  · intro final before alone failure
    obtain ⟨p, k, twin, left⟩ := loop_eventful quiet opened whole n calm eventful fuel
    obtain ⟨_, ⟨rfl, kept⟩, _, _, _, ends⟩ := run_ends (Unheard k.world) ⟨rfl, rfl⟩
      (fun f _ _ => notify_none f) left
    have ended : (loop (World.surroundings host) (n + 1 + fuel) m.openRun).2 = k := by
      obtain ⟨e, _, left⟩ | ⟨_, _, left⟩ := left <;> rw [left]
    have same := sameMachine_run (World.surroundings host) none (n + 1 + fuel) m
    rw [ended] at same
    refine ⟨twin.same.symm.trans same, ?_, ?_, ?_⟩
    · have told : final.2.world = k.world := kept
      rw [told]
      exact twin.host.symm
    · obtain ⟨v, _, _, twin, whole, _⟩ := loop_uneventful quiet opened whole n calm 0
      have state : before.state = v.state := congrArg (·.state) twin.same.machine
      cases failed : cycle (unwatched host) before with
      | ok _ a => exact .inl (by simp only [failure, failed]; rfl)
      | error e a =>
        have next : alone = a := Change.after_of_error failed
        have fails : failure = some e := by simp only [failure, failed]; rfl
        have fit : Fit before.world.host := twin.host ▸ twin.fit
        obtain still | ⟨rfl, counted, wrong⟩ := failure_unwatched
          (fun h member => (quiet h member).toServes) (state ▸ whole) fit failed
        · exact .inr (.inl (next ▸ still))
        · exact .inr (.inr ⟨fails, next ▸ counted, wrong⟩)
    · rw [twin.pending, ← twin.same.cycles] at ends
      exact ends

theorem headless_quiet : (Headless.host : Host Headless ε).Quiet fun _ => True where
  render _ _ _ := ⟨rfl, trivial⟩
  poll h _ := ⟨h.keys, rfl, trivial⟩
  beep _ _ := ⟨rfl, trivial⟩
  render_stops _ _ _ := rfl
  poll_stops _ _ := rfl
  beep_stops _ _ := rfl

section Examples

abbrev headless : Option (Host Headless Empty) := some Headless.host

theorem quiet_headless : ∀ h ∈ headless, h.Quiet fun _ => True := by
  rintro h ⟨⟩
  exact headless_quiet

def observed (keys : Array Bool) (o : Observer) (image : List UInt8) :
    Session Script (World Headless) :=
  ((start (Script.ofArray #[]) ⟨some o, ⟨keys, #[], 0, true⟩, Report.warning, []⟩).loadImage
    image []).2

theorem wellFormed_observed (keys : Array Bool) (o : Observer) (image : List UInt8) :
    (observed keys o image).state.WellFormed :=
  have loaded : Silent _ (observed keys o image) := silent_loadImage _ _ _
  loaded.trail.wellFormed State.sound_initial.toWellFormed

def pauses : Observer :=
  .chain [.stall .fresh, .chain [.breakpoints (.ofList [0x1202])], .limit (.ofNat 2)]

def pausing : Session Script (World Headless) :=
  observed Headless.fresh.keys pauses [0x60, 0x05, 0x61, 0x07]

theorem pausing_ends_with_breakpoint :
    (run (World.surroundings headless) none 2 pausing).2.reason = Breakpoints.message 0x202 ∧
    SameMachine (unobserved headless pausing 2)
      (run (World.surroundings headless) none 2 pausing).2 := by
  have calm : ∀ k < 1, Uneventful headless pausing pauses k := by
    intro k below
    obtain rfl := Nat.lt_one_iff.1 below
    exact ⟨by decide +kernel, by decide +kernel⟩
  have said : pauses.voices (counters headless pausing) 1 =
      [Breakpoints.message 0x202, CycleLimit.message] := by decide +kernel
  have completes : Changed.failure? (cycle (unwatched headless) (unobserved headless pausing 1)) =
      none := by decide +kernel
  have eventful : ¬ Uneventful headless pausing pauses 1 := by
    rintro ⟨unsaid, _⟩
    rw [said] at unsaid
    cases unsaid
  have whole : pausing.state.WellFormed := wellFormed_observed _ _ _
  obtain ⟨_, ended⟩ := observers_only_end_runs quiet_headless rfl whole trivial 1 calm
  obtain ⟨same, _, _, ends⟩ := ended eventful 0
  rw [said, completes] at ends
  refine ⟨?_, same⟩
  generalize (run (World.surroundings headless) none _ pausing).1 = result at ends
  generalize (run (World.surroundings headless) none _ pausing).2.reason = reason at ends ⊢
  cases ends with
  | stopped asked => exact (Option.some.inj asked).symm

def shortKeyed : Session Script (World Headless) :=
  observed (Array.replicate 15 false) (.limit (.ofNat 5)) [0x60, 0x05]

def overstacked : Session Script (World Headless) :=
  let m := observed Headless.fresh.keys (.limit (.ofNat 5)) [0x00, 0xEE]
  { m with state := { m.state with sp := 17 } }

theorem failing_cycles_move_on :
    (∀ h ∈ headless, h.Quiet fun _ => True) ∧
    (shortKeyed.state.WellFormed ∧
      (Observer.limit (.ofNat 5)).voices (counters headless shortKeyed) 0 = [] ∧
      Changed.failure? (cycle (unwatched headless) shortKeyed) = some (.fault .keyCount) ∧
      ((run (World.surroundings headless) none 1 shortKeyed).1 matches .error (.fault .keyCount)) ∧
      (run (World.surroundings headless) none 1 shortKeyed).2.state ≠ shortKeyed.state) ∧
    (Observer.limit (.ofNat 5)).voices (counters headless overstacked) 0 = [] ∧
    Changed.failure? (cycle (unwatched headless) overstacked) = some (.fault .noSuchSlot) ∧
    ((run (World.surroundings headless) none 1 overstacked).1 matches
      .error (.fault .noSuchSlot)) ∧
    (run (World.surroundings headless) none 1 overstacked).2.state ≠ overstacked.state := by
  refine ⟨quiet_headless, ⟨wellFormed_observed _ _ _, by decide +kernel, by decide +kernel,
    by decide +kernel, ?_⟩, by decide +kernel, by decide +kernel, by decide +kernel, ?_⟩
  · intro same
    have moved : (run (World.surroundings headless) none 1 shortKeyed).2.state.pc = 0x202 := by
      decide +kernel
    have resting : shortKeyed.state.pc = 0x200 := by decide +kernel
    rw [same, resting] at moved
    cases moved
  · intro same
    have counted : (run (World.surroundings headless) none 1 overstacked).2.state.sp = 16 := by
      decide +kernel
    rw [same] at counted
    cases counted

end Examples

end Run

end Session

end Chip8
