import Chip8.Proofs.Laps
import Chip8.Proofs.Recording

/-! How runs end. Observer, host and handler may ask for stops, fail or do both, at every call.
However that turns out, a run that ends is closed, its reason is the first that was given, and a
verdict on the program goes to the handler once. -/
namespace Chip8

variable {ρ κ ε α : Type}

def requests (calls : List (Call ε)) : List CodePoints := calls.flatMap Call.stops

namespace Session

section Pending

variable {m k j : Session ρ κ}

/-- The reason of the stop that is to take effect, if there is one. -/
def pending (m : Session ρ κ) : Option CodePoints := if m.stopping then some m.reason else none

theorem pending_eq_some_iff {reason : CodePoints} :
    m.pending = some reason ↔ m.stopping = true ∧ m.reason = reason := by
  unfold pending
  split <;> simp [*]

theorem pending_eq_none_iff : m.pending = none ↔ m.stopping = false := by
  unfold pending
  split <;> simp [*]

theorem pending_requestStop (m : Session ρ κ) (reason : CodePoints) :
    (m.requestStop reason).pending = m.pending.or (some reason) := by
  unfold requestStop pending
  cases stopping : m.stopping <;> simp [stopping]

theorem pending_stops (stops : List CodePoints) (m : Session ρ κ) :
    (stops.foldl requestStop m).pending = m.pending.or stops.head? := by
  induction stops generalizing m with
  | nil => simp
  | cons reason rest ih =>
    rw [List.foldl_cons, ih, pending_requestStop, Option.or_assoc]
    rfl

theorem pending_receive (m : Session ρ κ) (reply : Reply κ ε α) :
    (m.receive reply).pending = m.pending.or reply.stops.head? := pending_stops _ _

theorem pending_halt (m : Session ρ κ) (f : Fault) :
    (m.halt f).pending = m.pending.or (some (.ofString f.message)) := pending_requestStop _ _

theorem closeRun_eq (m : Session ρ κ) :
    m.closeRun = { m with
      stopping := true, reason := m.pending.getD (.ofString "aborted"), running := false } := by
  unfold closeRun requestStop pending
  split
  · next stopping => rw [← stopping]; rfl
  · rfl

end Pending

section Follows

variable {R : Session ρ κ → Session ρ κ → Prop} (trans : ∀ a b c, R a b → R b c → R a c)
  (own : ∀ (m : Session ρ κ) state random last cycles, R m { m with state, random, last, cycles })
include trans own

theorem follows_cycle [RandomSource ρ] {around : Surroundings κ ε}
    (observed : Change.Follows R (observe around.observer : Step ρ κ ε Unit))
    (attended : Change.Follows R (attend around.host : Step ρ κ ε Unit)) :
    Change.Follows R (cycle around : Step ρ κ ε Unit) := by
  have executed : Change.Follows R (execute : Step ρ κ ε Unit) := by
    intro m
    unfold Change.after execute
    cases m.state.execute m.random with | mk result random =>
    cases result with
    | ok ins state => exact own m state random (some ins) m.cycles
    | error f state => exact own m state random m.last m.cycles
  have counted : Change.Follows R (countCycle : Step ρ κ ε Unit) :=
    fun m => own m m.state m.random m.last (m.cycles + 1)
  rw [cycle_eq]
  exact .bind (R := R) (trans _ _ _) observed fun _ =>
    .bind (R := R) (trans _ _ _) executed fun _ =>
      .bind (R := R) (trans _ _ _) counted fun _ => attended

end Follows

/-- Calls are written down, none of them to a handler, and the first stop that they ask for is
the one to take effect, unless there was one before. -/
def Asks (m k : Session ρ (Recorded κ ε)) : Prop :=
  ∃ calls, k.world.calls = m.world.calls ++ calls ∧ (∀ c ∈ calls, c.asked.isHandle = false) ∧
    k.pending = m.pending.or (requests calls).head?

theorem Asks.trans {m k j : Session ρ (Recorded κ ε)} (one : Asks m k) (other : Asks k j) :
    Asks m j := by
  obtain ⟨before, calls, fresh, pending⟩ := one
  obtain ⟨after, calls', fresh', pending'⟩ := other
  refine ⟨before ++ after, by rw [calls', calls, List.append_assoc], ?_, ?_⟩
  · intro c member
    obtain first | later := List.mem_append.1 member
    · exact fresh c first
    · exact fresh' c later
  · have joined : requests (before ++ after) = requests before ++ requests after :=
      List.flatMap_append
    rw [pending', pending, joined, List.head?_append, Option.or_assoc]

theorem asks_recording (asked : State → Option α → Asked)
    (looks : ∀ s snapshot, (asked s snapshot).isHandle = false)
    (ask : State → κ → Reply κ ε α) :
    Change.Follows Asks
      (call fun s => recording (asked s) (ask s) : Step ρ (Recorded κ ε) ε α) := by
  intro m
  rw [after_call]
  refine ⟨_, by rw [world_receive]; rfl, ?_, ?_⟩
  · simp only [List.mem_singleton, forall_eq]
    exact looks _ _
  · rw [pending_receive]
    simp [requests, recording]

theorem asks_cycle [RandomSource ρ] (around : Surroundings κ ε) :
    Change.Follows Asks (cycle around.recorded : Step ρ (Recorded κ ε) ε Unit) := by
  have own (m : Session ρ (Recorded κ ε)) state random last cycles :
      Asks m { m with state, random, last, cycles } := ⟨[], by simp [requests, pending]⟩
  obtain ⟨observer, host⟩ := around
  refine follows_cycle (R := Asks) (fun _ _ _ => Asks.trans) own ?_ ?_
  · cases observer with
    | none => exact fun m => own m m.state m.random m.last m.cycles
    | some look => exact asks_recording (fun _ _ => .look) (fun _ _ => rfl) look
  · have moved (m : Session ρ (Recorded κ ε)) (state : State) : Asks m { m with state } :=
      own m state m.random m.last m.cycles
    have keyed (snapshot : Array Bool) :
        Change.Follows Asks (setKeys snapshot : Step ρ (Recorded κ ε) ε Unit) := by
      intro m
      unfold Change.after setKeys State.setKeys
      cases Keys.ofArray? snapshot <;> exact moved m _
    refine follows_attend (R := Asks) (fun _ _ _ => Asks.trans) (fun m => moved m m.state)
      (fun m => moved m _) (fun m => moved m _) ?_ ?_ ?_
    all_goals
      intro h member
      obtain ⟨h, _, rfl⟩ := Option.map_eq_some_iff.1 member
    · exact asks_recording (fun s _ => .render s.frame) (fun _ _ => rfl) fun s => h.render s.frame
    · exact .bind (R := Asks) Asks.trans
        (asks_recording (fun _ => .poll) (fun _ _ => rfl) fun _ => h.poll) keyed
    · exact asks_recording (fun _ _ => .beep) (fun _ _ => rfl) fun _ => h.beep

theorem Laps.asks [RandomSource ρ] {around : Surroundings κ ε}
    {m k : Session ρ (Recorded κ ε)} {begun : List (Session ρ (Recorded κ ε))}
    {failure : Option (Failure ε)} (laps : Laps around.recorded m begun failure k) : Asks m k :=
  laps.follows (fun m => ⟨[], by simp [requests, pending]⟩) Asks.trans (asks_cycle around)

/-- The calls to the handler, if there is one, by which it is told a verdict, and its answer. -/
inductive Told (f : Fault) : Bool → List (Call ε) → Except (Failure ε) Unit → Prop
  | alone : Told f false [] (.ok ())
  | heard {stops : List CodePoints} : Told f true [⟨.handle f, stops, none⟩] (.ok ())
  | objected {stops : List CodePoints} (e : Failure ε) :
      Told f true [⟨.handle f, stops, some e⟩] (.error e)

/-- How a run ends, given whether there is a handler, how many cycles it has counted and the
first stop that was asked for: by which failure of its last cycle, if by one, with which calls to
the handler, with which result and for which reason. -/
inductive Ends (handled : Bool) (cycles : Nat) (requested : Option CodePoints) :
    Option (Failure ε) → List (Call ε) → Except (Failure ε) (Option Outcome) → CodePoints → Prop
  | stopped {reason : CodePoints} (asked : requested = some reason) :
      Ends handled cycles requested none [] (.ok (some ⟨cycles, none, reason⟩)) reason
  | verdict {e : Failure ε} {f : Fault} {told : List (Call ε)} {answer : Except (Failure ε) Unit}
      {reason : CodePoints} (verdict : e.verdict? = some f) (once : Told f handled told answer)
      (first : reason = requested.getD (.ofString f.message)) :
      Ends handled cycles requested (some e) told
        (answer.map fun _ => some ⟨cycles, some f, reason⟩) reason
  | escaped {e : Failure ε} {reason : CodePoints} (none : e.verdict? = none)
      (first : reason = requested.getD (.ofString "aborted")) :
      Ends handled cycles requested (some e) [] (.error e) reason

theorem notify_told (handler : Option (Fault → κ → Reply κ ε Unit)) (f : Fault)
    {m : Session ρ (Recorded κ ε)} {reason : CodePoints} (pending : m.pending = some reason) :
    ∃ told answer k, notify (handler.map recordedHandler) f m = Changed.of answer k ∧
      Told f handler.isSome told answer ∧ k.world.calls = m.world.calls ++ told ∧
      k.pending = some reason ∧ k.cycles = m.cycles := by
  cases handler with
  | none => exact ⟨[], .ok (), m, rfl, .alone, (List.append_nil _).symm, pending, rfl⟩
  | some handler =>
    have same := sameMachine_receive m (recordedHandler handler f m.world)
    refine ⟨_, (handler f m.world.world).value, _,
      call_eq (fun _ => recordedHandler handler f) m, ?_, by rw [world_receive]; rfl, ?_,
      same.cycles⟩
    · cases answer : (handler f m.world.world).value with
      | ok _ => simpa [Reply.failure?, answer] using .heard
      | error e => simpa [Reply.failure?, answer] using .objected e
    · rw [pending_receive, pending]
      rfl

section Run

variable [RandomSource ρ] {around : Surroundings κ ε}
  {handler : Option (Fault → κ → Reply κ ε Unit)} {fuel : Nat} {m left : Session ρ κ}

theorem run_of_unfinished (ended : loop around fuel m.openRun = (.unfinished, left)) :
    run around handler fuel m = (.ok none, left) := by rw [run, ended]

theorem run_of_stopped (ended : loop around fuel m.openRun = (.stopped, left)) :
    run around handler fuel m =
      (.ok (some ⟨left.closeRun.cycles - m.cycles, none, left.closeRun.reason⟩),
        (conclude m.cycles none left.closeRun).2) := by
  rw [run, ended]
  rfl

theorem run_of_escaped {e : Failure ε} (none : e.verdict? = none)
    (ended : loop around fuel m.openRun = (.ofFailure e, left)) :
    run around handler fuel m = (.error e, left.closeRun) := by
  rw [run, ended, Ending.ofFailure, none]

theorem run_of_verdict {e : Failure ε} {f : Fault} (verdict : e.verdict? = some f)
    (ended : loop around fuel m.openRun = (.ofFailure e, left)) :
    run around handler fuel m = match notify handler f (left.halt f) with
      | .error other after => (.error other, after.closeRun)
      | .ok _ after =>
        (.ok (some ⟨after.closeRun.cycles - m.cycles, some f, after.closeRun.reason⟩),
          (conclude m.cycles (some f) after.closeRun).2) := by
  rw [run, ended, Ending.ofFailure, verdict]
  dsimp only
  rw [settle_eq]
  cases notify handler f (left.halt f) <;> rfl

theorem run_ends (Heard : List (Call ε) → κ → Prop) {handled : Bool} {failure : Option (Failure ε)}
    (unheard : Heard [] left.world)
    (answers : ∀ (f : Fault) (k : Session ρ κ) reason, k.world = left.world →
      k.pending = some reason → ∃ told answer j, notify handler f k = Changed.of answer j ∧
        Told f handled told answer ∧ Heard told j.world ∧ j.pending = some reason ∧
        j.cycles = k.cycles)
    (ended : (∃ e, failure = some e ∧ loop around fuel m.openRun = (.ofFailure e, left)) ∨
      (failure = none ∧ left.stopping = true ∧ loop around fuel m.openRun = (.stopped, left))) :
    let (result, k) := run around handler fuel m
    ∃ told, Heard told k.world ∧ k.running = false ∧ k.stopping = true ∧ k.cycles = left.cycles ∧
      Ends handled (left.cycles - m.cycles) left.pending failure told result k.reason := by
  obtain ⟨e, rfl, ended⟩ | ⟨rfl, stopping, ended⟩ := ended
  · cases verdict : e.verdict? with
    | none =>
      rw [run_of_escaped verdict ended, closeRun_eq]
      exact ⟨[], unheard, rfl, rfl, rfl, .escaped verdict rfl⟩
    | some f =>
      have given : (left.halt f).pending = some (left.pending.getD (.ofString f.message)) := by
        rw [pending_halt]
        cases left.pending <;> rfl
      have same : (left.halt f).cycles = left.cycles :=
        (sameMachine_requestStop (left.report (.runHalted left.state.pc f)) _).cycles
      obtain ⟨told, answer, k, notified, once, heard, pending, cycles⟩ :=
        answers f (left.halt f) _ (world_requestStop _ _) given
      have counted : k.cycles = left.cycles := cycles.trans same
      have ends : Ends handled (left.cycles - m.cycles) left.pending (some e) told _ _ :=
        .verdict verdict once rfl
      rw [run_of_verdict verdict ended, notified]
      cases answer with
      | ok _ =>
        simp only [Changed.of, closeRun_eq, pending, counted]
        exact ⟨told, heard, rfl, rfl, rfl, ends⟩
      | error other =>
        simp only [Changed.of, closeRun_eq, pending]
        exact ⟨told, heard, trivial, trivial, counted, ends⟩
  · have given : left.pending = some left.reason := pending_eq_some_iff.2 ⟨stopping, rfl⟩
    rw [run_of_stopped ended, closeRun_eq, given]
    exact ⟨[], unheard, rfl, rfl, rfl, .stopped rfl⟩

end Run

/-- Whatever observer, host and handler do, a run that ends is closed and stopped. No cycle began
after a stop had been asked for, as many were counted as completed their instruction, and `Ends`
tells the rest. -/
theorem run_lifecycle [RandomSource ρ] (around : Surroundings κ ε)
    (handler : Option (Fault → κ → Reply κ ε Unit)) (fuel : Nat) (m : Session ρ κ)
    (ended : (run around handler fuel m).1 ≠ .ok none) :
    ∃ k begun failure left calls told,
      run around.recorded (handler.map recordedHandler) fuel m.recorded =
        ((run around handler fuel m).1, k) ∧ k.forget = (run around handler fuel m).2 ∧
      k.running = false ∧ k.stopping = true ∧
      Laps around.recorded m.recorded.openRun begun failure left ∧
      (∀ b ∈ begun, b.stopping = false) ∧
      k.cycles = m.cycles + begun.countP (completes around.recorded) ∧
      k.world.calls = calls ++ told ∧ (∀ c ∈ calls, c.asked.isHandle = false) ∧
      Ends handler.isSome (begun.countP (completes around.recorded)) (requests calls).head?
        failure told (run around handler fuel m).1 k.reason := by
  have forgets := run_forgets around handler fuel m.recorded
  have plain : m.recorded.forget (ε := ε) = m := rfl
  rw [plain] at forgets
  obtain ⟨begun, failure, j, laps, fresh, left⟩ :=
    loop_laps around.recorded fuel m.recorded.openRun
  obtain ⟨calls, record, looks, pending⟩ := laps.asks
  have counted : j.cycles = m.cycles + begun.countP (completes around.recorded) := laps.cycles
  have written : j.world.calls = calls := record
  have first : j.pending = (requests calls).head? := pending
  rw [forgets] at ended ⊢
  have left : (∃ e, failure = some e ∧
      loop around.recorded fuel m.recorded.openRun = (.ofFailure e, j)) ∨
      (failure = none ∧ j.stopping = true ∧
        loop around.recorded fuel m.recorded.openRun = (.stopped, j)) := by
    obtain failed | stopped | ⟨_, _, _, left⟩ := left
    · exact .inl failed
    · exact .inr stopped
    · rw [run_of_unfinished left] at ended
      exact absurd rfl ended
  obtain ⟨told, heard, running, stopping, cycles, ends⟩ := run_ends
    (fun told w => w.calls = calls ++ told) (written.trans (List.append_nil _).symm)
    (fun f k reason same given => by
      have notified := notify_told handler f given
      rw [same, written] at notified
      exact notified) left
  have executed : j.cycles - m.recorded.cycles (κ := Recorded κ ε) =
      begun.countP (completes around.recorded) := by
    rw [counted]
    exact Nat.add_sub_cancel_left _ _
  rw [executed, first] at ends
  exact ⟨_, begun, failure, j, calls, told, rfl, rfl, running, stopping, laps, fresh,
    cycles.trans counted, heard, looks, ends⟩

def spoilt : Surroundings Unit Unit where
  observer := some fun _ _ =>
    ⟨(), [.ofString "enough", .ofString "too late"], [], .error (.fault (.declared "spoilt"))⟩
  host := none

theorem spoilt_keeps_first_reason :
    (run spoilt none 1 (start (Script.ofArray #[]) ())).1 =
      .ok (some ⟨0, some (.declared "spoilt"), .ofString "enough"⟩) ∧
    (run spoilt none 1 (start (Script.ofArray #[]) ())).2.stopping = true ∧
    (run spoilt none 1 (start (Script.ofArray #[]) ())).2.running = false := by
  obtain ⟨k, _, _, _, _, _, _, forgets, running, stopping, _⟩ :=
    run_lifecycle spoilt none 1 (start (Script.ofArray #[]) ()) (by rintro ⟨⟩)
  rw [← forgets]
  exact ⟨rfl, stopping, running⟩

end Session
end Chip8
