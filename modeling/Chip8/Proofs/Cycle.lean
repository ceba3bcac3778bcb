import Chip8.Loading
import Chip8.Proofs.Trail

/-! Cycles and runs as trails. Observers and hosts are arbitrary, but they reach the machine
through nothing but stops and key snapshots, so a cycle completes one instruction or none, and
what happens around it is a pause, also when it fails there. -/
namespace Chip8

namespace Change

variable {σ ε α β : Type}

theorem after_of_ok {change : Change σ ε α} {s t : σ} {a : α} (done : change s = .ok a t) :
    change.after s = t := by
  rw [after, done]

theorem after_of_error {change : Change σ ε α} {s t : σ} {e : ε} (failed : change s = .error e t) :
    change.after s = t := by
  rw [after, failed]

theorem bind_of_ok {first : Change σ ε α} (rest : α → Change σ ε β) {s t : σ} {a : α}
    (done : first s = .ok a t) : (first >>= rest) s = rest a t := by
  simp only [bind, EStateM.bind, done]

theorem bind_of_error {first : Change σ ε α} (rest : α → Change σ ε β) {s t : σ} {e : ε}
    (failed : first s = .error e t) : (first >>= rest) s = .error e t := by
  simp only [bind, EStateM.bind, failed]

/-- What is there after a change is related to what was there before, also if it failed. -/
def Follows (R : σ → σ → Prop) (change : Change σ ε α) : Prop :=
  ∀ s, R s (change.after s)

theorem Follows.bind {R : σ → σ → Prop} (trans : ∀ {a b c}, R a b → R b c → R a c)
    {first : Change σ ε α} {rest : α → Change σ ε β} (one : Follows R first)
    (others : ∀ a, Follows R (rest a)) : Follows R (first >>= rest) := by
  intro s
  have between := one s
  cases done : first s with
  | ok a t =>
    rw [after_of_ok done] at between
    have joined : (first >>= rest).after s = (rest a).after t := by
      rw [after, after, bind_of_ok rest done]
    exact joined ▸ trans between (others a t)
  | error e t =>
    rw [after_of_error done] at between
    exact after_of_error (bind_of_error rest done) ▸ between

end Change

namespace Session

variable {ρ κ ε α : Type}

def machine (m : Session ρ κ) : Machine ρ := ⟨m.state, m.random⟩

/-- The same machine, perhaps in another world. -/
structure SameMachine (m k : Session ρ κ) : Prop where
  machine : k.machine = m.machine
  last : k.last = m.last
  cycles : k.cycles = m.cycles

theorem SameMachine.trans {m k j : Session ρ κ} (one : SameMachine m k) (other : SameMachine k j) :
    SameMachine m j :=
  ⟨other.machine.trans one.machine, other.last.trans one.last, other.cycles.trans one.cycles⟩

theorem SameMachine.symm {m k : Session ρ κ} (same : SameMachine m k) : SameMachine k m :=
  ⟨same.machine.symm, same.last.symm, same.cycles.symm⟩

theorem sameMachine_requestStop (m : Session ρ κ) (reason : CodePoints) :
    SameMachine m (m.requestStop reason) := by
  unfold requestStop
  split <;> exact ⟨rfl, rfl, rfl⟩

theorem sameMachine_stops (stops : List CodePoints) (m : Session ρ κ) :
    SameMachine m (stops.foldl requestStop m) := by
  induction stops generalizing m with
  | nil => exact ⟨rfl, rfl, rfl⟩
  | cons reason rest ih => exact (sameMachine_requestStop m reason).trans (ih _)

theorem sameMachine_call (ask : State → κ → Reply κ ε α) :
    Change.Follows SameMachine (call ask : Step ρ κ ε α) := by
  intro m
  have stops := sameMachine_stops (ask m.state m.world).stops
    { m with
      world := (ask m.state m.world).world
      log := m.log ++ (ask m.state m.world).reports }
  simp only [Change.after, call]
  cases (ask m.state m.world).value <;> exact ⟨stops.machine, stops.last, stops.cycles⟩

def observe (observer : Option (State → κ → Reply κ ε Unit)) : Step ρ κ ε Unit := do
  if let some observer := observer then
    call observer

theorem sameMachine_observe (observer : Option (State → κ → Reply κ ε Unit)) :
    Change.Follows SameMachine (observe observer : Step ρ κ ε Unit) := by
  cases observer with
  | none => exact fun _ => ⟨rfl, rfl, rfl⟩
  | some observer => exact sameMachine_call observer

def signal (host : Option (Host κ ε)) (expired : Bool) : Step ρ κ ε Unit := do
  if expired then
    if let some host := host then
      call fun _ world => host.beep world

theorem tick_eq (host : Option (Host κ ε)) (m : Session ρ κ) :
    tick host m = signal host m.state.tick.1 { m with state := m.state.tick.2 } := rfl

def attend (host : Option (Host κ ε)) : Step ρ κ ε Unit := do
  present host
  pollKeys host
  tick host

theorem follows_attend {R : Session ρ κ → Session ρ κ → Prop}
    (trans : ∀ a b c, R a b → R b c → R a c) (rest : ∀ m, R m m)
    (lowered : ∀ m, R m { m with state := { m.state with redraw := false } })
    (ticked : ∀ m, R m { m with state := m.state.tick.2 }) {host : Option (Host κ ε)}
    (render : ∀ h ∈ host,
      Change.Follows R (call fun s world => h.render s.frame world : Step ρ κ ε Unit))
    (polled : ∀ h ∈ host,
      Change.Follows R (call (fun _ world => h.poll world) >>= setKeys : Step ρ κ ε Unit))
    (beep : ∀ h ∈ host, Change.Follows R (call fun _ world => h.beep world : Step ρ κ ε Unit)) :
    Change.Follows R (attend host : Step ρ κ ε Unit) := by
  have presents : Change.Follows R (present host : Step ρ κ ε Unit) := by
    have lowers : Change.Follows R (ε := Failure ε)
        (modify fun m : Session ρ κ => { m with state := { m.state with redraw := false } }) :=
      lowered
    unfold present
    refine .bind (R := R) (trans _ _ _) rest fun m => ?_
    split
    · cases host with
      | none => exact lowers
      | some h => exact .bind (R := R) (trans _ _ _) (render h rfl) fun _ => lowers
    · exact rest
  have polls : Change.Follows R (pollKeys host : Step ρ κ ε Unit) := by
    cases host with
    | none => exact rest
    | some h => exact polled h rfl
  have ticks : Change.Follows R (tick host : Step ρ κ ε Unit) := by
    intro m
    rw [Change.after, tick_eq]
    refine trans _ _ _ (ticked m) ?_
    cases m.state.tick.1 with
    | false => exact rest _
    | true =>
      cases host with
      | none => exact rest _
      | some h => exact beep h rfl _
  exact .bind (R := R) (trans _ _ _) presents fun _ =>
    .bind (R := R) (trans _ _ _) polls fun _ => ticks

def halt (m : Session ρ κ) (f : Fault) : Session ρ κ :=
  (m.report (.runHalted m.state.pc f)).requestStop (.ofString f.message)

def notify (handler : Option (Fault → κ → Reply κ ε Unit)) (f : Fault) : Step ρ κ ε Unit := do
  if let some handler := handler then
    call fun _ world => handler f world

theorem settle_eq (handler : Option (Fault → κ → Reply κ ε Unit)) (f : Fault) (m : Session ρ κ) :
    settle handler f m = notify handler f (m.halt f) := rfl

theorem load_of_fits (m : Session ρ κ) {image : List UInt8} (name : CodePoints)
    (path : Option CodePoints) (fits : image.length ≤ Program.limit) :
    m.load image name path = (.ok ⟨name, image.length, path⟩,
      { m with
        state := { m.state with memory := m.state.memory.overwrite State.programStart image }
        program := some ⟨name, image.length, path⟩ }) := by
  have placed : Program.place m.state.memory image =
      .ok (m.state.memory.overwrite State.programStart image) := by
    unfold Program.limit Program.start State.programStart at fits
    rw [Program.place, if_neg (by unfold Program.limit Program.start State.programStart; omega),
      Memory.writeBytes, if_neg (by unfold Program.start State.programStart; omega)]
    rfl
  simp only [load, placed]

theorem load_state (m : Session ρ κ) {image : List UInt8} (name : CodePoints)
    (path : Option CodePoints) (fits : image.length ≤ Program.limit) :
    (m.load image name path).2.state =
      { m.state with memory := m.state.memory.overwrite State.programStart image } := by
  rw [load_of_fits m name path fits]

theorem loadFile_of_fits (m : Session ρ κ) {disk : Disk} {path : Path} {image : List UInt8}
    (name : CodePoints) (found : disk.read path = .ok image)
    (fits : image.length ≤ Program.limit) :
    ∃ program, (m.loadFile disk path name).1 = .ok program ∧
      (m.loadFile disk path name).2.world = m.world := by
  simp only [loadFile, found, load_of_fits m _ _ fits]
  exact ⟨_, rfl, trivial⟩

theorem loadImage_state (m : Session ρ κ) {image : List UInt8} (name : CodePoints)
    (fits : image.length ≤ Program.limit) :
    (m.loadImage image name).2.state =
      { m.state with memory := m.state.memory.overwrite State.programStart image } :=
  load_state m _ none fits

theorem sameMachine_openRun (m : Session ρ κ) : SameMachine m m.openRun := ⟨rfl, rfl, rfl⟩

variable [RandomSource ρ]

/-- No instruction was completed in between. -/
structure Silent (m k : Session ρ κ) : Prop where
  trail : Trail m.machine [] k.machine
  last : k.last = m.last
  cycles : k.cycles = m.cycles

theorem Silent.trans {m k j : Session ρ κ} (one : Silent m k) (other : Silent k j) :
    Silent m j :=
  ⟨one.trail.trans other.trail, other.last.trans one.last, other.cycles.trans one.cycles⟩

theorem SameMachine.silent {m k : Session ρ κ} (same : SameMachine m k) : Silent m k :=
  ⟨same.machine ▸ .start _, same.last, same.cycles⟩

theorem silent_call (ask : State → κ → Reply κ ε α) :
    Change.Follows Silent (call ask : Step ρ κ ε α) :=
  fun m => (sameMachine_call ask m).silent

theorem silent_setKeys (snapshot : Array Bool) :
    Change.Follows Silent (setKeys snapshot : Step ρ κ ε Unit) := by
  intro m
  unfold Change.after setKeys State.setKeys
  cases Keys.ofArray? snapshot with
  | none => exact ⟨.start _, rfl, rfl⟩
  | some keys => exact ⟨.of_pause (.keyed m.machine keys), rfl, rfl⟩

theorem silent_attend (host : Option (Host κ ε)) :
    Change.Follows Silent (attend host : Step ρ κ ε Unit) :=
  follows_attend (R := Silent) (fun _ _ _ => Silent.trans) (fun _ => ⟨.start _, rfl, rfl⟩)
    (fun m => ⟨.of_pause (.shown m.machine), rfl, rfl⟩)
    (fun m => ⟨.of_pause (.ticked m.machine), rfl, rfl⟩) (fun _ _ => silent_call _)
    (fun _ _ => .bind .trans (silent_call _) silent_setKeys) (fun _ _ => silent_call _)

theorem silent_load (m : Session ρ κ) (image : List UInt8) (name : CodePoints)
    (path : Option CodePoints) : Silent m (m.load image name path).2 := by
  unfold load
  cases placed : Program.place m.state.memory image with
  | error fault => exact ⟨.start _, rfl, rfl⟩
  | ok memory => exact ⟨.of_pause (.loaded m.machine placed), rfl, rfl⟩

theorem silent_loadImage (m : Session ρ κ) (image : List UInt8) (name : CodePoints) :
    Silent m (m.loadImage image name).2 := silent_load m image _ none

theorem cycle_eq (around : Surroundings κ ε) :
    (cycle around : Step ρ κ ε Unit) = (do
      observe around.observer
      execute
      countCycle
      attend around.host) := by
  unfold cycle observe attend
  cases around.observer <;> rfl

theorem execute_eq_ok_iff (m after : Session ρ κ) :
    (execute : Step ρ κ ε Unit) m = .ok () after ↔
      ∃ ins t random, m.state.execute m.random = (.ok ins t, random) ∧
        after = { m with state := t, random, last := some ins } := by
  unfold execute
  cases m.state.execute m.random with | mk result random =>
  cases result <;> simp [and_assoc, eq_comm]

theorem execute_eq_error_iff (m after : Session ρ κ) (e : Failure ε) :
    (execute : Step ρ κ ε Unit) m = .error e after ↔
      ∃ fault t random, m.state.execute m.random = (.error fault t, random) ∧
        e = .fault fault ∧ after = { m with state := t, random } := by
  unfold execute
  cases m.state.execute m.random with | mk result random =>
  cases result <;> simp [and_assoc, eq_comm]

/-- So many instructions were completed and counted in between. -/
structure Advances (m : Session ρ κ) (trace : List Executed) (k : Session ρ κ) : Prop where
  trail : Trail m.machine trace k.machine
  cycles : k.cycles = m.cycles + trace.length

theorem Silent.advances {m k : Session ρ κ} (silent : Silent m k) : Advances m [] k :=
  ⟨silent.trail, silent.cycles⟩

theorem Advances.trans {m k j : Session ρ κ} {before after : List Executed}
    (one : Advances m before k) (other : Advances k after j) : Advances m (before ++ after) j := by
  refine ⟨one.trail.trans other.trail, ?_⟩
  rw [other.cycles, one.cycles, List.length_append, Nat.add_assoc]

section Cycle

variable {around : Surroundings κ ε} {m seen k : Session ρ κ} {e : Failure ε}

theorem cycle_of_unseen (failed : observe around.observer m = .error e seen) :
    cycle around m = .error e seen := by
  rw [cycle_eq, Change.bind_of_error _ failed]

theorem cycle_of_refused (observed : observe around.observer m = .ok () seen)
    (failed : execute seen = .error e k) : cycle around m = .error e k := by
  rw [cycle_eq, Change.bind_of_ok _ observed, Change.bind_of_error _ failed]

theorem cycle_of_executed (observed : observe around.observer m = .ok () seen)
    (executed : (execute : Step ρ κ ε Unit) seen = .ok () k) :
    cycle around m = attend around.host { k with cycles := k.cycles + 1 } := by
  rw [cycle_eq, Change.bind_of_ok _ observed, Change.bind_of_ok _ executed]
  rfl

theorem cycle_advances (around : Surroundings κ ε) (m : Session ρ κ) :
    (∃ ins, ((cycle around).after m).last = some ins ∧
      Advances m [⟨m.state.pc, ins⟩] ((cycle around).after m)) ∨
    (∃ e after, cycle around m = .error e after) ∧ Silent m ((cycle around).after m) := by
  have same := sameMachine_observe around.observer m
  cases observed : observe around.observer m with
  | error e seen =>
    have failed := cycle_of_unseen observed
    rw [Change.after_of_error observed] at same
    exact .inr ⟨⟨e, seen, failed⟩, Change.after_of_error failed ▸ same.silent⟩
  | ok _ seen =>
    rw [Change.after_of_ok observed] at same
    cases executed : (execute : Step ρ κ ε Unit) seen with
    | error e k =>
      have failed := cycle_of_refused observed executed
      obtain ⟨fault, t, random, refused, _, rfl⟩ := (execute_eq_error_iff _ _ _).1 executed
      have paused : Silent seen { seen with state := t, random } :=
        ⟨.of_pause (.refused refused), rfl, rfl⟩
      exact .inr ⟨⟨e, _, failed⟩, Change.after_of_error failed ▸ same.silent.trans paused⟩
    | ok _ k =>
      obtain ⟨ins, t, random, performed, rfl⟩ := (execute_eq_ok_iff _ _).1 executed
      have counted : Advances seen [⟨seen.state.pc, ins⟩]
          { seen with state := t, random, last := some ins, cycles := seen.cycles + 1 } :=
        ⟨.of_executed performed, rfl⟩
      have rest := silent_attend around.host
        { seen with state := t, random, last := some ins, cycles := seen.cycles + 1 }
      have address : seen.state.pc = m.state.pc := congrArg (·.state.pc) same.machine
      rw [address] at counted
      rw [Change.after, cycle_of_executed observed executed]
      exact .inl ⟨ins, rest.last, same.silent.advances.trans (counted.trans rest.advances)⟩

theorem cycle_ok (done : cycle around m = .ok () k) :
    ∃ ins, k.last = some ins ∧ Advances m [⟨m.state.pc, ins⟩] k := by
  obtain completed | ⟨⟨e, after, failed⟩, _⟩ := cycle_advances around m
  · rwa [Change.after_of_ok done] at completed
  · rw [done] at failed
    cases failed

theorem cycle_trace (around : Surroundings κ ε) (m : Session ρ κ) :
    ∃ trace, Advances m trace ((cycle around).after m) := by
  obtain ⟨ins, _, advances⟩ | ⟨_, silent⟩ := cycle_advances around m
  · exact ⟨_, advances⟩
  · exact ⟨[], silent.advances⟩

end Cycle

theorem loop_trace (around : Surroundings κ ε) (fuel : Nat) (m : Session ρ κ) :
    ∃ trace, Advances m trace (loop around fuel m).2 := by
  induction fuel generalizing m with
  | zero => exact ⟨[], .start _, rfl⟩
  | succ fuel ih =>
    unfold loop
    split
    · exact ⟨[], .start _, rfl⟩
    · obtain ⟨before, first⟩ := cycle_trace around m
      split
      · next k done =>
        rw [Change.after_of_ok done] at first
        obtain ⟨after, rest⟩ := ih k
        exact ⟨before ++ after, first.trans rest⟩
      · next failed =>
        rw [Change.after_of_error failed] at first
        exact ⟨before, first⟩
      · next failed =>
        rw [Change.after_of_error failed] at first
        exact ⟨before, first⟩

theorem run_follows_reporting {R : Session ρ κ → Session ρ κ → Prop}
    (trans : ∀ a b c, R a b → R b c → R a c)
    (own : ∀ (m : Session ρ κ) stopping reason running, R m { m with stopping, reason, running })
    (halted : ∀ (m : Session ρ κ) pc f, R m (m.report (.runHalted pc f)))
    (stopped : ∀ (m : Session ρ κ) cycles reason, R m (m.report (.runStopped cycles reason)))
    (handler : Option (Fault → κ → Reply κ ε Unit))
    (handled : ∀ h ∈ handler, ∀ f,
      Change.Follows R (call fun _ world => h f world : Step ρ κ ε Unit))
    (around : Surroundings κ ε) (fuel : Nat) (m : Session ρ κ) :
    R (loop around fuel m.openRun).2 (run around handler fuel m).2 := by
  have asked (k : Session ρ κ) (reason : CodePoints) : R k (k.requestStop reason) := by
    unfold requestStop
    split
    · exact own k k.stopping k.reason k.running
    · exact own k true reason k.running
  have closed (k : Session ρ κ) : R k k.closeRun :=
    trans _ _ _ (asked k _) (own _ _ _ false)
  have settled (f : Fault) : Change.Follows R (settle handler f : Step ρ κ ε Unit) := by
    intro k
    have halted : R k (k.halt f) := trans _ _ _ (halted k k.state.pc f) (asked _ _)
    rw [Change.after, settle_eq]
    refine trans _ _ _ halted ?_
    cases handler with
    | none => exact own _ _ _ _
    | some h => exact handled h rfl f _
  unfold run
  cases loop around fuel m.openRun with | mk ending k =>
  cases ending with
  | unfinished => exact own k k.stopping k.reason k.running
  | escaped e => exact closed k
  | stopped => exact trans _ _ _ (closed k) (stopped _ _ _)
  | faulted f =>
    have after := settled f k
    dsimp only
    cases done : settle handler f k with
    | ok _ j =>
      rw [Change.after_of_ok done] at after
      exact trans _ _ _ after (trans _ _ _ (closed j) (stopped _ _ _))
    | error e j =>
      rw [Change.after_of_error done] at after
      exact trans _ _ _ after (closed j)

theorem run_follows {R : Session ρ κ → Session ρ κ → Prop} (trans : ∀ a b c, R a b → R b c → R a c)
    (own : ∀ (m : Session ρ κ) stopping reason running log,
      R m { m with stopping, reason, running, log })
    (handler : Option (Fault → κ → Reply κ ε Unit))
    (handled : ∀ h ∈ handler, ∀ f,
      Change.Follows R (call fun _ world => h f world : Step ρ κ ε Unit))
    (around : Surroundings κ ε) (fuel : Nat) (m : Session ρ κ) :
    R (loop around fuel m.openRun).2 (run around handler fuel m).2 :=
  run_follows_reporting trans (fun m stopping reason running => own m stopping reason running m.log)
    (fun m pc f => own m m.stopping m.reason m.running (m.log.push (.runHalted pc f)))
    (fun m n reason => own m m.stopping m.reason m.running (m.log.push (.runStopped n reason)))
    handler handled around fuel m

theorem sameMachine_run (around : Surroundings κ ε)
    (handler : Option (Fault → κ → Reply κ ε Unit)) (fuel : Nat) (m : Session ρ κ) :
    SameMachine (loop around fuel m.openRun).2 (run around handler fuel m).2 :=
  run_follows (R := SameMachine) (fun _ _ _ => SameMachine.trans)
    (fun _ _ _ _ _ => ⟨rfl, rfl, rfl⟩) handler (fun _ _ _ => sameMachine_call _) around fuel m

theorem run_trace (around : Surroundings κ ε) (handler : Option (Fault → κ → Reply κ ε Unit))
    (fuel : Nat) (m : Session ρ κ) : ∃ trace, Advances m trace (run around handler fuel m).2 := by
  obtain ⟨trace, advances⟩ := loop_trace around fuel m.openRun
  have opened := (sameMachine_openRun m).silent.advances
  have closed := (sameMachine_run around handler fuel m).silent.advances
  refine ⟨trace, ?_⟩
  simpa using (opened.trans advances).trans closed

end Session
end Chip8
