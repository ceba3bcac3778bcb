import Chip8.Proofs.Cycle

/-! Calls on record. A recorded world writes down every call that is made into it, with the stops
that were asked for in return and the failure, if any. A session does in a recorded world what it
does in the plain one, so what is said of the record is said of the calls. -/
namespace Chip8

namespace Change

variable {σ τ ε α β : Type} {R : σ → τ → Prop}

/-- Two results that say the same and leave related states behind. -/
inductive Alike (R : σ → τ → Prop) : Changed σ ε α → Changed τ ε α → Prop
  | ok {s : σ} {t : τ} (a : α) (related : R s t) : Alike R (.ok a s) (.ok a t)
  | error {s : σ} {t : τ} (e : ε) (related : R s t) : Alike R (.error e s) (.error e t)

def Matches (R : σ → τ → Prop) (one : Change σ ε α) (other : Change τ ε α) : Prop :=
  ∀ s t, R s t → Alike R (one s) (other t)

theorem Matches.modify {f : σ → σ} {g : τ → τ} (keeps : ∀ s t, R s t → R (f s) (g t)) :
    Matches R (modify f : Change σ ε Unit) (modify g : Change τ ε Unit) :=
  fun s t related => .ok () (keeps s t related)

theorem Matches.bind {one : Change σ ε α} {other : Change τ ε α} {rest : α → Change σ ε β}
    {rest' : α → Change τ ε β} (first : Matches R one other)
    (later : ∀ a, Matches R (rest a) (rest' a)) : Matches R (one >>= rest) (other >>= rest') := by
  intro s t related
  have between := first s t related
  simp only [Bind.bind, EStateM.bind]
  generalize one s = x at between ⊢
  generalize other t = y at between ⊢
  cases between with
  | ok a related => exact later a _ _ related
  | error e related => exact .error e related

end Change

def Changed.of {σ ε α : Type} (value : Except ε α) (after : σ) : Changed σ ε α :=
  match value with
  | .ok a => .ok a after
  | .error e => .error e after

/-- What a call is made for. A poll tells the snapshot that it gave, if it gave one. -/
inductive Asked
  | look
  | render (frame : Frame)
  | poll (snapshot : Option (Array Bool))
  | beep
  | handle (fault : Fault)

def Asked.isHandle : Asked → Bool
  | handle _ => true
  | _ => false

def Asked.isHost : Asked → Bool
  | render _ | poll _ | beep => true
  | look | handle _ => false

structure Call (ε : Type) where
  asked : Asked
  stops : List CodePoints
  failure : Option (Failure ε)

structure Recorded (κ ε : Type) where
  world : κ
  /-- Oldest first. -/
  calls : List (Call ε)

variable {ρ κ ε α : Type}

def Reply.failure? (reply : Reply κ ε α) : Option (Failure ε) :=
  match reply.value with
  | .ok _ => none
  | .error e => some e

def recording (asked : Option α → Asked) (ask : κ → Reply κ ε α) (w : Recorded κ ε) :
    Reply (Recorded κ ε) ε α :=
  let reply := ask w.world
  { reply with
    world :=
      ⟨reply.world, w.calls ++ [⟨asked reply.value.toOption, reply.stops, reply.failure?⟩]⟩ }

def Host.recorded (h : Host κ ε) : Host (Recorded κ ε) ε where
  render f := recording (fun _ => .render f) (h.render f)
  poll := recording .poll h.poll
  beep := recording (fun _ => .beep) h.beep

def Surroundings.recorded (around : Surroundings κ ε) : Surroundings (Recorded κ ε) ε where
  observer := around.observer.map fun look s => recording (fun _ => .look) (look s)
  host := around.host.map Host.recorded

def recordedHandler (handler : Fault → κ → Reply κ ε Unit) (f : Fault) :
    Recorded κ ε → Reply (Recorded κ ε) ε Unit :=
  recording (fun _ => .handle f) (handler f)

namespace Session

def recorded (m : Session ρ κ) : Session ρ (Recorded κ ε) := { m with world := ⟨m.world, []⟩ }

def forget (m : Session ρ (Recorded κ ε)) : Session ρ κ := { m with world := m.world.world }

def receive (m : Session ρ κ) (reply : Reply κ ε α) : Session ρ κ :=
  reply.stops.foldl requestStop
    { m with world := reply.world, log := m.log ++ reply.reports }

theorem world_requestStop (m : Session ρ κ) (reason : CodePoints) :
    (m.requestStop reason).world = m.world := by
  unfold requestStop
  split <;> rfl

theorem world_stops (stops : List CodePoints) (m : Session ρ κ) :
    (stops.foldl requestStop m).world = m.world := by
  induction stops generalizing m with
  | nil => rfl
  | cons reason rest ih => rw [List.foldl_cons, ih, world_requestStop]

theorem world_receive (m : Session ρ κ) (reply : Reply κ ε α) :
    (m.receive reply).world = reply.world := world_stops _ _

theorem sameMachine_receive (m : Session ρ κ) (reply : Reply κ ε α) :
    SameMachine m (m.receive reply) :=
  have stops := sameMachine_stops reply.stops
    { m with world := reply.world, log := m.log ++ reply.reports }
  ⟨stops.machine, stops.last, stops.cycles⟩

theorem call_eq (ask : State → κ → Reply κ ε α) (m : Session ρ κ) :
    (call ask : Step ρ κ ε α) m =
      Changed.of (ask m.state m.world).value (m.receive (ask m.state m.world)) := by
  unfold call Changed.of
  dsimp only
  cases (ask m.state m.world).value <;> rfl

theorem after_call (ask : State → κ → Reply κ ε α) (m : Session ρ κ) :
    (call ask : Step ρ κ ε α).after m = m.receive (ask m.state m.world) := by
  rw [Change.after, call_eq]
  cases (ask m.state m.world).value <;> rfl

theorem matches_call {κ' : Type} {R : Session ρ κ → Session ρ κ' → Prop}
    {ask : State → κ → Reply κ ε α} {ask' : State → κ' → Reply κ' ε α}
    (replies : ∀ m k, R m k → (ask m.state m.world).value = (ask' k.state k.world).value ∧
      R (m.receive (ask m.state m.world)) (k.receive (ask' k.state k.world))) :
    Change.Matches R (call ask : Step ρ κ ε α) (call ask') := by
  intro m k related
  obtain ⟨same, after⟩ := replies m k related
  rw [call_eq, call_eq, ← same]
  cases (ask m.state m.world).value with
  | ok a => exact .ok a after
  | error e => exact .error e after

def reveal (host : Option (Host κ ε)) : Step ρ κ ε Unit := do
  if let some host := host then
    call fun s world => host.render s.frame world

def lower : Step ρ κ ε Unit :=
  modify fun m => { m with state := { m.state with redraw := false } }

theorem present_eq (host : Option (Host κ ε)) (m : Session ρ κ) :
    present host m =
      if m.state.redraw then (reveal host >>= fun _ => lower) m else .ok () m := by
  have opened : present host m =
      (if m.state.redraw then reveal host >>= fun _ => lower else pure ()) m := by
    cases host <;> rfl
  rw [opened]
  split <;> rfl

section Coupling

variable {κ' : Type} {R : Session ρ κ → Session ρ κ' → Prop}

/-- A relation of sessions in two worlds, whose machines are the same and change together. -/
structure Coupling (R : Session ρ κ → Session ρ κ' → Prop) : Prop where
  state : ∀ {m k}, R m k → k.state = m.state
  random : ∀ {m k}, R m k → k.random = m.random
  moved : ∀ {m k} (state : State), R m k → R { m with state } { k with state }
  executed : ∀ {m k} (state : State) (random : ρ) (last : Option Instruction), R m k →
    R { m with state, random, last } { k with state, random, last }
  refused : ∀ {m k} (state : State) (random : ρ), R m k →
    R { m with state, random } { k with state, random }
  counted : ∀ {m k}, R m k → R { m with cycles := m.cycles + 1 } { k with cycles := k.cycles + 1 }

structure HostsMatch (R : Session ρ κ → Session ρ κ' → Prop) (host : Host κ ε)
    (host' : Host κ' ε) : Prop where
  render : Change.Matches R (call fun s world => host.render s.frame world : Step ρ κ ε Unit)
    (call fun s world => host'.render s.frame world)
  poll : Change.Matches R (call fun _ world => host.poll world : Step ρ κ ε (Array Bool))
    (call fun _ world => host'.poll world)
  beep : Change.Matches R (call fun _ world => host.beep world : Step ρ κ ε Unit)
    (call fun _ world => host'.beep world)

variable (coupling : Coupling R) {host : Option (Host κ ε)} {host' : Option (Host κ' ε)}
  (hosts : Option.Rel (HostsMatch R) host host')
include coupling

theorem Coupling.setKeys (snapshot : Array Bool) :
    Change.Matches R (setKeys snapshot : Step ρ κ ε Unit) (setKeys snapshot) := by
  intro m k related
  have state := coupling.state related
  simp only [Session.setKeys, State.setKeys, state]
  cases Keys.ofArray? snapshot with
  | none => exact .error _ related
  | some keys => exact .ok () (coupling.moved _ related)

include hosts

theorem Coupling.present : Change.Matches R (present host : Step ρ κ ε Unit) (present host') := by
  intro m k related
  have state := coupling.state related
  rw [present_eq, present_eq, state]
  split
  · have lowered : Change.Matches R (lower : Step ρ κ ε Unit) lower := by
      refine .modify fun m k related => ?_
      have state := coupling.state related
      rw [state]
      exact coupling.moved _ related
    refine Change.Matches.bind ?_ (fun _ => lowered) m k related
    cases hosts with
    | none => exact fun _ _ related => .ok () related
    | some pair => exact pair.render
  · exact .ok () related

theorem Coupling.pollKeys :
    Change.Matches R (pollKeys host : Step ρ κ ε Unit) (pollKeys host') := by
  cases hosts with
  | none => exact fun _ _ related => .ok () related
  | some pair => exact pair.poll.bind coupling.setKeys

theorem Coupling.tick : Change.Matches R (tick host : Step ρ κ ε Unit) (tick host') := by
  intro m k related
  have state := coupling.state related
  rw [tick_eq, tick_eq, state]
  have ticked := coupling.moved m.state.tick.2 related
  cases m.state.tick.1 with
  | false => exact .ok () ticked
  | true =>
    cases hosts with
    | none => exact .ok () ticked
    | some pair => exact pair.beep _ _ ticked

theorem Coupling.attend : Change.Matches R (attend host : Step ρ κ ε Unit) (attend host') :=
  (coupling.present hosts).bind fun _ => (coupling.pollKeys hosts).bind fun _ => coupling.tick hosts

variable [RandomSource ρ]

def proceed (host : Option (Host κ ε)) : Step ρ κ ε Unit := do
  execute
  countCycle
  attend host

omit coupling hosts in
theorem cycle_eq_proceed (around : Surroundings κ ε) :
    (cycle around : Step ρ κ ε Unit) = (observe around.observer >>= fun _ => proceed around.host) :=
  cycle_eq around

omit hosts in
theorem Coupling.execute : Change.Matches R (execute : Step ρ κ ε Unit) execute := by
  intro m k related
  have state := coupling.state related
  have random := coupling.random related
  simp only [Session.execute, state, random]
  cases m.state.execute m.random with | mk result after =>
  cases result with
  | ok ins t => exact .ok () (coupling.executed t after (some ins) related)
  | error f t => exact .error _ (coupling.refused t after related)

theorem Coupling.proceed : Change.Matches R (proceed host : Step ρ κ ε Unit) (proceed host') :=
  coupling.execute.bind fun _ =>
    (Change.Matches.modify fun _ _ => coupling.counted).bind fun _ => coupling.attend hosts

end Coupling

section Forgetting

def Forgets (m : Session ρ (Recorded κ ε)) (k : Session ρ κ) : Prop := m.forget = k

theorem coupling_forgets : Coupling (Forgets : Session ρ (Recorded κ ε) → Session ρ κ → Prop) where
  state := by rintro m _ rfl; rfl
  random := by rintro m _ rfl; rfl
  moved := by rintro m _ _ rfl; rfl
  executed := by rintro m _ _ _ _ rfl; rfl
  refused := by rintro m _ _ _ rfl; rfl
  counted := by rintro m _ rfl; rfl

theorem forget_requestStop (m : Session ρ (Recorded κ ε)) (reason : CodePoints) :
    (m.requestStop reason).forget = m.forget.requestStop reason := by
  have same : m.forget.stopping = m.stopping := rfl
  unfold requestStop
  rw [same]
  split <;> rfl

theorem forget_stops (stops : List CodePoints) (m : Session ρ (Recorded κ ε)) :
    (stops.foldl requestStop m).forget = stops.foldl requestStop m.forget := by
  induction stops generalizing m with
  | nil => rfl
  | cons reason rest ih => rw [List.foldl_cons, ih, forget_requestStop, List.foldl_cons]

theorem matches_recording (asked : State → Option α → Asked) (ask : State → κ → Reply κ ε α) :
    Change.Matches Forgets (call fun s => recording (asked s) (ask s) : Step ρ (Recorded κ ε) ε α)
      (call ask) := by
  refine matches_call ?_
  rintro m _ rfl
  exact ⟨rfl, forget_stops _ _⟩

theorem hostsMatch_recorded (host : Option (Host κ ε)) :
    Option.Rel (HostsMatch (Forgets : Session ρ (Recorded κ ε) → Session ρ κ → Prop))
      (host.map Host.recorded) host := by
  cases host with
  | none => exact .none
  | some host =>
    refine .some ⟨?_, ?_, ?_⟩
    · exact matches_recording (fun s _ => .render s.frame) fun s => host.render s.frame
    · exact matches_recording (fun _ => .poll) fun _ => host.poll
    · exact matches_recording (fun _ _ => .beep) fun _ => host.beep

theorem settle_forgets (handler : Option (Fault → κ → Reply κ ε Unit)) (f : Fault) :
    Change.Matches Forgets (settle (handler.map recordedHandler) f : Step ρ (Recorded κ ε) ε Unit)
      (settle handler f) := by
  rintro m _ rfl
  have halted : (m.halt f).forget = m.forget.halt f := forget_requestStop _ _
  rw [settle_eq, settle_eq, ← halted]
  cases handler with
  | none => exact .ok () rfl
  | some handler =>
    exact matches_recording (fun _ _ => .handle f) (fun _ world => handler f world) _ _ rfl

variable [RandomSource ρ]

theorem cycle_forgets (around : Surroundings κ ε) :
    Change.Matches Forgets (cycle around.recorded : Step ρ (Recorded κ ε) ε Unit)
      (cycle around) := by
  rw [cycle_eq_proceed, cycle_eq_proceed]
  refine Change.Matches.bind ?_ fun _ => coupling_forgets.proceed (hostsMatch_recorded around.host)
  obtain ⟨observer, host⟩ := around
  cases observer with
  | none => exact fun _ _ related => .ok () related
  | some look => exact matches_recording (fun _ _ => .look) look

theorem loop_forgets (around : Surroundings κ ε) (fuel : Nat) (m : Session ρ (Recorded κ ε)) :
    loop around fuel m.forget =
      ((loop around.recorded fuel m).1, (loop around.recorded fuel m).2.forget) := by
  induction fuel generalizing m with
  | zero => rfl
  | succ fuel ih =>
    have same : m.forget.stopping = m.stopping := rfl
    have step := cycle_forgets around m m.forget rfl
    rw [loop, loop, same]
    generalize cycle around.recorded m = x at step ⊢
    generalize cycle around m.forget = y at step ⊢
    cases m.stopping with
    | true => rfl
    | false =>
      cases step with
      | @ok k _ _ related =>
        cases related
        exact ih k
      | error e related =>
        cases related
        cases e <;> rfl

theorem run_forgets (around : Surroundings κ ε) (handler : Option (Fault → κ → Reply κ ε Unit))
    (fuel : Nat) (m : Session ρ (Recorded κ ε)) :
    run around handler fuel m.forget =
      ((run around.recorded (handler.map recordedHandler) fuel m).1,
        (run around.recorded (handler.map recordedHandler) fuel m).2.forget) := by
  have closed (k : Session ρ (Recorded κ ε)) : k.forget.closeRun = k.closeRun.forget := by
    have asked := forget_requestStop k (.ofString "aborted")
    simp only [closeRun, ← asked]
    rfl
  have left := loop_forgets around fuel m.openRun
  have opened : m.openRun.forget = m.forget.openRun := rfl
  rw [opened] at left
  unfold run
  rw [left]
  generalize loop around.recorded fuel m.openRun = ended
  obtain ⟨ending, k⟩ := ended
  cases ending with
  | unfinished => rfl
  | escaped e => simp only [closed]
  | stopped => simp only [closed]; rfl
  | faulted f =>
    have settled := settle_forgets handler f k k.forget rfl
    dsimp only
    generalize settle (handler.map recordedHandler) f k = x at settled ⊢
    generalize settle handler f k.forget = y at settled ⊢
    cases settled with
    | ok _ related => cases related; simp only [closed]; rfl
    | error e related => cases related; simp only [closed]

end Forgetting

end Session
end Chip8
