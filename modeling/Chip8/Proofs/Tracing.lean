import Chip8.Proofs.Decoding
import Chip8.Proofs.History
import Chip8.Proofs.Lifecycle
import Chip8.Proofs.Observers
import Mathlib.Data.List.DropRight
import Mathlib.Data.List.Induction

/-! Traced runs. A trace looks at the machine before every cycle and does nothing else: it writes
down one line and keeps the latest program counters. The line shows the word that the cycle is about
to fetch, though it reads memory by itself. -/
namespace Chip8

namespace State

def fetched (s : State) : Nat := (Instruction.fetch s.memory s.pc).toOption.getD 0

def shown (s : State) : TraceLine where
  pc := s.pc
  word := s.fetched
  i := s.i
  sp := s.sp
  delay := s.delay
  sound := s.sound
  registers := s.v.toList

end State

namespace Trace

variable {s : State}

theorem line_eq (whole : s.WellFormed) : line s = .ok s.shown := by
  unfold line State.shown State.fetched
  rw [whole.fetch]
  by_cases inside : s.pc < 0xFFF
  · have peeked : s.peek16 s.pc = .ok s.word := by
      rw [State.peek16, ← Instruction.fetch_eq_load16, whole.fetch, if_pos inside]
      rfl
    have within : s.pc + 1 < 0x1000 := by omega
    rw [if_pos within, if_pos inside, peeked]
    rfl
  · have past : ¬ s.pc + 1 < 0x1000 := by omega
    rw [if_neg past, if_neg inside]
    rfl

/-- What a trace has to report before a cycle. -/
def reports (o : Trace) (threshold : Int) (s : State) : List Report :=
  if Report.enabled threshold o.level then [.traced o.level s.shown] else []

def remembering (o : Trace) (pc : Int) : Trace :=
  { o with history := remember o.capacity o.history pc }

def after (o : Trace) (begun : List State) : Trace :=
  begun.foldl (fun o s => o.remembering s.pc) o

@[simp] theorem after_append (o : Trace) (begun later : List State) :
    o.after (begun ++ later) = (o.after begun).after later := List.foldl_append

@[simp] theorem level_after (o : Trace) (begun : List State) : (o.after begun).level = o.level := by
  induction begun generalizing o with
  | nil => rfl
  | cons s rest ih => exact ih _

theorem notice_eq (whole : s.WellFormed) (o : Trace) (threshold : Int) :
    o.notice threshold s = ⟨o.remembering s.pc, [], o.reports threshold s, none⟩ := by
  unfold notice reports remembering
  dsimp only
  rw [line_eq whole]
  split_ifs <;> rfl

end Trace

def Report.traced? : Report → Option (Int × TraceLine)
  | .traced level line => some (level, line)
  | _ => none

variable {ρ η ε α : Type}

/-- A reply that leaves the observer alone and says nothing that a trace might say. -/
structure Reply.Untraced (w : World η) (reply : Reply (World η) ε α) : Prop where
  observer : reply.world.observer = w.observer
  threshold : reply.world.threshold = w.threshold
  reports : ∀ r ∈ reply.reports, r.traced? = none

structure Host.Untraced (host : Host η ε) : Prop where
  render : ∀ f w, ∀ r ∈ (host.render f w).reports, r.traced? = none
  poll : ∀ w, ∀ r ∈ (host.poll w).reports, r.traced? = none
  beep : ∀ w, ∀ r ∈ (host.beep w).reports, r.traced? = none

namespace Session

def attempts [RandomSource ρ] {κ : Type} (around : Surroundings κ ε) :
    (fuel : Nat) → Session ρ κ → List (Session ρ κ)
  | 0, _ => []
  | fuel + 1, m =>
    if m.stopping then []
    else m :: match cycle around m with
      | .ok _ k => attempts around fuel k
      | .error _ _ => []

/-- The lines that a trace has written, oldest first. -/
def traced (m : Session ρ (World η)) : List (Int × TraceLine) :=
  m.log.toList.filterMap Report.traced?

structure Untraced (m k : Session ρ (World η)) : Prop where
  observer : k.world.observer = m.world.observer
  threshold : k.world.threshold = m.world.threshold
  traced : k.traced = m.traced

/-- A machine in working order that a trace looks at. -/
def Watched (m : Session ρ (World η)) : Prop :=
  m.state.WellFormed ∧ ∃ o, m.world.observer = some (.trace o)

/-- Cycles that began at these sessions were traced in between by `o`. -/
structure Traced (o : Trace) (m : Session ρ (World η)) (begun : List (Session ρ (World η)))
    (k : Session ρ (World η)) : Prop where
  observer : k.world.observer = some (.trace (o.after (begun.map state)))
  threshold : k.world.threshold = m.world.threshold
  traced : k.traced = m.traced ++ if Report.enabled m.world.threshold o.level then
    begun.map fun b => (o.level, b.state.shown) else []
  watched : ∀ b ∈ begun, b.Watched

section Traced

variable {o : Trace} {m k j : Session ρ (World η)} {begun later : List (Session ρ (World η))}

theorem Untraced.refl (m : Session ρ (World η)) : Untraced m m := ⟨rfl, rfl, rfl⟩

theorem Untraced.trans (one : Untraced m k) (other : Untraced k j) : Untraced m j :=
  ⟨other.observer.trans one.observer, other.threshold.trans one.threshold,
    other.traced.trans one.traced⟩

theorem Untraced.nothing (untraced : Untraced m k) (present : m.world.observer = some (.trace o)) :
    Traced o m [] k :=
  ⟨untraced.observer.trans present, untraced.threshold, by simp [untraced.traced], by simp⟩

theorem Traced.trans (one : Traced o m begun k)
    (other : Traced (o.after (begun.map state)) k later j) : Traced o m (begun ++ later) j := by
  refine ⟨?_, other.threshold.trans one.threshold, ?_, ?_⟩
  · rw [other.observer, List.map_append, Trace.after_append]
  · rw [other.traced, one.traced, Trace.level_after, one.threshold]
    split_ifs <;> simp
  · simpa [or_imp, forall_and] using ⟨one.watched, other.watched⟩

theorem log_receive (m : Session ρ (World η)) (reply : Reply (World η) ε α) :
    (m.receive reply).log = m.log ++ reply.reports := by
  suffices kept : ∀ (stops : List CodePoints) (k : Session ρ (World η)),
      (stops.foldl requestStop k).log = k.log from kept _ _
  intro stops
  induction stops with
  | nil => exact fun _ => rfl
  | cons reason rest ih =>
    intro k
    rw [List.foldl_cons, ih, requestStop]
    split <;> rfl

theorem untraced_call {ask : State → World η → Reply (World η) ε α}
    (silent : ∀ s w, (ask s w).Untraced w) :
    Change.Follows Untraced (call ask : Step ρ (World η) ε α) := by
  intro m
  have reply := silent m.state m.world
  rw [after_call]
  refine ⟨?_, ?_, ?_⟩
  · rw [world_receive, reply.observer]
  · rw [world_receive, reply.threshold]
  · simpa [Session.traced, log_receive] using reply.reports

theorem untraced_setKeys (snapshot : Array Bool) :
    Change.Follows Untraced (setKeys snapshot : Step ρ (World η) ε Unit) := by
  intro m
  unfold Change.after setKeys
  cases m.state.setKeys snapshot <;> exact ⟨rfl, rfl, rfl⟩

theorem untraced_load (m : Session ρ (World η)) (image : List UInt8) (name : CodePoints)
    (path : Option CodePoints) : Untraced m (m.load image name path).2 := by
  unfold load
  cases Program.place m.state.memory image <;> exact ⟨rfl, rfl, rfl⟩

theorem untraced_loadImage (m : Session ρ (World η)) (image : List UInt8) (name : CodePoints) :
    Untraced m (m.loadImage image name).2 := untraced_load m image _ none

theorem untraced_loadFile (m : Session ρ (World η)) (disk : Disk) (path : Path)
    (name : CodePoints) : Untraced m (m.loadFile disk path name).2 := by
  unfold loadFile
  cases disk.read path with
  | error fault => exact .refl m
  | ok image => exact untraced_load m image _ _

theorem untraced_requestStop (m : Session ρ (World η)) (reason : CodePoints) :
    Untraced m (m.requestStop reason) := by
  unfold requestStop
  split <;> exact ⟨rfl, rfl, rfl⟩

theorem look_eq (whole : m.state.WellFormed) (present : m.world.observer = some (.trace o)) :
    (call World.notice : Step ρ (World η) ε Unit) m =
      .ok () { m with
        world := { m.world with observer := some (.trace (o.remembering m.state.pc)) }
        log := m.log ++ o.reports m.world.threshold m.state } := by
  have noticed : (World.notice m.state m.world : Reply (World η) ε Unit) =
      ⟨{ m.world with observer := some (.trace (o.remembering m.state.pc)) }, [],
        o.reports m.world.threshold m.state, .ok ()⟩ := by
    simp [World.notice, present, Observer.notice, Trace.notice_eq whole, Notice.map]
  rw [call_eq, noticed]
  rfl

variable [RandomSource ρ] {host : Option (Host η ε)}

theorem untraced_execute :
    Change.Follows Untraced (execute : Step ρ (World η) ε Unit) := by
  intro m
  unfold Change.after execute
  cases m.state.execute m.random with | mk result random =>
  cases result <;> exact ⟨rfl, rfl, rfl⟩

theorem untraced_cycle (plain : ∀ h ∈ host, h.Untraced) :
    Change.Follows Untraced
      (cycle ⟨none, host.map World.liftHost⟩ : Step ρ (World η) ε Unit) := by
  refine follows_cycle (R := Untraced) (fun _ _ _ => Untraced.trans)
    (fun _ _ _ _ _ => ⟨rfl, rfl, rfl⟩) Untraced.refl ?_
  refine follows_attend (R := Untraced) (fun _ _ _ => Untraced.trans) Untraced.refl
    (fun _ => ⟨rfl, rfl, rfl⟩) (fun _ => ⟨rfl, rfl, rfl⟩) ?_ ?_ ?_
  all_goals
    intro h member
    obtain ⟨h, known, rfl⟩ := Option.map_eq_some_iff.1 member
  · exact untraced_call fun s w => ⟨rfl, rfl, (plain h known).render s.frame w.host⟩
  · exact .bind (R := Untraced) Untraced.trans
      (untraced_call fun _ w => ⟨rfl, rfl, (plain h known).poll w.host⟩) untraced_setKeys
  · exact untraced_call fun _ w => ⟨rfl, rfl, (plain h known).beep w.host⟩

theorem traced_cycle (plain : ∀ h ∈ host, h.Untraced) (whole : m.state.WellFormed)
    (present : m.world.observer = some (.trace o)) :
    Traced o m [m] ((cycle (World.surroundings host)).after m) := by
  have looked := look_eq (ε := ε) whole present
  generalize noted : ({ m with
    world := { m.world with observer := some (.trace (o.remembering m.state.pc)) }
    log := m.log ++ o.reports m.world.threshold m.state } : Session ρ (World η)) = seen at looked
  have first : Traced o m [m] seen := by
    subst noted
    refine ⟨rfl, rfl, ?_, by simpa using ⟨whole, o, present⟩⟩
    unfold Session.traced Trace.reports
    split_ifs <;> simp [Report.traced?]
  have rest := untraced_cycle plain seen
  have same : (cycle (World.surroundings host)).after m =
      (cycle ⟨none, host.map World.liftHost⟩ : Step ρ (World η) ε Unit).after seen := by
    have looking : (observe (World.surroundings host).observer : Step ρ (World η) ε Unit) m =
      .ok () seen := looked
    rw [Change.after, Change.after, cycle_eq_proceed, cycle_eq_proceed,
      Change.bind_of_ok _ looking]
    rfl
  rw [same]
  exact first.trans (rest.nothing first.observer)

theorem wellFormed_cycle (whole : m.state.WellFormed) (around : Surroundings (World η) ε) :
    ((cycle around).after m).state.WellFormed := by
  obtain ⟨_, advances⟩ := cycle_trace around m
  exact advances.trail.wellFormed whole

theorem traced_loop (plain : ∀ h ∈ host, h.Untraced) (fuel : Nat) (whole : m.state.WellFormed)
    (present : m.world.observer = some (.trace o)) :
    Traced o m (attempts (World.surroundings host) fuel m)
      (loop (World.surroundings host) fuel m).2 := by
  induction fuel generalizing m o with
  | zero => exact (Untraced.refl m).nothing present
  | succ fuel ih =>
    rw [attempts, loop]
    cases m.stopping with
    | true => exact (Untraced.refl m).nothing present
    | false =>
      have first := traced_cycle plain whole present
      have after := wellFormed_cycle whole (World.surroundings host)
      rw [if_neg Bool.false_ne_true, if_neg Bool.false_ne_true]
      cases stepped : cycle (World.surroundings host) m with
      | ok _ k =>
        rw [Change.after_of_ok stepped] at first after
        exact first.trans (ih after first.observer)
      | error e k =>
        rw [Change.after_of_error stepped] at first
        cases e <;> exact first

theorem untraced_run {handler : Option (Fault → World η → Reply (World η) ε Unit)}
    (silent : ∀ h ∈ handler, ∀ f w, (h f w).Untraced w) (around : Surroundings (World η) ε)
    (fuel : Nat) : Untraced (loop around fuel m.openRun).2 (run around handler fuel m).2 := by
  have noted (m : Session ρ (World η)) (r : Report) (other : r.traced? = none) :
      Untraced m (m.report r) := ⟨rfl, rfl, by simp [Session.traced, report, other]⟩
  exact run_follows_reporting (R := Untraced) (fun _ _ _ => Untraced.trans)
    (fun _ _ _ _ => ⟨rfl, rfl, rfl⟩) (fun m pc f => noted m (.runHalted pc f) rfl)
    (fun m n reason => noted m (.runStopped n reason) rfl) handler
    (fun h member f => untraced_call fun _ w => silent h member f w) around fuel m

end Traced

section Foreshown

variable [RandomSource ρ] {κ : Type}

end Foreshown

end Session

namespace Deed

/-- What is done while a trace stays in its place: nothing but the trace writes down cycles. -/
def Plain : Deed (World η) ε → Prop
  | run around handler _ =>
    (∃ host : Option (Host η ε), around = World.surroundings host ∧ ∀ h ∈ host, h.Untraced) ∧
      ∀ h ∈ handler, ∀ f w, (h f w).Untraced w
  | step around =>
    ∃ host : Option (Host η ε), around = World.surroundings host ∧ ∀ h ∈ host, h.Untraced
  | elsewhere _ => False
  | _ => True

variable [RandomSource ρ]

def attempts {κ : Type} (m : Session ρ κ) : Deed κ ε → List (Session ρ κ)
  | run around _ fuel => Session.attempts around fuel m.openRun
  | step _ => [m]
  | _ => []

variable {o : Trace} {m : Session ρ (World η)}

theorem traced (d : Deed (World η) ε) (plain : d.Plain) (whole : m.state.WellFormed)
    (present : m.world.observer = some (.trace o)) :
    Session.Traced o m (d.attempts m) (d.apply m) := by
  have quiet {k : Session ρ (World η)} (untraced : Session.Untraced m k) :
      Session.Traced o m [] k := untraced.nothing present
  cases d with
  | run around handler fuel =>
    obtain ⟨⟨host, rfl, plain⟩, silent⟩ := plain
    have opened : Session.Untraced m m.openRun :=
      ⟨rfl, rfl, by simp [Session.traced, Session.openRun, Session.report, Report.traced?]⟩
    have looped := Session.traced_loop plain fuel (m := m.openRun) whole present
    have closed := (Session.untraced_run silent (World.surroundings host) fuel (m := m)).nothing
      looped.observer
    have settled := (opened.nothing present).trans (looped.trans closed)
    rwa [List.nil_append, List.append_nil] at settled
  | step around =>
    obtain ⟨host, rfl, plain⟩ := plain
    exact Session.traced_cycle plain whole present
  | loadImage image name => exact quiet (Session.untraced_loadImage m image name)
  | loadFile disk path name => exact quiet (Session.untraced_loadFile m disk path name)
  | execute => exact quiet (Session.untraced_execute m)
  | tick => exact quiet ⟨rfl, rfl, rfl⟩
  | setKeys snapshot => exact quiet (Session.untraced_setKeys snapshot m)
  | stop reason => exact quiet (Session.untraced_requestStop m reason)
  | elsewhere world => exact plain.elim

end Deed

namespace Session

variable [RandomSource ρ]

end Session

end Chip8
