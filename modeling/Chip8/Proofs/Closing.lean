import Chip8.Proofs.Events
import Chip8.Proofs.Lifecycle
import Chip8.Proofs.Protocol

/-! A window as the host of a machine. It answers every call, and it asks for a stop exactly when a
poll handles an event that asks for the end. The cycle in which that happens is completed, and no
other begins. -/
namespace Chip8

variable {ρ κ ε : Type}

namespace Tone

theorem exists_store {value : Int} (low : -32768 ≤ value) (high : value ≤ 32767) :
    ∃ stored, store value = .ok stored := by
  refine ⟨value, ?_⟩
  unfold store
  rw [if_neg (by omega), if_neg (by omega), if_neg (by omega)]

theorem samples_eq {round : Number.Rounding} {t : Tone} {height length total : Int} {count : Nat}
    (amplitude : t.amplitude round = .ok height) (period : t.period round = .ok length)
    (all : t.total round length = .ok total) {room : Nat} (fits : allot room total = .ok count) :
    t.samples round room = (List.range count).mapM fun i => store (sample height length i) := by
  simp only [samples, amplitude, period, Except.mapError, bind, Except.bind, all, fits]

theorem exists_samples_standard {room : Nat} (roomy : 4410 ≤ room) :
    ∃ samples, standard.samples Binary64.round room = .ok samples := by
  have amplitude : standard.amplitude Binary64.round = .ok 9830 :=
    ok_of_toOption (by decide +kernel)
  have period : standard.period Binary64.round = .ok 100 := ok_of_toOption (by decide +kernel)
  have total : standard.total Binary64.round 100 = .ok 4410 := ok_of_toOption (by decide +kernel)
  have fits : allot room 4410 = .ok 4410 := by
    rw [allot, if_neg (by decide), if_neg (by omega)]
    rfl
  rw [samples_eq amplitude period total fits]
  refine exists_mapM fun i _ => ?_
  unfold sample
  split <;> exact exists_store (by omega) (by omega)

end Tone

namespace Desktop

/-- There is memory for the sound of a window. -/
def Roomy (d : Desktop) : Prop := 4410 ≤ d.room

structure SameEvents (d e : Desktop) : Prop where
  keyCode? : e.keyCode? = d.keyCode?
  room : e.room = d.room
  available : e.available = d.available
  queue : e.queue = d.queue
  idle : e.idle = d.idle

variable {d e f : Desktop}

theorem SameEvents.refl (d : Desktop) : SameEvents d d := ⟨rfl, rfl, rfl, rfl, rfl⟩

theorem SameEvents.trans (one : SameEvents d e) (other : SameEvents e f) : SameEvents d f where
  keyCode? := other.keyCode?.trans one.keyCode?
  room := other.room.trans one.room
  available := other.available.trans one.available
  queue := other.queue.trans one.queue
  idle := other.idle.trans one.idle

theorem SameEvents.eventOf? (same : SameEvents d e) : e.eventOf? = d.eventOf? := by
  funext input
  cases input <;> simp only [Desktop.eventOf?, same.keyCode?]

theorem SameEvents.roomy (same : SameEvents d e) (roomy : d.Roomy) : e.Roomy := by
  rwa [Roomy, same.room]

theorem sameEvents_request (d : Desktop) (r : Request) : SameEvents d (d.request r) :=
  ⟨rfl, rfl, rfl, rfl, rfl⟩

theorem sameEvents_requestAll (d : Desktop) (rs : List Request) : SameEvents d (d.requestAll rs) :=
  ⟨rfl, rfl, rfl, rfl, rfl⟩

/-- Everything that happens has an event. -/
def Tells (d : Desktop) : Prop :=
  ∀ batch ∈ d.idle :: d.queue, ∃ events, batch.mapM d.eventOf? = some events

theorem Tells.take (tells : d.Tells) :
    ∃ events after, d.takeEvents = (some events, after) ∧ after.available = d.available ∧
      (d.Roomy → after.Roomy) ∧ after.Tells := by
  cases queue : d.queue with
  | nil =>
    obtain ⟨events, told⟩ := tells d.idle List.mem_cons_self
    exact ⟨events, d.request .events, by simp only [takeEvents, queue, told], rfl, id, tells⟩
  | cons batch rest =>
    have listed : ∀ other ∈ batch :: rest, ∃ events, other.mapM d.eventOf? = some events :=
      fun other member => tells other (List.mem_cons_of_mem _ (queue ▸ member))
    obtain ⟨events, told⟩ := listed batch List.mem_cons_self
    refine ⟨events, { d.request .events with queue := rest },
      by simp only [takeEvents, queue, told], rfl, id, fun other member => ?_⟩
    obtain rfl | later := List.mem_cons.1 member
    · exact tells _ List.mem_cons_self
    · exact listed other (List.mem_cons_of_mem _ later)

end Desktop

namespace Beeper

variable {b : Beeper}

theorem prepare_eq (b : Beeper) (d : Desktop) :
    (b.prepare d).1.tone = b.tone ∧ d.SameEvents (b.prepare d).2 := by
  unfold prepare
  split
  · exact ⟨rfl, .refl d⟩
  · split
    · exact ⟨rfl, .refl d⟩
    · dsimp only
      split <;> split <;> exact ⟨rfl, rfl, rfl, rfl, rfl, rfl⟩

theorem build_standard (standard : b.tone = Tone.standard) {d : Desktop} (roomy : d.Roomy) :
    ∃ count after desktop, b.build Binary64.round d = .ok (count, after, desktop) ∧
      after.tone = Tone.standard ∧ d.SameEvents desktop := by
  obtain ⟨samples, known⟩ := Tone.exists_samples_standard roomy
  rw [← standard] at known ⊢
  unfold build
  cases b.sound with
  | some count => exact ⟨count, b, d, rfl, rfl, .refl d⟩
  | none =>
    simp only [known]
    exact ⟨_, _, _, rfl, rfl, Desktop.sameEvents_request _ _⟩

theorem beep_standard (standard : b.tone = Tone.standard) (time : Option Number) {d : Desktop}
    (roomy : d.Roomy) :
    ∃ after desktop, b.beep Binary64.round time d = (.ok (), after, desktop) ∧
      after.tone = Tone.standard ∧ d.SameEvents desktop := by
  obtain ⟨tone, same⟩ := prepare_eq { b with history := b.history.push time } d
  unfold beep
  generalize prepare { b with history := b.history.push time } d = prepared at tone same
  have tone : prepared.1.tone = Tone.standard := tone.trans standard
  obtain ⟨count, after, desktop, built, kept, unchanged⟩ :=
    build_standard tone (same.roomy roomy)
  dsimp only
  rw [built]
  split
  · have requested := Desktop.sameEvents_requestAll desktop [.volume, .play count]
    exact ⟨_, _, rfl, kept, same.trans (unchanged.trans requested)⟩
  · exact ⟨_, _, rfl, tone, same⟩

end Beeper

namespace Window

variable {w v : Window}

/-- A window that serves a running machine. Whatever happens at its desktop has an event, there is
memory for its sound, and no stop is left to be passed on. -/
structure Serving (w : Window) : Prop extends w.Ready where
  attached : w.attached = true
  positive : 0 < w.scale
  standard : w.beeper.tone = Tone.standard
  tells : w.desktop.Tells
  roomy : w.desktop.Roomy
  unheard : w.stops = []

/-- The events that the next poll handles. -/
def due (w : Window) : List Event :=
  if (w.polls + 1) % w.interval = 0 then (w.desktop.takeEvents.1).getD [] else []

theorem serving_of_openUp {keymap : Keymap} {scale interval : Int} {audio : Bool}
    {caption : CodePoints} {desktop : Desktop} {after : Window} (tells : desktop.Tells)
    (roomy : desktop.Roomy) (small : ∀ entry ∈ keymap, 0 ≤ entry.2 ∧ entry.2 < 16)
    (created : create scale interval keymap audio caption desktop = .ok w)
    (opens : openUp { w with attached := true } = .ok () after) : after.Serving := by
  have made := made_of_create created
  have ready := ready_of_openUp small created opens
  obtain ⟨_, _, _, rfl⟩ := openUp_ok opens
  exact {
    toReady := ready
    attached := rfl
    positive := made.positive
    standard := made.standard
    tells := made.desktop ▸ tells
    roomy := made.desktop ▸ roomy
    unheard := made.stops }

/-- What showing a frame and beeping leave alone. -/
structure Undisturbed (w v : Window) : Prop where
  events : w.desktop.SameEvents v.desktop
  codes : v.codes = w.codes
  interval : v.interval = w.interval
  polls : v.polls = w.polls
  attached : v.attached = w.attached
  scale : v.scale = w.scale
  tone : v.beeper.tone = w.beeper.tone
  stops : v.stops = w.stops
  keypad : v.keypad = w.keypad
  quitRequested : v.quitRequested = w.quitRequested

theorem Serving.undisturbed (serving : w.Serving) (same : Undisturbed w v) : v.Serving where
  available := same.events.available.trans serving.available
  small := same.codes ▸ serving.small
  attached := same.attached.trans serving.attached
  positive := same.scale ▸ serving.positive
  standard := same.tone.trans serving.standard
  tells := by
    rw [Desktop.Tells, same.events.idle, same.events.queue, same.events.eventOf?]
    exact serving.tells
  roomy := same.events.roomy serving.roomy
  unheard := same.stops.trans serving.unheard

theorem Undisturbed.due (same : Undisturbed w v) : v.due = w.due := by
  have taken : v.desktop.takeEvents.1 = w.desktop.takeEvents.1 := by
    simp only [Desktop.takeEvents, same.events.queue, same.events.idle, same.events.eventOf?]
    cases w.desktop.queue <;> rfl
  rw [Window.due, Window.due, same.polls, same.interval, taken]

theorem renderFrame_serving (serving : w.Serving) (f : Frame) :
    ∃ after, renderFrame f w = .ok () after ∧ Undisturbed w after := by
  rw [renderFrame, Change.bind_of_ok _ (requireLibrary_eq serving.available), Change.modify_bind,
    paint, Change.get_bind]
  have painted : (w.display.showFrame f).surface w.scale w.desktop =
      .ok (w.desktop.requestAll ((w.display.showFrame f).paint w.scale)) := by
    have positive : ¬ w.scale ≤ 0 := Int.not_le.2 serving.positive
    rw [Display.surface, if_neg positive, if_pos serving.available]
  cases opened : w.isOpen with
  | false =>
    refine ⟨{ w with display := w.display.showFrame f }, by simp only [opened]; rfl, ?_⟩
    exact ⟨.refl _, rfl, rfl, rfl, rfl, rfl, rfl, rfl, rfl, rfl⟩
  | true =>
    refine ⟨_, by simp only [painted]; rfl, ?_⟩
    have same := (Desktop.sameEvents_requestAll w.desktop
      ((w.display.showFrame f).paint w.scale)).trans
      (Desktop.sameEvents_requestAll _ [.blit 0 0, .flip])
    exact ⟨same, rfl, rfl, rfl, rfl, rfl, rfl, rfl, rfl, rfl⟩

theorem beep_serving (serving : w.Serving) (time : Option Number) :
    ∃ after, beep time w = .ok () after ∧ Undisturbed w after := by
  obtain ⟨beeper, desktop, beeped, tone, same⟩ :=
    Beeper.beep_standard serving.standard time serving.roomy
  refine ⟨{ w with beeper, desktop }, ?_, ?_⟩
  · simp only [beep, beeped]
  · exact ⟨same, rfl, rfl, rfl, rfl, rfl, tone.trans serving.standard.symm, rfl, rfl, rfl⟩

theorem stops_foldl (events : List Event) (w : Window) :
    (events.foldl handled w).stops = w.stops ++
      if w.attached then (events.filter Event.quits).map fun _ => closedReason else [] := by
  induction events generalizing w with
  | nil => simp
  | cons e rest ih =>
    rw [List.foldl_cons, ih, (same_handled w e).attached]
    unfold handled
    cases quits : e.quits with
    | true => cases attached : w.attached <;> simp [quitting, quits, attached]
    | false => cases e <;> simp [keyed, quits]

theorem poll_serving (serving : w.Serving) :
    ∃ after, poll w = .ok after.keypad.down.toArray after ∧
      Serving { after with stops := [] } ∧
      after.quitRequested = (w.quitRequested || w.due.any Event.quits) ∧
      after.stops = (w.due.filter Event.quits).map fun _ => closedReason := by
  by_cases asked : (w.polls + 1) % w.interval = 0
  · obtain ⟨events, d, taken, available, roomy, tells⟩ := serving.tells.take
    have available : d.available = true := available.trans serving.available
    have known : w.due = events := by rw [due, if_pos asked, taken, Option.getD_some]
    have same := same_foldl events { w with polls := w.polls + 1, desktop := d }
    have ready := same.ready ⟨available, serving.small⟩
    have scale : _ = w.scale := same.scale
    have beeper : _ = w.beeper := same.beeper
    have desktop : _ = d := same.desktop
    have attached := same.attached.trans serving.attached
    refine ⟨_, poll_due serving.toReady asked taken available, ?_, ?_, ?_⟩
    · exact {
        available := ready.available
        small := ready.small
        attached
        positive := lt_of_lt_of_eq serving.positive scale.symm
        standard := (congrArg Beeper.tone beeper).trans serving.standard
        tells := Eq.subst desktop.symm tells
        roomy := Eq.subst desktop.symm (roomy serving.roomy)
        unheard := rfl }
    · rw [quitRequested_foldl, known]
    · rw [stops_foldl, known, serving.unheard, List.nil_append]
      exact if_pos serving.attached
  · have none : w.due = [] := by rw [due, if_neg asked]
    refine ⟨{ w with polls := w.polls + 1 }, poll_early asked, ?_, ?_, ?_⟩
    · exact { serving with unheard := rfl }
    · rw [none, List.any_nil, Bool.or_false]
    · rw [none, serving.unheard]
      rfl

theorem render_stops (serving : w.Serving) (f : Frame) : (host.render f w).stops = [] := by
  obtain ⟨after, shown, same⟩ := renderFrame_serving serving f
  simp only [host, reply, shown, same.stops, serving.unheard]

theorem beep_stops (serving : w.Serving) : (host.beep w).stops = [] := by
  obtain ⟨after, beeped, same⟩ := beep_serving serving none
  simp only [host, reply, beeped, same.stops, serving.unheard]

theorem poll_stops (serving : w.Serving) :
    (host.poll w).stops = (w.due.filter Event.quits).map fun _ => closedReason := by
  obtain ⟨after, polled, _, _, stops⟩ := poll_serving serving
  simp only [host, reply, polled, stops]

theorem due_render (serving : w.Serving) (f : Frame) : (host.render f w).world.due = w.due := by
  obtain ⟨after, shown, same⟩ := renderFrame_serving serving f
  rw [← same.due]
  simp only [host, reply, shown]
  rfl

theorem head?_poll_stops (serving : w.Serving) (quits : ∃ e ∈ w.due, e.quits = true) :
    (host.poll w).stops.head? = some closedReason := by
  rw [poll_stops serving, List.head?_map]
  cases first : (w.due.filter Event.quits).head? with
  | some _ => rfl
  | none =>
    obtain ⟨e, member, quits⟩ := quits
    have found : e ∈ w.due.filter Event.quits := List.mem_filter.2 ⟨member, quits⟩
    rw [List.head?_eq_none_iff.1 first] at found
    cases found

theorem host_answers : host.Answers Serving where
  render f w serving := by
    obtain ⟨after, shown, same⟩ := renderFrame_serving serving f
    have served := serving.undisturbed same
    simp only [host, reply, shown]
    exact ⟨trivial, { served with unheard := rfl }⟩
  poll w serving := by
    obtain ⟨after, polled, served, _⟩ := poll_serving serving
    simp only [host, reply, polled]
    exact ⟨_, rfl, served⟩
  beep w serving := by
    obtain ⟨after, beeped, same⟩ := beep_serving serving none
    have served := serving.undisturbed same
    simp only [host, reply, beeped]
    exact ⟨trivial, { served with unheard := rfl }⟩
  sixteen w snapshot serving given := by
    obtain ⟨after, polled, _⟩ := poll_serving serving
    simp only [host, reply, polled] at given
    cases given
    exact Vector.size_toArray _

end Window

namespace Session

section Pending

variable {α β : Type} {host : Host κ ε} {Fit : κ → Prop} {m k : Session ρ κ}

theorem pending_call_bind (ask : State → κ → Reply κ ε α) {rest : α → Step ρ κ ε β}
    (keeps : ∀ a (m : Session ρ κ), ((rest a).after m).pending = m.pending) (m : Session ρ κ) :
    ((call ask >>= rest).after m).pending = m.pending.or (ask m.state m.world).stops.head? := by
  have called := call_eq ask m
  rw [← pending_receive m (ask m.state m.world), Change.after]
  cases value : (ask m.state m.world).value with
  | ok a =>
    rw [value] at called
    rw [Change.bind_of_ok _ called]
    exact keeps a _
  | error e =>
    rw [value] at called
    rw [Change.bind_of_error _ called]

theorem pending_present (host : Host κ ε) (m : Session ρ κ) :
    ((present (some host) : Step ρ κ ε Unit).after m).pending =
      m.pending.or (if m.state.redraw then (host.render m.state.frame m.world).stops.head?
        else none) := by
  rw [Change.after, present_eq]
  cases m.state.redraw with
  | false => exact Option.or_none.symm
  | true => exact pending_call_bind (fun s world => host.render s.frame world) (fun _ _ => rfl) m

theorem pending_pollKeys (host : Host κ ε) (m : Session ρ κ) :
    ((pollKeys (some host) : Step ρ κ ε Unit).after m).pending =
      m.pending.or (host.poll m.world).stops.head? := by
  refine pending_call_bind (fun _ world => host.poll world) (fun snapshot m => ?_) m
  unfold Change.after setKeys State.setKeys
  cases Keys.ofArray? snapshot <;> rfl

theorem pending_tick (host : Host κ ε) (m : Session ρ κ) :
    ((tick (some host) : Step ρ κ ε Unit).after m).pending =
      m.pending.or (if m.state.tick.1 then (host.beep m.world).stops.head? else none) := by
  rw [Change.after, tick_eq]
  cases m.state.tick.1 with
  | false => exact Option.or_none.symm
  | true =>
    have beeped : ((signal (some host) true : Step ρ κ ε Unit).after
        { m with state := m.state.tick.2 }) = _ := after_call (fun _ world => host.beep world) _
    exact (congrArg pending beeped).trans (pending_receive _ _)

theorem pending_attend (serves : host.Serves Fit)
    (unshown : ∀ f w, Fit w → (host.render f w).stops = [])
    (unheard : ∀ w, Fit w → (host.beep w).stops = []) (fit : Fit m.world)
    (attended : (attend (some host) : Step ρ κ ε Unit) m = .ok () k) :
    k.pending = m.pending.or (host.poll (host.shown m.state m.world)).stops.head? := by
  obtain ⟨j, presented, one⟩ := present_served serves m fit
  have shown : Fit j.world := one.world ▸ serves.shown m.state fit
  have first := pending_present host m
  rw [Change.after_of_ok presented, unshown _ _ fit] at first
  rw [attend, Change.bind_of_ok _ presented] at attended
  have second := pending_pollKeys host j
  cases polled : (pollKeys (some host) : Step ρ κ ε Unit) j with
  | error e i =>
    rw [Change.bind_of_error _ polled] at attended
    cases attended
  | ok _ i =>
    rw [Change.bind_of_ok _ polled] at attended
    rw [Change.after_of_ok polled] at second
    have third := pending_tick host i
    obtain ⟨snapshot, l, _, taken, two⟩ := pollKeys_served serves j shown
    have world : i.world = (host.poll j.world).world := by
      rw [taken, setKeys] at polled
      split at polled
      · cases polled
        exact two.world
      · cases polled
    have fit : Fit i.world := by
      obtain ⟨_, _, fit⟩ := serves.poll j.world shown
      exact world ▸ fit
    rw [Change.after_of_ok attended, unheard _ fit] at third
    rw [third, second, first, one.world]
    simp

end Pending

theorem pending_observe (observer : Option (State → κ → Reply κ ε Unit)) (m : Session ρ κ) :
    ((observe observer : Step ρ κ ε Unit).after m).pending =
      m.pending.or (observer.bind fun look => (look m.state m.world).stops.head?) := by
  cases observer with
  | none => exact Option.or_none.symm
  | some look => exact (congrArg pending (after_call look m)).trans (pending_receive _ _)

section Window

variable [RandomSource ρ] {around : Surroundings (World Window) Window.Fault}
  {m k b : Session ρ (World Window)}

def askedBefore (around : Surroundings (World Window) Window.Fault) (b : Session ρ (World Window)) :
    Option CodePoints :=
  around.observer.bind fun look => (look b.state b.world).stops.head?

/-- A machine whose host is a window. Its observer may do anything but touch the window. -/
structure Windowed (around : Surroundings (World Window) Window.Fault) : Prop where
  hosted : around.host = some (World.liftHost Window.host)
  apart : ∀ look ∈ around.observer, ∀ s w, (look s w).world.host = w.host

omit [RandomSource ρ] in
theorem Windowed.noticed (windowed : Windowed around) (m : Session ρ (World Window)) :
    (noticed around m).host = m.world.host := by
  unfold Session.noticed
  cases observer : around.observer with
  | none => rfl
  | some look =>
    have called : (observe (some look) : Step ρ (World Window) Window.Fault Unit).after m = _ :=
      after_call look m
    rw [called, world_receive]
    exact windowed.apart look observer _ _

theorem due_shown {w : World Window} (serving : w.host.Serving) (s : State) :
    ((World.liftHost Window.host).shown s w).host.due = w.host.due := by
  unfold Host.shown
  split
  · exact Window.due_render serving s.frame
  · rfl

omit [RandomSource ρ] in
theorem attend_closing (serving : m.world.host.Serving)
    (quits : ∃ e ∈ m.world.host.due, e.quits = true) :
    ∃ k, (attend (some (World.liftHost Window.host)) : Step ρ (World Window) Window.Fault Unit) m =
        .ok () k ∧ k.cycles = m.cycles ∧
      k.pending = m.pending.or (some Window.closedReason) := by
  have answers := Window.host_answers.lift
  obtain ⟨_, k, _, attended, becomes⟩ :=
    attend_answered answers.toServes m answers.sixteen serving
  have asked := pending_attend answers.toServes (fun f _ fit => Window.render_stops fit f)
    (fun _ fit => Window.beep_stops fit) serving attended
  have served := answers.toServes.shown m.state serving
  have polled := Window.head?_poll_stops served (due_shown serving m.state ▸ quits)
  exact ⟨k, attended, becomes.cycles, asked.trans (congrArg _ polled)⟩

theorem cycle_closing (windowed : Windowed around) (serving : b.world.host.Serving)
    (performed : executed? around b ≠ none) (quits : ∃ e ∈ b.world.host.due, e.quits = true) :
    ∃ k, cycle around b = .ok () k ∧ k.cycles = b.cycles + 1 ∧
      k.pending = (b.pending.or (askedBefore around b)).or (some Window.closedReason) := by
  have noticed := windowed.noticed b
  have pending := pending_observe around.observer b
  cases observed : observe around.observer b with
  | error e seen =>
    rw [executed?, observed] at performed
    exact absurd rfl performed
  | ok _ seen =>
    have same := sameMachine_observe around.observer b
    rw [Session.noticed, Change.after_of_ok observed] at noticed
    rw [Change.after_of_ok observed] at pending same
    cases executed : (execute : Step ρ (World Window) Window.Fault Unit) seen with
    | error e k =>
      obtain ⟨f, t, random, refused, _⟩ := (execute_eq_error_iff _ _ _).1 executed
      simp only [executed?, observed, refused] at performed
      exact absurd rfl performed
    | ok _ j =>
      obtain ⟨ins, s, random, _, rfl⟩ := (execute_eq_ok_iff _ _).1 executed
      obtain ⟨k, attended, cycles, asked⟩ := attend_closing
        (m := { seen with state := s, random, last := some ins, cycles := seen.cycles + 1 })
        (noticed ▸ serving) (noticed ▸ quits)
      refine ⟨k, ?_, cycles.trans (congrArg (· + 1) same.cycles), ?_⟩
      · rw [cycle_of_executed observed executed, windowed.hosted]
        exact attended
      · rw [asked, askedBefore, ← pending]
        rfl

theorem serving_cycle (windowed : Windowed around) (whole : b.state.WellFormed)
    (serving : b.world.host.Serving) (done : cycle around b = .ok () k) :
    k.state.WellFormed ∧ k.world.host.Serving ∧ k.cycles = b.cycles + 1 := by
  have noticed := windowed.noticed b
  obtain ⟨_, _, advances⟩ := cycle_ok done
  refine ⟨advances.trail.wellFormed whole, ?_, advances.cycles⟩
  have answers := Window.host_answers.lift
  obtain ⟨_, _, _, failed, _⟩ | ⟨t, j, passed, answered⟩ :=
    cycle_answered answers windowed.hosted whole (noticed ▸ serving)
  · cases done.symm.trans failed
  · cases done.symm.trans passed
    rw [answered.world]
    exact answers.toServes.served t.executed.state (noticed ▸ serving)

theorem serving_laps (windowed : Windowed around) {begun : List (Session ρ (World Window))}
    (laps : Laps around m begun none b) (whole : m.state.WellFormed)
    (serving : m.world.host.Serving) :
    b.world.host.Serving ∧ b.cycles = m.cycles + begun.length := by
  generalize completed : (none : Option (Failure Window.Fault)) = failure at laps
  induction laps with
  | rest => exact ⟨serving, rfl⟩
  | failed => cases completed
  | lap done _ ih =>
    obtain ⟨whole, serving, cycles⟩ := serving_cycle windowed whole serving done
    obtain ⟨serving, counted⟩ := ih whole serving completed
    refine ⟨serving, ?_⟩
    rw [counted, cycles, List.length_cons]
    omega

theorem loop_of_laps {begun : List (Session ρ (World Window))}
    (laps : Laps around m begun none b) (fresh : ∀ c ∈ begun, c.stopping = false) (fuel : Nat) :
    loop around (begun.length + fuel) m = loop around fuel b := by
  generalize completed : (none : Option (Failure Window.Fault)) = failure at laps
  induction laps with
  | rest => rw [List.length_nil, Nat.zero_add]
  | failed => cases completed
  | lap done _ ih =>
    rw [List.length_cons, Nat.add_right_comm, loop_of_done (fresh _ List.mem_cons_self) done]
    exact ih (fun c member => fresh c (List.mem_cons_of_mem _ member)) completed

theorem run_closing (windowed : Windowed around) (whole : m.state.WellFormed)
    (serving : m.world.host.Serving) {begun : List (Session ρ (World Window))}
    (laps : Laps around m.openRun begun none b) (fresh : ∀ c ∈ begun, c.stopping = false)
    (going : b.stopping = false) (performed : executed? around b ≠ none)
    (quits : ∃ e ∈ b.world.host.due, e.quits = true) :
    ∃ k, cycle around b = .ok () k ∧ ∀ handler fuel,
      (run around handler (begun.length + 1 + fuel) m).1 =
        .ok (some ⟨begun.length + 1, none, (askedBefore around b).getD Window.closedReason⟩) := by
  obtain ⟨later, counted⟩ := serving_laps windowed laps whole serving
  obtain ⟨k, done, cycles, pending⟩ := cycle_closing windowed later performed quits
  rw [pending_eq_none_iff.2 going, Option.none_or] at pending
  have asked : k.pending = some ((askedBefore around b).getD Window.closedReason) := by
    rw [pending]
    cases askedBefore around b <;> rfl
  refine ⟨k, done, fun handler fuel => ?_⟩
  have left : loop around (begun.length + 1 + fuel) m.openRun = (.stopped, k) := by
    rw [Nat.add_assoc, Nat.add_comm 1, loop_of_laps laps fresh, loop_of_done going done,
      loop_of_stopping (pending_eq_some_iff.1 asked).1]
  have executed : k.cycles - m.cycles = begun.length + 1 := by
    have begins : m.openRun.cycles = m.cycles := rfl
    omega
  rw [run_of_stopped left, closeRun_eq, asked]
  simp only [executed, Option.getD_some]

/-- Every event is handled once and in order, at the first poll after it at which events are asked
for, and a poll tells what has been handled. The cycle whose poll handles an event that asks for the
end is completed and the last one, and the reason is that the window was closed, unless the observer
asked for a stop before that. -/
theorem no_event_is_lost {keyCode : CodePoints → Int} {keymap : Keymap} {interval : Int}
    {w : Window} (opened : Window.Opened keyCode keymap interval w)
    (small : ∀ entry ∈ keymap, 0 ≤ entry.2 ∧ entry.2 < 16)
    (windowed : Windowed around) (whole : m.state.WellFormed) (serving : m.world.host.Serving) :
    (∀ passed : List Window.Moment,
      let number := Window.Moment.polls passed + 1
      let asked := number / max 1 interval.toNat * max 1 interval.toNat
      let told := Window.Moment.before (passed ++ [.poll]) asked
      ∃ now after handled, Window.passAll passed w = .ok () now ∧
        Window.poll now = .ok handled.keypad.down.toArray after ∧
        Window.handleAll told w = .ok () handled ∧
        after.quitRequested = handled.quitRequested ∧
        (after.quitRequested = true ↔ ∃ e ∈ told, e = .quit ∨ e = .keyDown Desktop.escapeCode)) ∧
    (∀ begun b, Laps around m.openRun begun none b → (∀ c ∈ begun, c.stopping = false) →
      b.stopping = false → executed? around b ≠ none →
      (∃ e ∈ b.world.host.due, e = .quit ∨ e = .keyDown Desktop.escapeCode) →
      ∃ k, cycle around b = .ok () k ∧ ∀ handler fuel,
        (run around handler (begun.length + 1 + fuel) m).1 =
          .ok (some ⟨begun.length + 1, none,
            (askedBefore around b).getD Window.closedReason⟩)) := by
  refine ⟨opened.poll_tells small, fun begun b laps fresh going performed quits => ?_⟩
  simp only [← Event.quits_iff] at quits
  exact run_closing windowed whole serving laps fresh going performed quits

end Window

section Examples

def desk (queue : List (List Input)) : Desktop :=
  ⟨fun name => name.head?.map Int.ofNat, 4410, true, true, false, queue, [], #[]⟩

def playing (window : Window) : Session Script (World Window) :=
  ((start (Script.ofArray #[]) ⟨none, window, Report.warning, []⟩).loadImage [0x60, 0x05] []).2

theorem world_playing (window : Window) :
    (playing window).world = ⟨none, window, Report.warning, []⟩ := by
  rw [playing, loadImage, load_of_fits _ _ _ (by decide)]
  rfl

theorem wellFormed_playing (window : Window) : (playing window).state.WellFormed :=
  have loaded : Silent _ (playing window) := silent_loadImage _ _ _
  loaded.trail.wellFormed State.sound_initial.toWellFormed

theorem windowed_surroundings : Windowed (World.surroundings (some Window.host)) where
  hosted := rfl
  apart := by
    rintro look ⟨⟩ s w
    exact World.notice_host s w

theorem escape_closes :
    ∃ first opened second running,
      Window.create 10 3 Keymap.standard true [] (desk []) = .ok first ∧
      Window.openUp { first with attached := true } = .ok () opened ∧
      Window.create 10 1 Keymap.standard true [] (desk [[.event (.keyDown 27)]]) = .ok second ∧
      Window.openUp { second with attached := true } = .ok () running ∧
      (∃ now after handled,
        Window.passAll [.arrive (.keyDown 120), .poll, .poll] opened = .ok () now ∧
        Window.poll now = .ok handled.keypad.down.toArray after ∧
        Window.handleAll [.keyDown 120] opened = .ok () handled) ∧
      (run (World.surroundings (some Window.host)) none 1 (playing running)).1 =
        .ok (some ⟨1, none, Window.closedReason⟩) := by
  obtain ⟨first, opened, created, opens⟩ : ∃ first opened,
      Window.create 10 3 Keymap.standard true [] (desk []) = .ok first ∧
      Window.openUp { first with attached := true } = .ok () opened := ⟨_, _, rfl, rfl⟩
  obtain ⟨second, running, created', opens', due, performed⟩ : ∃ second running,
      Window.create 10 1 Keymap.standard true [] (desk [[.event (.keyDown 27)]]) = .ok second ∧
      Window.openUp { second with attached := true } = .ok () running ∧
      running.due = [.keyDown 27] ∧
      (executed? (World.surroundings (some Window.host)) (playing running).openRun).isSome = true :=
    ⟨_, _, rfl, rfl, rfl, by decide +kernel⟩
  have fresh : Window.Opened _ Keymap.standard 3 opened :=
    Window.opened_of_openUp ⟨rfl, .inl ⟨rfl, rfl⟩⟩ created opens
  have world := world_playing running
  have serving : (playing running).world.host.Serving := by
    have tells : (desk [[.event (.keyDown 27)]]).Tells := by
      simp [desk, Desktop.Tells, Desktop.eventOf?]
    rw [world]
    exact Window.serving_of_openUp tells (Nat.le_refl _) Keymap.standard_keys_small created'
      opens'
  obtain ⟨tells, closes⟩ := no_event_is_lost fresh Keymap.standard_keys_small windowed_surroundings
    (wellFormed_playing running) serving
  obtain ⟨now, after, handled, passed, polled, told, _⟩ :=
    tells [.arrive (.keyDown 120), .poll, .poll]
  have quits : Event.keyDown 27 ∈ (playing running).openRun.world.host.due := by
    have host : (playing running).openRun.world.host = running := congrArg World.host world
    rw [host, due]
    exact List.mem_cons_self
  obtain ⟨_, _, ended⟩ := closes [] _ (.rest _) (by simp) rfl
    (Option.isSome_iff_ne_none.1 performed) ⟨_, quits, .inr rfl⟩
  refine ⟨first, opened, second, running, created, opens, created', opens',
    ⟨now, after, handled, passed, polled, told⟩, ?_⟩
  have unasked : askedBefore (World.surroundings (some Window.host)) (playing running).openRun =
      none := by
    have begun : (playing running).openRun.world = ⟨none, running, Report.warning, []⟩ := world
    simp only [askedBefore, World.surroundings, Option.bind_some, World.notice, begun,
      List.head?_nil]
  have closed := ended none 0
  rwa [unasked] at closed

end Examples

end Session

end Chip8
