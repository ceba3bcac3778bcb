import Chip8.Proofs.Cycle
import Chip8.Window
import Mathlib.Data.List.Forall2

/-! The events of a window. They wait until the desktop is asked for them, and every one of them is
handled then, in the order in which they came; the polls in between leave them where they are. -/
namespace Chip8

section Except

variable {α β ε : Type} {f : α → Except ε β} {as : List α}

theorem forall₂_mapM {bs : List β} (done : as.mapM f = .ok bs) :
    List.Forall₂ (fun a b => f a = .ok b) as bs := by
  induction as generalizing bs with
  | nil =>
    cases done
    exact .nil
  | cons a rest ih =>
    rw [List.mapM_cons] at done
    cases first : f a with
    | error e =>
      rw [first] at done
      cases done
    | ok b =>
      cases others : rest.mapM f with
      | error e =>
        rw [first, others] at done
        cases done
      | ok bs =>
        rw [first, others] at done
        cases done
        exact .cons first (ih others)

theorem ok_of_toOption {x : Except ε α} {a : α} (known : x.toOption = some a) : x = .ok a := by
  cases x with
  | error _ => cases known
  | ok _ => rw [Option.some.inj known]

theorem exists_mapM (all : ∀ a ∈ as, ∃ b, f a = .ok b) : ∃ bs, as.mapM f = .ok bs := by
  induction as with
  | nil => exact ⟨[], rfl⟩
  | cons a rest ih =>
    obtain ⟨b, first⟩ := all a List.mem_cons_self
    obtain ⟨bs, others⟩ := ih fun c member => all c (List.mem_cons_of_mem _ member)
    exact ⟨b :: bs, by rw [List.mapM_cons, first, others]; rfl⟩

end Except

namespace Change

variable {σ ε α β : Type} (s : σ)

theorem get_bind (rest : σ → Change σ ε β) : (get >>= rest) s = rest s s := rfl

theorem modify_bind (change : σ → σ) (rest : PUnit → Change σ ε β) :
    (modify change >>= rest) s = rest ⟨⟩ (change s) := rfl

theorem set_bind (t : σ) (rest : PUnit → Change σ ε β) : (set t >>= rest) s = rest ⟨⟩ t := rfl

theorem pure_eq (a : α) : (pure a : Change σ ε α) s = .ok a s := rfl

end Change

def Event.quits : Event → Bool
  | .quit => true
  | .keyDown code => code = Desktop.escapeCode
  | .keyUp _ | .other => false

theorem Event.quits_iff {e : Event} :
    e.quits = true ↔ e = .quit ∨ e = .keyDown Desktop.escapeCode := by
  cases e <;> simp [quits]

namespace Desktop

def arrive (d : Desktop) (e : Event) : Desktop :=
  { d with queue := [d.queue.flatten ++ [.event e]] }

/-- Nothing but these events waits. -/
structure Waits (d : Desktop) (events : List Event) : Prop where
  idle : d.idle = []
  queue : d.queue = [] ∧ events = [] ∨ d.queue = [events.map .event]

theorem Waits.arrive {d : Desktop} {events : List Event} (waits : d.Waits events) (e : Event) :
    (d.arrive e).Waits (events ++ [e]) := by
  refine ⟨waits.idle, .inr ?_⟩
  obtain ⟨queue, rfl⟩ | queue := waits.queue <;> simp [Desktop.arrive, queue]

theorem mapM_eventOf? (d : Desktop) (events : List Event) :
    (events.map Input.event).mapM d.eventOf? = some events := by
  induction events with
  | nil => rfl
  | cons e rest ih => simp [eventOf?, ih]

theorem Waits.take {d : Desktop} {events : List Event} (waits : d.Waits events) :
    ∃ after, d.takeEvents = (some events, after) ∧ after.Waits [] ∧
      after.available = d.available := by
  obtain ⟨queue, rfl⟩ | queue := waits.queue
  · exact ⟨d.request .events, by simp [takeEvents, queue, waits.idle],
      ⟨waits.idle, .inl ⟨queue, rfl⟩⟩, rfl⟩
  · refine ⟨{ d.request .events with queue := [] }, ?_, ⟨waits.idle, .inl ⟨rfl, rfl⟩⟩, rfl⟩
    simp only [takeEvents, queue, mapM_eventOf?]

end Desktop

namespace Window

/-- The library is there, and all keys are keys of the machine. -/
structure Ready (w : Window) : Prop where
  available : w.desktop.available = true
  small : ∀ entry ∈ w.codes, 0 ≤ entry.2 ∧ entry.2 < 16

def quitting (w : Window) : Window :=
  { w with
    quitRequested := true
    stops := if w.attached then w.stops ++ [closedReason] else w.stops }

def keyed (w : Window) (code : Int) (down : Bool) : Window :=
  { w with keypad := ((w.keyOf? code).bind fun key =>
      (Keypad.change w.keypad key down).toOption).getD w.keypad }

def handled (w : Window) (e : Event) : Window :=
  if e.quits then w.quitting
  else match e with
    | .keyDown code => w.keyed code true
    | .keyUp code => w.keyed code false
    | .quit | .other => w

section Handled

variable {w v : Window}

theorem Ready.keyOf? (ready : w.Ready) {code key : Int} (known : w.keyOf? code = some key) :
    0 ≤ key ∧ key < 16 := by
  unfold Window.keyOf? at known
  obtain ⟨entry, found, rfl⟩ := Option.map_eq_some_iff.1 known
  exact ready.small entry (List.mem_reverse.1 (List.mem_of_find?_eq_some found))

theorem requireLibrary_eq (available : w.desktop.available = true) :
    requireLibrary w = .ok () w := by
  simp only [requireLibrary, Change.get_bind, available, Bool.not_true, Bool.false_eq_true,
    if_false, Change.pure_eq]

theorem changeKey_eq (ready : w.Ready) (code : Int) (down : Bool) :
    changeKey code down w = .ok () (w.keyed code down) := by
  rw [changeKey, Change.get_bind, keyed]
  cases known : w.keyOf? code with
  | none => rfl
  | some key =>
    have changed : Keypad.change w.keypad key down = .ok _ := dif_pos (ready.keyOf? known)
    simp only [changed, Option.bind_some, Except.toOption, Option.getD_some]
    rfl

theorem handle_eq (ready : w.Ready) (e : Event) : handle e w = .ok () (w.handled e) := by
  rw [handle.eq_def, Change.bind_of_ok _ (requireLibrary_eq ready.available)]
  cases e with
  | quit => rfl
  | keyDown code =>
    by_cases escape : code = Desktop.escapeCode
    · simp only [escape, if_true, handled, Event.quits, decide_true]
      rfl
    · simp only [escape, if_false, handled, Event.quits, decide_false, Bool.false_eq_true]
      exact changeKey_eq ready code true
  | keyUp code => exact changeKey_eq ready code false
  | other => rfl

structure Same (w v : Window) : Prop where
  desktop : v.desktop = w.desktop
  codes : v.codes = w.codes
  interval : v.interval = w.interval
  polls : v.polls = w.polls
  attached : v.attached = w.attached
  scale : v.scale = w.scale
  beeper : v.beeper = w.beeper

theorem Same.refl (w : Window) : Same w w := ⟨rfl, rfl, rfl, rfl, rfl, rfl, rfl⟩

theorem same_handled (w : Window) (e : Event) : Same w (w.handled e) := by
  unfold handled
  split
  · exact ⟨rfl, rfl, rfl, rfl, rfl, rfl, rfl⟩
  · cases e <;> exact ⟨rfl, rfl, rfl, rfl, rfl, rfl, rfl⟩

theorem Same.ready (same : Same w v) (ready : w.Ready) : v.Ready :=
  ⟨same.desktop ▸ ready.available, same.codes ▸ ready.small⟩

theorem handleAll_eq (ready : w.Ready) (events : List Event) :
    handleAll events w = .ok () (events.foldl handled w) := by
  induction events generalizing w with
  | nil => rfl
  | cons e rest ih =>
    rw [handleAll, Change.bind_of_ok _ (handle_eq ready e)]
    exact ih ((same_handled w e).ready ready)

theorem Same.trans {u : Window} (one : Same u v) (other : Same v w) : Same u w where
  desktop := other.desktop.trans one.desktop
  codes := other.codes.trans one.codes
  interval := other.interval.trans one.interval
  polls := other.polls.trans one.polls
  attached := other.attached.trans one.attached
  scale := other.scale.trans one.scale
  beeper := other.beeper.trans one.beeper

theorem same_foldl (events : List Event) (w : Window) : Same w (events.foldl handled w) := by
  induction events generalizing w with
  | nil => exact .refl w
  | cons e rest ih => exact (same_handled w e).trans (ih _)

/-- What an event does depends on the keys, whether the end was asked for, and the codes alone. -/
structure Alike (w v : Window) : Prop where
  keypad : v.keypad = w.keypad
  quitRequested : v.quitRequested = w.quitRequested
  codes : v.codes = w.codes

theorem Alike.handled (alike : Alike w v) (e : Event) : Alike (w.handled e) (v.handled e) := by
  have keyed (code : Int) (down : Bool) : Alike (w.keyed code down) (v.keyed code down) := by
    refine ⟨?_, alike.quitRequested, alike.codes⟩
    simp only [Window.keyed, Window.keyOf?, alike.codes, alike.keypad]
  unfold Window.handled
  split
  · exact ⟨alike.keypad, rfl, alike.codes⟩
  · cases e with
    | keyDown code => exact keyed code true
    | keyUp code => exact keyed code false
    | quit | other => exact alike

theorem Alike.foldl (alike : Alike w v) (events : List Event) :
    Alike (events.foldl Window.handled w) (events.foldl Window.handled v) := by
  induction events generalizing w v with
  | nil => exact alike
  | cons e rest ih => exact ih (alike.handled e)

theorem quitRequested_foldl (events : List Event) (w : Window) :
    (events.foldl handled w).quitRequested = (w.quitRequested || events.any Event.quits) := by
  induction events generalizing w with
  | nil => simp
  | cons e rest ih =>
    have first : (w.handled e).quitRequested = (w.quitRequested || e.quits) := by
      unfold handled
      cases quits : e.quits with
      | true => simp [quitting]
      | false => cases e <;> simp [keyed]
    rw [List.foldl_cons, ih, first, List.any_cons, Bool.or_assoc]

theorem takeEvents_eq {events : List Event} {d : Desktop}
    (taken : w.desktop.takeEvents = (some events, d)) :
    takeEvents w = .ok events { w with desktop := d } := by
  simp only [takeEvents, Change.get_bind, taken, Change.set_bind, Change.pure_eq]

theorem poll_due (ready : w.Ready) (due : (w.polls + 1) % w.interval = 0) {events : List Event}
    {d : Desktop} (taken : w.desktop.takeEvents = (some events, d))
    (available : d.available = true) :
    let after := events.foldl handled { w with polls := w.polls + 1, desktop := d }
    poll w = .ok after.keypad.down.toArray after := by
  have allowed : requireLibrary { w with polls := w.polls + 1 } =
      .ok () { w with polls := w.polls + 1 } := requireLibrary_eq ready.available
  have asked : takeEvents { w with polls := w.polls + 1 } =
      .ok events { w with polls := w.polls + 1, desktop := d } := takeEvents_eq taken
  have ready : Ready { w with polls := w.polls + 1, desktop := d } := ⟨available, ready.small⟩
  simp only [poll, due, Change.modify_bind, Change.get_bind, if_true]
  rw [Change.bind_of_ok _ allowed, Change.bind_of_ok _ asked,
    Change.bind_of_ok _ (handleAll_eq ready events)]
  rfl

theorem poll_early (early : (w.polls + 1) % w.interval ≠ 0) :
    poll w = .ok w.keypad.down.toArray { w with polls := w.polls + 1 } := by
  simp only [poll, early, Change.modify_bind, Change.get_bind, if_false]
  rfl

end Handled

inductive Moment
  | arrive (e : Event)
  | poll
deriving DecidableEq

namespace Moment

/-- The events that arrive before poll number `q`, none if there is no such poll. -/
def before : List Moment → Nat → List Event
  | _, 0 => []
  | [], _ + 1 => []
  | arrive e :: rest, q + 1 => e :: before rest (q + 1)
  | poll :: rest, q + 1 => before rest q

def event? : Moment → Option Event
  | arrive e => some e
  | poll => none

def polls (passed : List Moment) : Nat := passed.count poll

theorem before_append {passed : List Moment} {q : Nat} (past : q ≤ polls passed)
    (later : List Moment) : before (passed ++ later) q = before passed q := by
  induction passed generalizing q with
  | nil =>
    obtain rfl : q = 0 := by simpa [polls] using past
    simp [before]
  | cons moment rest ih =>
    cases q with
    | zero => simp [before]
    | succ q =>
      cases moment with
      | arrive e =>
        have past : q + 1 ≤ polls rest := by simpa [polls] using past
        rw [List.cons_append, before, before, ih past]
      | poll =>
        have past : q ≤ polls rest := by simpa [polls] using past
        rw [List.cons_append, before, before, ih past]

theorem before_next (passed : List Moment) :
    before (passed ++ [poll]) (polls passed + 1) = passed.filterMap event? := by
  induction passed with
  | nil => rfl
  | cons moment rest ih =>
    cases moment with
    | arrive e =>
      have same : polls (arrive e :: rest) = polls rest := by simp [polls]
      rw [same, List.cons_append, before, ih]
      rfl
    | poll =>
      have more : polls (poll :: rest) = polls rest + 1 := by simp [polls]
      rw [more, List.cons_append, before, ih]
      rfl

/-- The events that have been handled, if they are asked for at every poll whose number `interval`
divides. -/
def told (interval : Nat) (passed : List Moment) : List Event :=
  before passed (polls passed / interval * interval)

theorem told_nil (interval : Nat) : told interval [] = [] := by
  simp [told, polls, before]

theorem told_arrive (interval : Nat) (passed : List Moment) (e : Event) :
    told interval (passed ++ [arrive e]) = told interval passed := by
  have same : polls (passed ++ [arrive e]) = polls passed := by simp [polls]
  rw [told, same, before_append (Nat.div_mul_le_self _ _), told]

theorem polls_next (passed : List Moment) : polls (passed ++ [poll]) = polls passed + 1 := by
  simp [polls]

theorem told_due {interval : Nat} {passed : List Moment} (due : (polls passed + 1) % interval = 0) :
    told interval (passed ++ [poll]) = passed.filterMap event? := by
  rw [told, polls_next, Nat.div_mul_cancel (Nat.dvd_of_mod_eq_zero due), before_next]

theorem told_early {interval : Nat} {passed : List Moment}
    (early : (polls passed + 1) % interval ≠ 0) :
    told interval (passed ++ [poll]) = told interval passed := by
  have undivided : ¬ interval ∣ polls passed + 1 := fun divides =>
    early (Nat.mod_eq_zero_of_dvd divides)
  rw [told, polls_next, Nat.succ_div_of_not_dvd undivided,
    before_append (Nat.div_mul_le_self _ _), told]

end Moment

def pass : Moment → Action Unit
  | .arrive e => modify fun w => { w with desktop := w.desktop.arrive e }
  | .poll => do
    let _ ← poll
    return

def passAll : List Moment → Action Unit
  | [] => return
  | moment :: rest => do
    pass moment
    passAll rest

/-- The window `w` when so much has passed: what has arrived has been handled, or it waits. -/
structure Kept (w : Window) (passed : List Moment) (now : Window) : Prop where
  ready : now.Ready
  interval : now.interval = w.interval
  polls : now.polls = Moment.polls passed
  alike : Alike ((Moment.told w.interval passed).foldl handled w) now
  waits : ∃ waiting, now.desktop.Waits waiting ∧
    passed.filterMap Moment.event? = Moment.told w.interval passed ++ waiting

section Kept

variable {w now : Window} {passed : List Moment}

theorem Kept.arrive (kept : Kept w passed now) (e : Event) :
    ∃ after, pass (.arrive e) now = .ok () after ∧ Kept w (passed ++ [.arrive e]) after := by
  obtain ⟨waiting, waits, arrived⟩ := kept.waits
  refine ⟨_, rfl, ?_⟩
  exact {
    ready := ⟨kept.ready.available, kept.ready.small⟩
    interval := kept.interval
    polls := by simp [kept.polls, Moment.polls]
    alike := by
      rw [Moment.told_arrive]
      exact ⟨kept.alike.keypad, kept.alike.quitRequested, kept.alike.codes⟩
    waits := by
      refine ⟨waiting ++ [e], waits.arrive e, ?_⟩
      rw [Moment.told_arrive, List.filterMap_append, arrived, List.append_assoc]
      rfl }

theorem Kept.poll (kept : Kept w passed now) :
    ∃ after, Window.poll now = .ok after.keypad.down.toArray after ∧
      Kept w (passed ++ [.poll]) after := by
  obtain ⟨waiting, waits, arrived⟩ := kept.waits
  have next : (passed ++ [Moment.poll]).filterMap Moment.event? =
      passed.filterMap Moment.event? := by
    rw [List.filterMap_append]
    exact List.append_nil _
  have counted : now.polls + 1 = Moment.polls (passed ++ [Moment.poll]) := by
    rw [Moment.polls_next, kept.polls]
  by_cases due : (Moment.polls passed + 1) % w.interval = 0
  · obtain ⟨d, taken, empty, available⟩ := waits.take
    have asked : (now.polls + 1) % now.interval = 0 := by rwa [kept.polls, kept.interval]
    have available : d.available = true := available.trans kept.ready.available
    have same := same_foldl waiting { now with polls := now.polls + 1, desktop := d }
    have before : Alike ((Moment.told w.interval passed).foldl handled w)
        { now with polls := now.polls + 1, desktop := d } :=
      ⟨kept.alike.keypad, kept.alike.quitRequested, kept.alike.codes⟩
    refine ⟨_, poll_due kept.ready asked taken available, ?_⟩
    exact {
      ready := same.ready ⟨available, kept.ready.small⟩
      interval := same.interval.trans kept.interval
      polls := same.polls.trans counted
      alike := by
        rw [Moment.told_due due, arrived, List.foldl_append]
        exact before.foldl waiting
      waits := ⟨[], same.desktop ▸ empty, by rw [Moment.told_due due, next, List.append_nil]⟩ }
  · have early : (now.polls + 1) % now.interval ≠ 0 := by rwa [kept.polls, kept.interval]
    refine ⟨{ now with polls := now.polls + 1 }, poll_early early, ?_⟩
    exact {
      ready := ⟨kept.ready.available, kept.ready.small⟩
      interval := kept.interval
      polls := counted
      alike := by
        rw [Moment.told_early due]
        exact ⟨kept.alike.keypad, kept.alike.quitRequested, kept.alike.codes⟩
      waits := ⟨waiting, waits, by rw [Moment.told_early due, next, arrived]⟩ }

theorem Kept.passAll (kept : Kept w passed now) (later : List Moment) :
    ∃ after, passAll later now = .ok () after ∧ Kept w (passed ++ later) after := by
  induction later generalizing passed now with
  | nil => exact ⟨now, rfl, by rwa [List.append_nil]⟩
  | cons moment rest ih =>
    obtain ⟨between, first, kept⟩ : ∃ between, pass moment now = .ok () between ∧
        Kept w (passed ++ [moment]) between := by
      cases moment with
      | arrive e => exact kept.arrive e
      | poll =>
        obtain ⟨between, polled, kept⟩ := kept.poll
        exact ⟨between, by rw [pass, Change.bind_of_ok _ polled]; rfl, kept⟩
    obtain ⟨after, others, kept⟩ := ih kept
    rw [List.append_assoc, List.singleton_append] at kept
    exact ⟨after, by rw [Window.passAll, Change.bind_of_ok _ first, others], kept⟩

end Kept

/-- A window that has just been opened with a keymap, whose keys have these codes on the desktop. No
event waits there. -/
structure Opened (keyCode : CodePoints → Int) (keymap : Keymap) (interval : Int) (w : Window) :
    Prop where
  available : w.desktop.available = true
  waits : w.desktop.Waits []
  codes : w.codes = keymap.map fun entry => (keyCode entry.1, entry.2)
  interval : w.interval = max 1 interval.toNat
  polls : w.polls = 0
  keypad : w.keypad = Keys.none
  quitRequested : w.quitRequested = false

section Opened

variable {keyCode : CodePoints → Int} {keymap : Keymap} {interval : Int} {w : Window}

theorem Opened.ready (opened : Opened keyCode keymap interval w)
    (small : ∀ entry ∈ keymap, 0 ≤ entry.2 ∧ entry.2 < 16) : w.Ready := by
  refine ⟨opened.available, ?_⟩
  rw [opened.codes, List.forall_mem_map]
  exact small

theorem Opened.kept (opened : Opened keyCode keymap interval w)
    (small : ∀ entry ∈ keymap, 0 ≤ entry.2 ∧ entry.2 < 16) : Kept w [] w where
  ready := opened.ready small
  interval := rfl
  polls := opened.polls
  alike := by
    rw [Moment.told_nil]
    exact ⟨rfl, rfl, rfl⟩
  waits := ⟨[], opened.waits, by rw [Moment.told_nil]; rfl⟩

theorem codesOf_eq {keyCode? : CodePoints → Option Int} {codes : List (Int × Int)}
    (known : codesOf keyCode? keymap = .ok codes) :
    codes = keymap.map fun entry => ((keyCode? entry.1).getD 0, entry.2) := by
  have related := forall₂_mapM known
  clear known
  induction related with
  | nil => rfl
  | @cons entry code _ _ first _ ih =>
    obtain ⟨name, key⟩ := entry
    rw [List.map_cons, ← ih]
    cases named : keyCode? name with
    | none =>
      simp only [named] at first
      cases first
    | some _ =>
      simp only [named] at first
      cases first
      rw [Option.getD_some]

structure Made (keymap : Keymap) (interval : Int) (desktop : Desktop) (w : Window) : Prop where
  positive : 0 < w.scale
  keymap : w.keymap = keymap
  interval : w.interval = max 1 interval.toNat
  polls : w.polls = 0
  keypad : w.keypad = Keys.none
  quitRequested : w.quitRequested = false
  standard : w.beeper.tone = Tone.standard
  stops : w.stops = []
  desktop : w.desktop = desktop

section OpenUp

variable {scale : Int} {audio attached : Bool} {caption : CodePoints} {desktop : Desktop}
  {after : Window}

theorem made_of_create (created : create scale interval keymap audio caption desktop = .ok w) :
    Made keymap interval desktop w := by
  unfold create at created
  split at created
  · cases created
  · next positive =>
    cases created
    exact ⟨Int.not_le.1 positive, rfl, rfl, rfl, rfl, rfl, rfl, rfl, rfl⟩

theorem openUp_ok (opens : openUp w = .ok () after) :
    w.desktop.available = true ∧ ∃ codes, codesOf w.desktop.keyCode? w.keymap = .ok codes ∧ after =
      { w with
        isOpen := true
        codes
        desktop := ((w.desktop.request .start).request
          (.openWindow (64 * w.scale) (32 * w.scale))).request (.caption w.caption) } := by
  cases available : w.desktop.available with
  | false =>
    simp only [openUp, Change.get_bind, available] at opens
    cases opens
  | true =>
    cases known : codesOf w.desktop.keyCode? w.keymap with
    | error fault =>
      simp only [openUp, Change.get_bind, available, request, known] at opens
      cases opens
    | ok codes =>
      simp only [openUp, Change.get_bind, available, request, known] at opens
      cases opens
      exact ⟨rfl, codes, rfl, rfl⟩

theorem ready_of_openUp (small : ∀ entry ∈ keymap, 0 ≤ entry.2 ∧ entry.2 < 16)
    (created : create scale interval keymap audio caption desktop = .ok w)
    (opens : openUp { w with attached } = .ok () after) : after.Ready := by
  obtain ⟨available, codes, known, rfl⟩ := openUp_ok opens
  have keys : ∀ entry ∈ codes, 0 ≤ entry.2 ∧ entry.2 < 16 := by
    rw [codesOf_eq known, List.forall_mem_map, (made_of_create created).keymap]
    exact small
  exact ⟨available, keys⟩

theorem opened_of_openUp (waits : desktop.Waits [])
    (created : create scale interval keymap audio caption desktop = .ok w)
    (opens : openUp { w with attached } = .ok () after) :
    Opened (fun name => (desktop.keyCode? name).getD 0) keymap interval after := by
  have made := made_of_create created
  obtain ⟨available, codes, known, rfl⟩ := openUp_ok opens
  exact {
    available
    waits := ⟨made.desktop ▸ waits.idle, made.desktop ▸ waits.queue⟩
    codes := made.desktop ▸ made.keymap ▸ codesOf_eq known
    interval := made.interval
    polls := made.polls
    keypad := made.keypad
    quitRequested := made.quitRequested }

end OpenUp

theorem Opened.poll_tells (opened : Opened keyCode keymap interval w)
    (small : ∀ entry ∈ keymap, 0 ≤ entry.2 ∧ entry.2 < 16) (passed : List Moment) :
    let number := Moment.polls passed + 1
    let asked := number / max 1 interval.toNat * max 1 interval.toNat
    let told := Moment.before (passed ++ [.poll]) asked
    ∃ now after handled, passAll passed w = .ok () now ∧
      poll now = .ok handled.keypad.down.toArray after ∧ handleAll told w = .ok () handled ∧
      after.quitRequested = handled.quitRequested ∧
      (after.quitRequested = true ↔ ∃ e ∈ told, e = .quit ∨ e = .keyDown Desktop.escapeCode) := by
  intro number asked told
  have all : told = Moment.told w.interval (passed ++ [.poll]) := by
    simp only [told, asked, number, Moment.told, Moment.polls_next, opened.interval]
  obtain ⟨now, before, kept⟩ := (opened.kept small).passAll passed
  rw [List.nil_append] at kept
  obtain ⟨after, polled, kept⟩ := kept.poll
  have alike : Alike (told.foldl handled w) after := all ▸ kept.alike
  refine ⟨now, after, told.foldl handled w, before, alike.keypad ▸ polled,
    handleAll_eq (opened.ready small) told, alike.quitRequested, ?_⟩
  rw [alike.quitRequested, quitRequested_foldl, opened.quitRequested, Bool.false_or,
    List.any_eq_true]
  simp only [Event.quits_iff]

end Opened

end Window

end Chip8
