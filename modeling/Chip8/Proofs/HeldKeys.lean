import Chip8.Proofs.Keymaps
import Mathlib.Data.List.Induction
import Mathlib.Data.List.Nodup

/-! Held keys. A key of the machine goes by the latest stroke of all host keys that stand for it. As
long as one host key stands for it, it is down while that one is held; of two, either one that is
let go takes it up, though the other one may still be held. -/
namespace Chip8

def Event.isStroke : Event → Bool
  | .keyDown _ | .keyUp _ => true
  | .quit | .other => false

/-- What an event does to these host keys: it presses one of them, releases one, or neither. -/
def Event.strokeOf? (codes : List Int) : Event → Option Bool
  | .keyDown code => if code ∈ codes then some true else none
  | .keyUp code => if code ∈ codes then some false else none
  | .quit | .other => none

/-- Whether the latest stroke of one of these host keys is a press. -/
def endsDown (codes : List Int) (events : List Event) : Bool :=
  (events.filterMap (Event.strokeOf? codes)).getLast?.getD false

/-- A host key is held if its latest stroke is a press. -/
def Held (events : List Event) (code : Int) : Prop := endsDown [code] events = true

section Strokes

variable {codes : List Int} {events : List Event}

@[simp] theorem endsDown_nil : endsDown codes [] = false := rfl

@[simp] theorem endsDown_append_singleton (e : Event) :
    endsDown codes (events ++ [e]) = (e.strokeOf? codes).getD (endsDown codes events) := by
  cases stroke : e.strokeOf? codes <;> simp [endsDown, stroke]

theorem Event.strokeOf?_of_mem {code : Int} (known : code ∈ codes) (e : Event) :
    e.strokeOf? [code] = none ∨ e.strokeOf? [code] = e.strokeOf? codes := by
  cases e with
  | keyDown other | keyUp other =>
    by_cases same : other = code
    · simp [strokeOf?, same, known]
    · simp [strokeOf?, same]
  | quit | other => exact .inl rfl

theorem exists_held (down : endsDown codes events = true) : ∃ code ∈ codes, Held events code := by
  induction events using List.reverseRecOn with
  | nil => simp at down
  | append_singleton before e ih =>
    rw [endsDown_append_singleton] at down
    cases stroke : e.strokeOf? codes with
    | none =>
      rw [stroke, Option.getD_none] at down
      obtain ⟨code, known, held⟩ := ih down
      have unstruck : e.strokeOf? [code] = none := by
        simpa [stroke] using e.strokeOf?_of_mem known
      exact ⟨code, known, by simpa [Held, unstruck] using held⟩
    | some pressed =>
      obtain rfl : pressed = true := by simpa [stroke] using down
      cases e with
      | keyDown code =>
        have known : code ∈ codes := by simpa [Event.strokeOf?] using stroke
        exact ⟨code, known, by simp [Held, Event.strokeOf?]⟩
      | keyUp | quit | other => simp [Event.strokeOf?] at stroke

theorem endsDown_iff_of_length (few : codes.length ≤ 1) :
    endsDown codes events = true ↔ ∃ code ∈ codes, Held events code := by
  refine ⟨exists_held, ?_⟩
  match codes, few with
  | [], _ => simp
  | [code], _ => simp [Held]

theorem held_of_two {first second : Int} (one : first ∈ codes) (other : second ∈ codes)
    (apart : second ≠ first) :
    let events := [.keyDown first, .keyDown second, .keyUp second]
    endsDown codes events = false ∧ Held events first := by
  constructor
  · simp [endsDown, Event.strokeOf?, one, other]
  · simp [Held, endsDown, Event.strokeOf?, apart]

theorem endsDown_iff_held (distinct : codes.Nodup) :
    (∀ events : List Event, (∀ e ∈ events, e.isStroke = true) →
      (endsDown codes events = true ↔ ∃ code ∈ codes, Held events code)) ↔
      codes.length ≤ 1 := by
  refine ⟨fun tells => ?_, fun few events _ => endsDown_iff_of_length few⟩
  match codes, distinct with
  | [], _ | [_], _ => simp
  | first :: second :: rest, distinct =>
    have apart : second ≠ first := by
      rintro rfl
      simp at distinct
    have one : first ∈ first :: second :: rest := by simp
    obtain ⟨up, held⟩ := held_of_two one (by simp) apart
    have down := (tells _ (by simp [Event.isStroke])).2 ⟨first, by simp, held⟩
    simp [up] at down

end Strokes

theorem Keymap.small_of_load {depth : Nat} {disk : Disk} {path : Path} {keymap : Keymap}
    (loaded : Keymap.load depth disk path = .ok keymap) :
    ∀ entry ∈ keymap, 0 ≤ entry.2 ∧ entry.2 < 16 := by
  obtain ⟨j, read⟩ : ∃ j, Keymap.ofJson j = .ok keymap := by
    simp only [Keymap.load, Keymap.ofText, bind, Except.bind] at loaded
    split at loaded
    · cases loaded
    · split at loaded
      · cases loaded
      · split at loaded
        · cases loaded
        · exact ⟨_, loaded⟩
  obtain ⟨_, _, rfl, _⟩ | ⟨_, bad, _⟩ := Keymap.ofJson_cases j
  · exact (Keymap.entries_of_ofJson read).2.2
  · rw [read] at bad
    cases bad

namespace Window

/-- The codes of the host keys that stand for a key. -/
def hostKeys (keyCode : CodePoints → Int) (keymap : Keymap) (key : Int) : List Int :=
  (keymap.filter fun entry => entry.2 = key).map fun entry => keyCode entry.1

section Keypad

variable {keyCode : CodePoints → Int} {keymap : Keymap} {interval : Int} {w : Window}

theorem mem_hostKeys {key code : Int} :
    code ∈ hostKeys keyCode keymap key ↔ ∃ name, (name, key) ∈ keymap ∧ keyCode name = code := by
  simp [hostKeys]

theorem nodup_hostKeys (apart : (keymap.map fun entry => keyCode entry.1).Nodup) (key : Int) :
    (hostKeys keyCode keymap key).Nodup :=
  apart.sublist (List.filter_sublist.map _)

theorem keyOf?_eq_some_iff (codes : w.codes = keymap.map fun entry => (keyCode entry.1, entry.2))
    (apart : (keymap.map fun entry => keyCode entry.1).Nodup) {code key : Int} :
    w.keyOf? code = some key ↔ code ∈ hostKeys keyCode keymap key := by
  have firsts : (w.codes.map Prod.fst).Nodup := by simpa [codes, Function.comp_def] using apart
  have known : code ∈ hostKeys keyCode keymap key ↔ (code, key) ∈ w.codes := by
    simp [mem_hostKeys, codes, and_comm]
  rw [known]
  constructor
  · intro known
    obtain ⟨entry, found, rfl⟩ := Option.map_eq_some_iff.1 known
    have same : entry.1 = code := by simpa using List.find?_some found
    rw [← same]
    exact List.mem_reverse.1 (List.mem_of_find?_eq_some found)
  · intro member
    have some : (w.codes.reverse.find? fun entry => entry.1 = code).isSome := by
      simpa using ⟨key, member⟩
    obtain ⟨entry, found⟩ := Option.isSome_iff_exists.1 some
    have listed : entry ∈ w.codes := List.mem_reverse.1 (List.mem_of_find?_eq_some found)
    have same : entry.1 = code := by simpa using List.find?_some found
    rw [keyOf?, found, List.inj_on_of_nodup_map firsts listed member same]
    rfl

variable (codes : w.codes = keymap.map fun entry => (keyCode entry.1, entry.2))
  (apart : (keymap.map fun entry => keyCode entry.1).Nodup)

include codes apart in
theorem isDown_keyed (ready : w.Ready) (code : Int) (down : Bool) (key : Fin 16) :
    (w.keyed code down).keypad.isDown key =
      if code ∈ hostKeys keyCode keymap key then down else w.keypad.isDown key := by
  simp only [← keyOf?_eq_some_iff codes apart]
  cases known : w.keyOf? code with
  | none => simp [keyed, known]
  | some other =>
    have small := ready.keyOf? known
    have same : (⟨other.toNat, by omega⟩ : Fin 16) = key ↔ other = key := by
      rw [Fin.ext_iff]
      dsimp only
      omega
    cases down <;>
      simp [keyed, known, Keypad.change, small, Except.toOption, Keys.isDown_press,
        Keys.isDown_release, same]

variable (unescaped : ∀ entry ∈ keymap, keyCode entry.1 ≠ Desktop.escapeCode)

include codes apart unescaped in
theorem isDown_handled (ready : w.Ready) (e : Event) (key : Fin 16) :
    (w.handled e).keypad.isDown key =
      (e.strokeOf? (hostKeys keyCode keymap key)).getD (w.keypad.isDown key) := by
  have free : Desktop.escapeCode ∉ hostKeys keyCode keymap key := by
    simpa [mem_hostKeys] using fun name member => unescaped (name, key) member
  cases e with
  | keyDown code =>
    by_cases escape : code = Desktop.escapeCode
    · simp [handled, Event.quits, escape, quitting, Event.strokeOf?, free]
    · by_cases known : code ∈ hostKeys keyCode keymap key <;>
        simp [handled, Event.quits, escape, Event.strokeOf?, isDown_keyed codes apart ready, known]
  | keyUp code =>
    by_cases known : code ∈ hostKeys keyCode keymap key <;>
      simp [handled, Event.quits, Event.strokeOf?, isDown_keyed codes apart ready, known]
  | quit | other => simp [handled, Event.quits, quitting, Event.strokeOf?]

include codes apart unescaped in
theorem isDown_foldl_handled (ready : w.Ready) (up : w.keypad = Keys.none) (events : List Event)
    (key : Fin 16) :
    (events.foldl handled w).keypad.isDown key = endsDown (hostKeys keyCode keymap key) events := by
  induction events using List.reverseRecOn with
  | nil => simp [up, Keys.none, Keys.isDown]
  | append_singleton before e ih =>
    have same := same_foldl before w
    rw [List.foldl_append, List.foldl_cons, List.foldl_nil, endsDown_append_singleton, ← ih]
    exact isDown_handled (same.codes.trans codes) apart unescaped (same.ready ready) e key

end Keypad

theorem poll_of_quiet {w : Window} (ready : w.Ready) (waits : w.desktop.Waits []) :
    ∃ later, poll w = .ok w.keypad.down.toArray later := by
  by_cases due : (w.polls + 1) % w.interval = 0
  · obtain ⟨d, taken, _, available⟩ := waits.take
    exact ⟨_, poll_due ready due taken (available.trans ready.available)⟩
  · exact ⟨_, poll_early due⟩

section Shown

variable {keyCode : CodePoints → Int} {keymap : Keymap} {interval : Int} {w : Window}
  (opened : Opened keyCode keymap interval w) (small : ∀ entry ∈ keymap, 0 ≤ entry.2 ∧ entry.2 < 16)
  (events : List Event)
include opened small

theorem exists_shown :
    ∃ after snapshot later, handleAll events w = .ok () after ∧
      poll after = .ok snapshot later := by
  have ready := opened.ready small
  have same := same_foldl events w
  obtain ⟨later, polled⟩ := poll_of_quiet (same.ready ready) (same.desktop ▸ opened.waits)
  exact ⟨_, _, later, handleAll_eq ready events, polled⟩

theorem shown (apart : (keymap.map fun entry => keyCode entry.1).Nodup)
    (unescaped : ∀ entry ∈ keymap, keyCode entry.1 ≠ Desktop.escapeCode)
    {after later : Window} {snapshot : Array Bool} (handled : handleAll events w = .ok () after)
    (polled : poll after = .ok snapshot later) :
    snapshot.size = 16 ∧ ∀ key : Fin 16,
      snapshot[key.val]? = some (endsDown (hostKeys keyCode keymap key) events) := by
  have ready := opened.ready small
  have same := same_foldl events w
  obtain ⟨_, known⟩ := poll_of_quiet (same.ready ready) (same.desktop ▸ opened.waits)
  rw [handleAll_eq ready events] at handled
  cases handled
  cases known.symm.trans polled
  refine ⟨Vector.size_toArray _, fun key => ?_⟩
  rw [← isDown_foldl_handled opened.codes apart unescaped ready opened.keypad]
  simp [Keys.isDown]

end Shown

/-- Whatever strokes an open window has handled, a poll shows for each key whether the latest stroke
of the host keys that stand for it is a press. One of them is held then. That a key is down as long
as any host key is held that stands for it, is true of exactly the keys for which at most one host
key stands. -/
theorem keypad_follows_latest_stroke {depth : Nat} {disk : Disk} {path : Path} {keymap : Keymap}
    (loaded : Keymap.load depth disk path = .ok keymap) {keyCode : CodePoints → Int}
    {interval : Int} {w : Window} (opened : Opened keyCode keymap interval w)
    (apart : (keymap.map fun entry => keyCode entry.1).Nodup)
    (unescaped : ∀ entry ∈ keymap, keyCode entry.1 ≠ Desktop.escapeCode) :
    (∀ events : List Event, (∀ e ∈ events, e.isStroke = true) →
      ∃ after snapshot later, handleAll events w = .ok () after ∧
        poll after = .ok snapshot later ∧ snapshot.size = 16 ∧
        ∀ key : Fin 16,
          snapshot[key.val]? = some (endsDown (hostKeys keyCode keymap key) events) ∧
          (snapshot[key.val]? = some true →
            ∃ code ∈ hostKeys keyCode keymap key, Held events code)) ∧
    ∀ key : Fin 16,
      (∀ events : List Event, (∀ e ∈ events, e.isStroke = true) →
        ∀ after snapshot later, handleAll events w = .ok () after →
          poll after = .ok snapshot later →
          (snapshot[key.val]? = some true ↔
            ∃ code ∈ hostKeys keyCode keymap key, Held events code)) ↔
        (hostKeys keyCode keymap key).length ≤ 1 := by
  have small := Keymap.small_of_load loaded
  constructor
  · intro events _
    obtain ⟨after, snapshot, later, handled, polled⟩ := exists_shown opened small events
    obtain ⟨full, shows⟩ := shown opened small events apart unescaped handled polled
    refine ⟨after, snapshot, later, handled, polled, full, fun key => ⟨shows key, fun down => ?_⟩⟩
    rw [shows key] at down
    exact exists_held (Option.some.inj down)
  · intro key
    rw [← endsDown_iff_held (nodup_hostKeys apart key)]
    refine forall_congr' fun events => imp_congr_right fun _ => ⟨fun tells => ?_, ?_⟩
    · obtain ⟨after, snapshot, later, handled, polled⟩ := exists_shown opened small events
      have shows := (shown opened small events apart unescaped handled polled).2 key
      have told := tells after snapshot later handled polled
      rwa [shows, Option.some_inj] at told
    · intro tells after snapshot later handled polled
      rw [(shown opened small events apart unescaped handled polled).2 key, Option.some_inj]
      exact tells

section Examples

def codeOf (name : CodePoints) : Int := (Player.desktop.keyCode? name).getD 0

theorem exists_opened (keymap : Keymap)
    (named : (codesOf Player.desktop.keyCode? keymap).toOption.isSome = true) :
    ∃ w, Opened codeOf keymap 16 w := by
  obtain ⟨codes, known⟩ := Option.isSome_iff_exists.1 named
  obtain ⟨w, created⟩ : ∃ w, create 10 16 keymap false [] Player.desktop = .ok w := ⟨_, rfl⟩
  have made := made_of_create created
  have available : w.desktop.available = true := by rw [made.desktop]; rfl
  obtain ⟨after, opens⟩ : ∃ after, openUp { w with attached := false } = .ok () after := by
    have known : codesOf w.desktop.keyCode? w.keymap = .ok codes := by
      rw [made.keymap, made.desktop]
      exact ok_of_toOption known
    simp only [openUp, Change.get_bind, available, request, known]
    exact ⟨_, rfl⟩
  exact ⟨after, opened_of_openUp ⟨rfl, .inl ⟨rfl, rfl⟩⟩ created opens⟩

theorem one_of_two_down :
    ∃ keymap w after snapshot later,
      Keymap.load 1 (Player.mapped Player.upAndQ) (.ofText (.ofString "k.json")) = .ok keymap ∧
      Opened codeOf keymap 16 w ∧
      handleAll [.keyDown 113, .keyDown 112, .keyDown 1073741906, .keyUp 113] w = .ok () after ∧
      poll after = .ok snapshot later ∧ snapshot[2]? = some true ∧ snapshot[15]? = some false := by
  have loaded : Keymap.load 1 (Player.mapped Player.upAndQ) (.ofText (.ofString "k.json")) =
      .ok [(.ofString "up", 2), (.ofString "q", 15)] := by
    decide +kernel
  obtain ⟨w, opened⟩ := exists_opened [(.ofString "up", 2), (.ofString "q", 15)] (by decide +kernel)
  obtain ⟨shows, _⟩ :=
    keypad_follows_latest_stroke loaded opened (by decide +kernel) (by decide +kernel)
  obtain ⟨after, snapshot, later, handled, polled, _, keys⟩ :=
    shows [.keyDown 113, .keyDown 112, .keyDown 1073741906, .keyUp 113] (by decide)
  refine ⟨_, w, after, snapshot, later, loaded, opened, handled, polled, ?_, ?_⟩
  · exact (keys 2).1.trans (congrArg some (by decide +kernel))
  · exact (keys 15).1.trans (congrArg some (by decide +kernel))

def wAndUp : String := "\x7b\"w\": 5, \"up\": 5\x7d"

theorem held_key_is_up :
    ∃ keymap w after snapshot later,
      Keymap.load 1 (Player.mapped wAndUp) (.ofText (.ofString "k.json")) = .ok keymap ∧
      Opened codeOf keymap 16 w ∧ (keymap.map fun entry => codeOf entry.1).Nodup ∧
      (∀ entry ∈ keymap, codeOf entry.1 ≠ Desktop.escapeCode) ∧
      handleAll [.keyDown 119, .keyDown 1073741906, .keyUp 1073741906] w = .ok () after ∧
      poll after = .ok snapshot later ∧
      ¬ (snapshot[5]? = some true ↔ ∃ code ∈ hostKeys codeOf keymap 5,
        Held [.keyDown 119, .keyDown 1073741906, .keyUp 1073741906] code) := by
  have loaded : Keymap.load 1 (Player.mapped wAndUp) (.ofText (.ofString "k.json")) =
      .ok [(.ofString "w", 5), (.ofString "up", 5)] := by
    decide +kernel
  obtain ⟨w, opened⟩ := exists_opened [(.ofString "w", 5), (.ofString "up", 5)] (by decide +kernel)
  have apart : ([(.ofString "w", 5), (.ofString "up", 5)].map fun entry : CodePoints × Int =>
      codeOf entry.1).Nodup := by
    decide +kernel
  have unescaped : ∀ entry ∈ [(CodePoints.ofString "w", (5 : Int)), (.ofString "up", 5)],
      codeOf entry.1 ≠ Desktop.escapeCode := by
    decide +kernel
  have small := Keymap.small_of_load loaded
  obtain ⟨after, snapshot, later, handled, polled⟩ :=
    exists_shown opened small [.keyDown 119, .keyDown 1073741906, .keyUp 1073741906]
  obtain ⟨_, shows⟩ := shown opened small _ apart unescaped handled polled
  have up : snapshot[5]? = some false := (shows 5).trans (congrArg some (by decide +kernel))
  refine ⟨_, w, after, snapshot, later, loaded, opened, apart, unescaped, handled, polled, ?_⟩
  intro tells
  have down := tells.2 ⟨119, by decide +kernel, by unfold Held; decide⟩
  rw [up] at down
  cases down

end Examples

end Window

end Chip8
