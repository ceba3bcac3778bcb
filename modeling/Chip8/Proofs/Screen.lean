import Chip8.Proofs.Protocol

/-! The frames that a host without a screen has been given. Whatever is done with a session, in
any order, the last of them is the frame of the machine unless the machine says that it is not;
and cycles alone hand over what their instructions have drawn, frame by frame. -/
namespace Chip8

variable {ρ κ ε : Type}

namespace Headless

structure Like (h g : Headless) : Prop where
  frames : g.frames = h.frames
  keepFrames : g.keepFrames = h.keepFrames

theorem Like.trans {h g f : Headless} (one : Like h g) (other : Like g f) : Like h f :=
  ⟨other.frames.trans one.frames, other.keepFrames.trans one.keepFrames⟩

theorem like_served (s : State) (h : Headless) :
    Like (if s.redraw then h.addFrame s.frame else h)
      ((Headless.host : Host Headless ε).served s h) := by
  unfold Host.served Host.shown
  cases s.redraw <;> cases s.sound == 1 <;> exact ⟨rfl, rfl⟩

theorem lastFrame?_addFrame (h : Headless) (f : Frame) : (h.addFrame f).lastFrame? = some f := by
  simp [lastFrame?, addFrame]

theorem Like.addFrame {h g : Headless} (like : Like h g) (f : Frame) :
    Like (h.addFrame f) (g.addFrame f) :=
  ⟨by simp only [Headless.addFrame, like.frames, like.keepFrames], like.keepFrames⟩

theorem Like.addFrames {h g : Headless} (like : Like h g) (pictures : List Frame) :
    Like (pictures.foldl Headless.addFrame h) (pictures.foldl Headless.addFrame g) := by
  induction pictures generalizing h g with
  | nil => exact like
  | cons f rest ih => exact ih (like.addFrame f)

theorem frames_of_kept (pictures : List Frame) {h : Headless} (kept : h.keepFrames = true) :
    (pictures.foldl addFrame h).frames.toList = h.frames.toList ++ pictures := by
  induction pictures generalizing h with
  | nil => exact (List.append_nil _).symm
  | cons f rest ih =>
    have added : (h.addFrame f).frames = h.frames.push f := by simp [addFrame, kept]
    have later := ih (h := h.addFrame f) kept
    rw [List.foldl_cons, later, added]
    simp

theorem frames_of_replaced (pictures : List Frame) {h : Headless} (replaced : h.keepFrames = false)
    (few : h.frames.size ≤ 1) :
    (pictures.foldl addFrame h).frames.toList = (h.frames.toList ++ pictures).getLast?.toList := by
  induction pictures generalizing h with
  | nil =>
    obtain ⟨_, ⟨_ | ⟨f, _ | _⟩⟩, _, _⟩ := h
    · rfl
    · rfl
    · simp at few
  | cons f rest ih =>
    have emptied : h.frames.pop = #[] := Array.eq_empty_of_size_eq_zero (by simp; omega)
    have added : (h.addFrame f).frames = #[f] := by simp [addFrame, replaced, emptied]
    have later := ih (h := h.addFrame f) replaced (by simp [added])
    have last : (h.frames.toList ++ f :: rest).getLast? = (f :: rest).getLast? := by
      rw [List.getLast?_append, Option.or_of_isSome (by simp)]
    rw [List.foldl_cons, later, added, last]
    rfl

end Headless

theorem World.served_liftHost {η : Type} (host : Host η ε) (s : State) (w : World η) :
    ((World.liftHost host).served s w).host = host.served s w.host := by
  unfold Host.served Host.shown
  cases s.redraw <;> cases s.sound == 1 <;> rfl

abbrev Headless.surroundings (ε : Type) : Surroundings (World Headless) ε :=
  World.surroundings (some Headless.host)

/-- An error handler that leaves the host alone. -/
structure Listener (ε : Type) where
  hear : Fault → World Headless → Reply (World Headless) ε Unit
  aside : ∀ f w, (hear f w).world.host = w.host

namespace Session

section Pictures

variable [RandomSource ρ] (around : Surroundings κ ε)

/-- The frame that the cycle which begins here draws, if it completes and draws one. -/
def drawn? (m : Session ρ κ) : Option Frame :=
  (executed? around m).bind fun (ins, s) => if ins.draws then some s.frame else none

def pictures : (fuel : Nat) → Session ρ κ → List Frame
  | 0, _ => []
  | fuel + 1, m =>
    if m.stopping then []
    else (drawn? around m).toList ++
      match cycle around m with
      | .ok _ k => pictures fuel k
      | .error _ _ => []

end Pictures

def setKey (m : Session ρ (World Headless)) (key : Int) (down : Bool) :
    Session ρ (World Headless) :=
  match m.world.host.setKey key down with
  | .ok host => { m with world := { m.world with host } }
  | .error _ => m

/-- What can be done with a session whose host has no screen. -/
inductive Order (ε : Type)
  | loadImage (image : List UInt8) (name : CodePoints)
  | loadFile (disk : Disk) (path : Path) (name : CodePoints)
  | run (handler : Option (Listener ε)) (fuel : Nat)
  | step
  | execute
  | tick
  | setKeys (snapshot : Array Bool)
  | setKey (key : Int) (down : Bool)
  | watch (observer : Option Observer)

namespace Order

variable [RandomSource ρ]

def apply (m : Session ρ (World Headless)) : Order ε → Session ρ (World Headless)
  | loadImage image name => (m.loadImage image name).2
  | loadFile disk path name => (m.loadFile disk path name).2
  | run handler fuel =>
    (Session.run (Headless.surroundings ε) (handler.map Listener.hear) fuel m).2
  | step => (cycle (Headless.surroundings ε)).after m
  | execute => (Session.execute : Step ρ _ ε Unit).after m
  | tick => { m with state := m.state.tick.2 }
  | setKeys snapshot => (Session.setKeys snapshot : Step ρ _ ε Unit).after m
  | setKey key down => m.setKey key down
  | watch observer => { m with world := { m.world with observer } }

def pictures (m : Session ρ (World Headless)) : Order ε → List Frame
  | run _ fuel => Session.pictures (Headless.surroundings ε) fuel m.openRun
  | step => (drawn? (Headless.surroundings ε) m).toList
  | _ => []

def allPictures : List (Order ε) → Session ρ (World Headless) → List Frame
  | [], _ => []
  | o :: rest, m => o.pictures m ++ allPictures rest (o.apply m)

end Order

structure Beside (m k : Session ρ (World Headless)) : Prop where
  whole : m.state.WellFormed → k.state.WellFormed
  full : m.world.host.keys.size = 16 → k.world.host.keys.size = 16
  frame : k.state.frame = m.state.frame
  redraw : k.state.redraw = m.state.redraw
  like : Headless.Like m.world.host k.world.host

theorem Beside.trans {m k j : Session ρ (World Headless)} (one : Beside m k) (other : Beside k j) :
    Beside m j where
  whole := other.whole ∘ one.whole
  full := other.full ∘ one.full
  frame := other.frame.trans one.frame
  redraw := other.redraw.trans one.redraw
  like := one.like.trans other.like

theorem beside_of_eq {m k : Session ρ (World Headless)} (state : k.state = m.state)
    (host : k.world.host = m.world.host) : Beside m k where
  whole whole := state ▸ whole
  full full := host ▸ full
  frame := congrArg (·.frame) state
  redraw := congrArg (·.redraw) state
  like := ⟨congrArg (·.frames) host, congrArg (·.keepFrames) host⟩

theorem beside_load (m : Session ρ (World Headless)) (image : List UInt8) (name : CodePoints)
    (path : Option CodePoints) : Beside m (m.load image name path).2 := by
  unfold load
  cases Program.place m.state.memory image with
  | error fault => exact beside_of_eq rfl rfl
  | ok memory => exact ⟨fun whole => { whole with }, id, rfl, rfl, rfl, rfl⟩

theorem beside_loadFile (m : Session ρ (World Headless)) (disk : Disk) (path : Path)
    (name : CodePoints) : Beside m (m.loadFile disk path name).2 := by
  unfold loadFile
  cases disk.read path with
  | error fault => exact beside_of_eq rfl rfl
  | ok image => exact beside_load m image _ _

theorem beside_setKeys (m : Session ρ (World Headless)) (snapshot : Array Bool) :
    Beside m ((setKeys snapshot : Step ρ _ ε Unit).after m) := by
  unfold Change.after setKeys State.setKeys
  cases Keys.ofArray? snapshot with
  | none => exact beside_of_eq rfl rfl
  | some keys => exact ⟨fun whole => { whole with }, id, rfl, rfl, rfl, rfl⟩

theorem beside_setKey (m : Session ρ (World Headless)) (key : Int) (down : Bool) :
    Beside m (m.setKey key down) := by
  unfold setKey Headless.setKey
  split
  · next host done =>
    split at done
    · cases done
    · split at done
      · cases done
        exact ⟨id, fun full => by simpa using full, rfl, rfl, rfl, rfl⟩
      · cases done
  · exact beside_of_eq rfl rfl

theorem noticed_host (m : Session ρ (World Headless)) :
    (noticed (Headless.surroundings ε) m).host = m.world.host := by
  have called : noticed (Headless.surroundings ε) m =
      (World.notice m.state m.world : Reply _ ε Unit).world :=
    (congrArg (·.world) (after_call World.notice m)).trans (world_receive _ _)
  rw [called, World.notice_host]

section Cycle

variable [RandomSource ρ] {m : Session ρ (World Headless)}

theorem cycle_headless (whole : m.state.WellFormed) (full : m.world.host.keys.size = 16) :
    (drawn? (Headless.surroundings ε) m = none ∧
      ∃ e k, cycle (Headless.surroundings ε) m = .error e k ∧ k.state = m.state ∧
        k.world.host = m.world.host) ∨
    ∃ t k, cycle (Headless.surroundings ε) m = .ok () k ∧
      Answered (Headless.surroundings ε) (World.liftHost Headless.host) m t k ∧
      k.world.host.keys.size = 16 ∧
      Headless.Like (if t.executed.state.redraw then m.world.host.addFrame t.executed.state.frame
        else m.world.host) k.world.host := by
  have answers := (headless_answers (ε := ε)).lift
  have host := noticed_host (ε := ε) m
  have fit : (noticed (Headless.surroundings ε) m).host.keys.size = 16 := host ▸ full
  obtain ⟨untold, e, k, failed, state, _, world⟩ | ⟨t, k, done, answered⟩ :=
    cycle_answered answers rfl whole fit
  · exact .inl ⟨by rw [drawn?, untold]; rfl, e, k, failed, state, by rw [world, host]⟩
  · refine .inr ⟨t, k, done, answered, ?_, ?_⟩
    · rw [answered.world]
      exact answers.toServes.served _ fit
    · rw [answered.world, World.served_liftHost, host]
      exact Headless.like_served _ _

theorem drawn?_of_answered {k : Session ρ (World Headless)} {t : Turn ρ}
    (answered : Answered (Headless.surroundings ε) (World.liftHost Headless.host) m t k) :
    drawn? (Headless.surroundings ε) m =
      if t.instruction.draws then some t.executed.state.frame else none := by
  rw [drawn?, answered.told]
  rfl

end Cycle

theorem beside_run [RandomSource ρ] (handler : Option (Listener ε)) (fuel : Nat)
    (m : Session ρ (World Headless)) :
    Beside (loop (Headless.surroundings ε) fuel m.openRun).2
      (run (Headless.surroundings ε) (handler.map Listener.hear) fuel m).2 := by
  refine run_follows (R := Beside) (fun _ _ _ => Beside.trans)
    (fun _ _ _ _ _ => beside_of_eq rfl rfl) _ ?_ (Headless.surroundings ε) fuel m
  intro h member f k
  obtain ⟨listener, _, rfl⟩ := Option.map_eq_some_iff.1 member
  have same := sameMachine_receive k (listener.hear f k.world)
  rw [after_call]
  exact beside_of_eq (congrArg (·.state) same.machine)
    (by rw [world_receive]; exact listener.aside f k.world)

section Current

/-- The last frame that was shown is that of the machine, unless it has changed since. -/
structure Current (m : Session ρ (World Headless)) : Prop where
  whole : m.state.WellFormed
  full : m.world.host.keys.size = 16
  shown : m.state.redraw = false →
    (m.world.host.frames = #[] ∧ m.state.frame = Frame.dark) ∨
      m.world.host.lastFrame? = some m.state.frame

variable {m k : Session ρ (World Headless)}

theorem Current.beside (current : Current m) (beside : Beside m k) : Current k where
  whole := beside.whole current.whole
  full := beside.full current.full
  shown := by
    rw [beside.redraw, beside.frame, Headless.lastFrame?, beside.like.frames]
    exact current.shown

variable [RandomSource ρ]

theorem Current.cycle (current : Current m) :
    Current ((cycle (Headless.surroundings ε)).after m) := by
  obtain ⟨_, e, k, failed, state, host⟩ | ⟨t, k, done, answered, full, like⟩ :=
    cycle_headless (ε := ε) current.whole current.full
  · rw [Change.after_of_error failed]
    exact current.beside (beside_of_eq state host)
  · obtain ⟨ins, _, advances⟩ := cycle_ok done
    have whole : t.before.state.WellFormed := answered.before ▸ current.whole
    have frame : k.state.frame = t.executed.state.frame := congrArg (·.state.frame) answered.after
    rw [Change.after_of_ok done]
    refine ⟨advances.trail.wellFormed current.whole, full, fun _ => ?_⟩
    rw [frame, Headless.lastFrame?, like.frames]
    have redraw := State.redraw_execute whole answered.executed
    cases changed : t.executed.state.redraw with
    | true => exact .inr (Headless.lastFrame?_addFrame _ _)
    | false =>
      obtain ⟨draws, still⟩ := Bool.or_eq_false_iff.1 (redraw.symm.trans changed)
      have kept := State.frame_execute whole answered.executed draws
      rw [answered.before] at kept still
      rw [kept]
      exact current.shown still

theorem Current.execute (current : Current m) :
    Current ((execute : Step ρ _ ε Unit).after m) := by
  cases executed : (Session.execute : Step ρ (World Headless) ε Unit) m with
  | error e k =>
    obtain ⟨f, t, random, refused, _, rfl⟩ := (execute_eq_error_iff _ _ _).1 executed
    have kept := State.execute_error_state current.whole refused
    rw [Change.after_of_error executed]
    exact current.beside (beside_of_eq kept rfl)
  | ok _ k =>
    obtain ⟨ins, s, random, done, rfl⟩ := (execute_eq_ok_iff _ _).1 executed
    have trail := Trail.of_executed (a := m.machine) (b := ⟨s, random⟩) done
    rw [Change.after_of_ok executed]
    refine ⟨trail.wellFormed current.whole, current.full, fun still => ?_⟩
    have redraw := State.redraw_execute current.whole done
    obtain ⟨draws, before⟩ := Bool.or_eq_false_iff.1 (redraw.symm.trans still)
    have kept : s.frame = m.state.frame := State.frame_execute current.whole done draws
    rw [kept]
    exact current.shown before

theorem Current.loop (current : Current m) (fuel : Nat) :
    Current (loop (Headless.surroundings ε) fuel m).2 :=
  loop_follows (R := fun m k => Current m → Current k) (fun _ => id)
    (fun one other => other ∘ one) (fun _ current => current.cycle) fuel m current

theorem Current.apply (current : Current m) (o : Order ε) : Current (o.apply m) := by
  cases o with
  | loadImage image name => exact current.beside (beside_load m image _ none)
  | loadFile disk path name => exact current.beside (beside_loadFile m disk path name)
  | run handler fuel =>
    have opened : Current m.openRun := current.beside (beside_of_eq rfl rfl)
    exact (opened.loop fuel).beside (beside_run handler fuel m)
  | step => exact current.cycle
  | execute => exact current.execute
  | tick => exact current.beside ⟨fun whole => { whole with }, id, rfl, rfl, rfl, rfl⟩
  | setKeys snapshot => exact current.beside (beside_setKeys m snapshot)
  | setKey key down => exact current.beside (beside_setKey m key down)
  | watch observer => exact current.beside (beside_of_eq rfl rfl)

end Current

section Handing

structure Calm (m : Session ρ (World Headless)) : Prop where
  whole : m.state.WellFormed
  full : m.world.host.keys.size = 16
  still : m.state.redraw = false

/-- From a calm session to one that is calm again, after these pictures were handed to its host. -/
structure Hands (m : Session ρ (World Headless)) (given : List Frame)
    (k : Session ρ (World Headless)) : Prop where
  calm : Calm k
  like : Headless.Like (given.foldl Headless.addFrame m.world.host) k.world.host

variable {m k j : Session ρ (World Headless)}

theorem Hands.trans {one other : List Frame} (first : Hands m one k) (later : Hands k other j) :
    Hands m (one ++ other) j := by
  refine ⟨later.calm, ?_⟩
  rw [List.foldl_append]
  exact (first.like.addFrames other).trans later.like

theorem Calm.beside (calm : Calm m) (beside : Beside m k) : Hands m [] k :=
  ⟨⟨beside.whole calm.whole, beside.full calm.full, beside.redraw.trans calm.still⟩, beside.like⟩

variable [RandomSource ρ]

theorem Calm.hands_cycle (calm : Calm m) :
    Hands m (drawn? (Headless.surroundings ε) m).toList
      ((cycle (Headless.surroundings ε)).after m) := by
  obtain ⟨undrawn, e, k, failed, state, host⟩ | ⟨t, k, done, answered, full, like⟩ :=
    cycle_headless (ε := ε) calm.whole calm.full
  · rw [Change.after_of_error failed, undrawn]
    exact calm.beside (beside_of_eq state host)
  · obtain ⟨ins, _, advances⟩ := cycle_ok done
    have still : k.state.redraw = false := congrArg (·.state.redraw) answered.after
    have redraw : t.executed.state.redraw = t.instruction.draws := by
      have whole : t.before.state.WellFormed := answered.before ▸ calm.whole
      have before : t.before.state.redraw = false := answered.before ▸ calm.still
      rw [State.redraw_execute whole answered.executed, before, Bool.or_false]
    rw [Change.after_of_ok done, drawn?_of_answered answered]
    refine ⟨⟨advances.trail.wellFormed calm.whole, full, still⟩, ?_⟩
    rw [redraw] at like
    cases draws : t.instruction.draws with
    | true => rw [draws] at like; exact like
    | false => rw [draws] at like; exact like

theorem Calm.hands_loop (calm : Calm m) (fuel : Nat) :
    Hands m (pictures (Headless.surroundings ε) fuel m)
      (loop (Headless.surroundings ε) fuel m).2 := by
  induction fuel generalizing m with
  | zero => exact calm.beside (beside_of_eq rfl rfl)
  | succ fuel ih =>
    have first := calm.hands_cycle (ε := ε)
    rw [pictures, loop]
    cases m.stopping with
    | true => exact calm.beside (beside_of_eq rfl rfl)
    | false =>
      cases stepped : cycle (Headless.surroundings ε) m with
      | ok _ k =>
        rw [Change.after_of_ok stepped] at first
        exact first.trans (ih first.calm)
      | error e k =>
        rw [Change.after_of_error stepped] at first
        have last := first.trans (first.calm.beside (beside_of_eq rfl rfl))
        cases e <;> exact last

theorem Calm.hands_apply (calm : Calm m) {o : Order ε} (direct : o ≠ .execute) :
    Hands m (o.pictures m) (o.apply m) := by
  cases o with
  | loadImage image name => exact calm.beside (beside_load m image _ none)
  | loadFile disk path name => exact calm.beside (beside_loadFile m disk path name)
  | run handler fuel =>
    have opened : Hands m [] m.openRun := calm.beside (beside_of_eq rfl rfl)
    have cycles := opened.trans (opened.calm.hands_loop (ε := ε) fuel)
    have closed := cycles.trans (cycles.calm.beside (beside_run handler fuel m))
    rw [List.nil_append, List.append_nil] at closed
    exact closed
  | step => exact calm.hands_cycle
  | execute => exact absurd rfl direct
  | tick => exact calm.beside ⟨fun whole => { whole with }, id, rfl, rfl, rfl, rfl⟩
  | setKeys snapshot => exact calm.beside (beside_setKeys m snapshot)
  | setKey key down => exact calm.beside (beside_setKey m key down)
  | watch observer => exact calm.beside (beside_of_eq rfl rfl)

end Handing

section Orders

variable [RandomSource ρ] {m : Session ρ (World Headless)}

theorem Current.orders (current : Current m) (orders : List (Order ε)) :
    Current (orders.foldl Order.apply m) := by
  induction orders generalizing m with
  | nil => exact current
  | cons o rest ih => exact ih (current.apply o)

theorem Calm.hands_orders (calm : Calm m) {orders : List (Order ε)}
    (direct : ∀ o ∈ orders, o ≠ .execute) :
    Hands m (Order.allPictures orders m) (orders.foldl Order.apply m) := by
  induction orders generalizing m with
  | nil => exact calm.beside (beside_of_eq rfl rfl)
  | cons o rest ih =>
    have first := calm.hands_apply (direct o List.mem_cons_self)
    exact first.trans (ih first.calm fun o member => direct o (List.mem_cons_of_mem _ member))

/-- Whatever is done with a fresh session whose host has no screen but sixteen keys. -/
theorem frame_never_stale (random : ρ) (keys : Array Bool) (full : keys.size = 16) (keep : Bool)
    (observer : Option Observer) (threshold : Int) (orders : List (Order ε)) :
    let fresh := start random (⟨observer, ⟨keys, #[], 0, keep⟩, threshold, []⟩ : World Headless)
    let m := orders.foldl Order.apply fresh
    (m.state.redraw = false →
      (m.world.host.frames = #[] ∧ m.state.frame = Frame.dark) ∨
        m.world.host.lastFrame? = some m.state.frame) ∧
    (∀ k, cycle (Headless.surroundings ε) m = .ok () k → k.state.redraw = false) ∧
    ((∀ o ∈ orders, o ≠ .execute) →
      m.world.host.frames.toList =
        if keep then Order.allPictures orders fresh
        else (Order.allPictures orders fresh).getLast?.toList) := by
  intro fresh m
  have whole : fresh.state.WellFormed := State.sound_initial.toWellFormed
  have current : Current m := Current.orders ⟨whole, full, fun _ => .inl ⟨rfl, rfl⟩⟩ orders
  refine ⟨current.shown, ?_, ?_⟩
  · intro k done
    obtain ⟨_, _, _, failed, _⟩ | ⟨t, j, stepped, answered, _⟩ :=
      cycle_headless (ε := ε) current.whole current.full
    · rw [done] at failed
      cases failed
    · rw [done] at stepped
      cases stepped
      exact congrArg (·.state.redraw) answered.after
  · intro direct
    have handed := Calm.hands_orders (m := fresh) ⟨whole, full, rfl⟩ direct
    rw [handed.like.frames]
    cases keep with
    | true => exact Headless.frames_of_kept _ rfl
    | false => exact Headless.frames_of_replaced _ rfl (Nat.zero_le _)

def clearingOrders : List (Order Empty) :=
  [.loadImage [0x00, 0xE0] [], .setKey 5 true, .step]

def clearingStart : Session Script (World Headless) :=
  start (Script.ofArray #[]) ⟨none, ⟨Headless.fresh.keys, #[], 0, true⟩, Report.warning, []⟩

theorem clearing_never_stale :
    (clearingOrders.foldl Order.apply clearingStart).world.host.lastFrame? =
      some (clearingOrders.foldl Order.apply clearingStart).state.frame ∧
    (clearingOrders.foldl Order.apply clearingStart).world.host.frames.toList =
      Order.allPictures clearingOrders clearingStart := by
  have still : (clearingOrders.foldl Order.apply clearingStart).state.redraw = false := by
    decide +kernel
  have shown : (clearingOrders.foldl Order.apply clearingStart).world.host.frames.size = 1 := by
    decide +kernel
  have never := frame_never_stale (Script.ofArray #[]) Headless.fresh.keys (by decide) true none
    Report.warning clearingOrders
  rw [← clearingStart] at never
  obtain ⟨current, _, handed⟩ := never
  refine ⟨?_, handed (by simp [clearingOrders])⟩
  obtain ⟨empty, _⟩ | last := current still
  · rw [empty] at shown
    cases shown
  · exact last

end Orders

end Session

end Chip8
