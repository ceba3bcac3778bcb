import Chip8.Proofs.Protocol

/-! What an instruction leaves alone. Every part of the machine has a few instructions that write
it, and the source of randomness has one that draws from it. Between instructions a session moves
nothing but the keys, the timers and the mark that there is something to show, so runs leave alone
what their instructions do. -/
namespace Chip8

theorem Program.byteAt_place {memory placed : Memory 0x1000} {image : List UInt8}
    (done : Program.place memory image = .ok placed) {a : Nat}
    (outside : a < State.programStart ∨ State.programStart + image.length ≤ a) :
    placed.byteAt a = memory.byteAt a := by
  unfold Program.place Memory.writeBytes at done
  split at done
  · cases done
  · split at done
    · cases done
    · cases done
      exact memory.byteAt_overwrite outside

namespace Registers

variable {v : Registers}

theorem byte_flagThen (full : v.Full) (raised : Bool) (result : Registers → UInt8) {x y : Fin 16}
    (apart : y ≠ x) (unflagged : y ≠ flag) : (v.flagThen raised x result).byte y = v.byte y := by
  rw [flagThen, byte_put (full.raised raised), if_neg apart.symm, raise, byte_put full,
    if_neg unflagged.symm]

theorem byte_replaceFirst {count : Nat} {block : List UInt8} (exact : block.length = count)
    {y : Fin 16} (behind : count ≤ y.val) : (v.replaceFirst count block).byte y = v.byte y := by
  subst exact
  simp only [replaceFirst, ofList, toList, byte, Array.getD_eq_getD_getElem?,
    List.getElem?_toArray, List.getElem?_append_right behind, List.getElem?_drop,
    Nat.add_sub_cancel' behind, Array.getElem?_toList]

end Registers

namespace Instruction

variable (ins : Instruction) (s : State)

def stored : Nat :=
  match ins.operation with
  | .decimal => 3
  | .save => ins.x.val + 1
  | _ => 0

def Stores (address : Nat) : Prop := s.i ≤ address ∧ address < s.i + ins.stored

def Sets (y : Fin 16) : Prop :=
  match ins.operation with
  | .loadByte | .addByte | .copy | .or | .and | .xor | .random | .readDelay => y = ins.x
  | .add | .subtract | .shiftRight | .subtractFrom | .shiftLeft =>
    y = ins.x ∨ y = Registers.flag
  | .draw | .addIndex => y = Registers.flag
  | .awaitKey => y = ins.x ∧ s.keys.highest?.isSome
  | .restore => y ≤ ins.x
  | _ => False

def setsIndex : Bool :=
  match ins.operation with
  | .loadIndex | .addIndex | .glyph | .save | .restore => true
  | _ => false

def rolls : Bool := ins.operation == .random

end Instruction

/-- What an instruction has left alone, part by part. -/
structure Footprint (ins : Instruction) (s t : State) : Prop where
  memory : ∀ a, ¬ ins.Stores s a → t.memory.byteAt a = s.memory.byteAt a
  full : t.v.Full
  v : ∀ y, ¬ ins.Sets s y → t.v.byte y = s.v.byte y
  i : ins.setsIndex = false → t.i = s.i
  stack : ∀ slot : Fin 16, ¬ (ins.operation = .call ∧ (slot.val : Int) = s.sp) →
    t.stack.get slot = s.stack.get slot
  sp : ¬ (ins.operation = .call ∨ ins.operation = .ret) → t.sp = s.sp
  delay : ins.operation ≠ .setDelay → t.delay = s.delay
  sound : ins.operation ≠ .setSound → t.sound = s.sound
  frame : ins.draws = false → t.frame = s.frame
  redraw : ins.draws = false → t.redraw = s.redraw
  keys : t.keys = s.keys

namespace State

variable {s : State} {ins : Instruction}

theorem WellFormed.byteAt_memoryAfter (whole : s.WellFormed) {a : Nat}
    (unstored : ¬ ins.Stores s a) : (s.memoryAfter ins).byteAt a = s.memory.byteAt a := by
  have low := whole.i_nonneg
  obtain ⟨op, word⟩ := ins
  cases op with
  | decimal =>
    simp only [Instruction.Stores, Instruction.stored] at unstored
    exact s.memory.byteAt_overwrite (by simp only [List.length_cons, List.length_nil]; omega)
  | save =>
    simp only [Instruction.Stores, Instruction.stored] at unstored
    exact s.memory.byteAt_overwrite (by rw [List.length_take]; omega)
  | _ => rfl

theorem WellFormed.byte_registersAfter (whole : s.WellFormed) (allowed : s.refusal? ins = none)
    (drawn : Int) {y : Fin 16} (kept : ¬ ins.Sets s y) :
    (s.registersAfter ins drawn).byte y = s.v.byte y := by
  have full := whole.full
  obtain ⟨op, word⟩ := ins
  cases op with
  | loadByte | addByte | copy | or | and | xor | random | readDelay =>
    simp only [Instruction.Sets] at kept
    exact (Registers.byte_put full _ _ _).trans (if_neg (Ne.symm kept))
  | add | subtract | shiftRight | subtractFrom | shiftLeft =>
    simp only [Instruction.Sets, not_or] at kept
    exact Registers.byte_flagThen full _ _ kept.1 kept.2
  | draw | addIndex =>
    simp only [Instruction.Sets] at kept
    exact (Registers.byte_put full _ _ _).trans (if_neg (Ne.symm kept))
  | awaitKey =>
    simp only [registersAfter]
    cases pressed : s.keys.highest? with
    | none => rfl
    | some key =>
      simp only [Instruction.Sets, pressed, Option.isSome_some, and_true] at kept
      exact (Registers.byte_put full _ _ _).trans (if_neg (Ne.symm kept))
  | restore =>
    have fits := fits_of_blockRefusal? allowed
    simp only [Instruction.Sets, Fin.le_def] at kept
    refine Registers.byte_replaceFirst ?_ (by omega)
    rw [readAtIndex_of_fits whole.i_nonneg fits, List.length_map, List.length_range]
  | _ => rfl

theorem WellFormed.slot_stackAfter (whole : s.WellFormed) {slot : Fin 16}
    (other : ¬ (ins.operation = .call ∧ (slot.val : Int) = s.sp)) :
    (s.stackAfter ins).get slot = s.stack.get slot := by
  have low := whole.sp_nonneg
  unfold stackAfter
  split
  · next calls =>
    have apart : s.sp.toNat ≠ slot.val := fun same => other ⟨calls, by omega⟩
    exact Vector.getElem_setIfInBounds_ne _ apart
  · rfl

theorem WellFormed.footprint (whole : s.WellFormed) (allowed : s.refusal? ins = none)
    (drawn : Int) : Footprint ins s (s.effect ins drawn) := by
  have full := whole.full_registersAfter drawn allowed
  refine ⟨fun _ => whole.byteAt_memoryAfter, full,
    fun _ => whole.byte_registersAfter allowed drawn, ?_, fun _ => whole.slot_stackAfter, ?_, ?_, ?_,
    ?_, ?_, rfl⟩
  all_goals
    intro other
    obtain ⟨op, word⟩ := ins
    cases op
    all_goals first | rfl | cases other | simp at other

/-- Whether the instruction at the program counter draws. It does so also if it fails then, for
want of a number. -/
def rolls (s : State) : Bool :=
  match s.instruction with
  | .ok ins => ins.rolls
  | .error _ => false

variable {ρ : Type} [RandomSource ρ]

theorem drawFor_snd (ins : Instruction) (r : ρ) :
    (drawFor ins r).2 = if ins.rolls then (RandomSource.draw r).2 else r := by
  obtain ⟨op, word⟩ := ins
  cases op <;> rfl

theorem rolls_of_refusal? {fault : Fault} (refused : s.refusal? ins = some fault) :
    ins.rolls = false := by
  obtain ⟨op, word⟩ := ins
  cases op <;> first | rfl | cases refused

theorem WellFormed.random_execute (whole : s.WellFormed) (r : ρ) :
    (s.execute r).2 = if s.rolls then (RandomSource.draw r).2 else r := by
  cases found : s.instruction with
  | error fault => simp only [execute_eq whole, rolls, found, Bool.false_eq_true, if_false]
  | ok ins =>
    simp only [rolls, found]
    cases refused : s.refusal? ins with
    | some fault =>
      simp only [execute_eq whole, found, refused, rolls_of_refusal? refused, Bool.false_eq_true,
        if_false]
    | none =>
      rw [← drawFor_snd]
      simp only [execute_eq whole, found, refused]
      cases drawFor ins r with | mk drawn after =>
      cases drawn <;> rfl

theorem WellFormed.footprint_execute (whole : s.WellFormed) {r after : ρ} {t : State}
    (done : s.execute r = (.ok ins t, after)) : s.Faces ins ∧ Footprint ins s t ∧
      after = if ins.rolls then (RandomSource.draw r).2 else r := by
  obtain ⟨found, allowed, drawn, given, rfl⟩ := (execute_eq_ok_iff whole _ _ _ _).1 done
  refine ⟨(whole.instruction_eq_ok_iff ins).1 found, whole.footprint allowed drawn, ?_⟩
  rw [← drawFor_snd, given]

end State

def RandomSource.after {ρ : Type} [RandomSource ρ] : Nat → ρ → ρ
  | 0, r => r
  | n + 1, r => RandomSource.after n (RandomSource.draw r).2

theorem RandomSource.after_add {ρ : Type} [RandomSource ρ] (j k : Nat) (r : ρ) :
    after (j + k) r = after k (after j r) := by
  induction j generalizing r with
  | zero => rw [Nat.zero_add, after]
  | succ j ih => rw [Nat.succ_add, after, ih, after]

/-- The keys after a call: those that were polled, if so many were given as there are. -/
def Asked.takeOver (keys : Keys) : Asked → Keys
  | poll (some snapshot) => (Keys.ofArray? snapshot).getD keys
  | _ => keys

namespace Session

variable {ρ κ ε α : Type}

/-- Between the two the keys have changed with what the host was asked, and not otherwise. -/
def KeysPolled (m k : Session ρ (Recorded κ ε)) : Prop :=
  ∃ calls, k.world.hostCalls = m.world.hostCalls ++ calls ∧
    k.state.keys = calls.foldl Asked.takeOver m.state.keys

/-- Nothing but what a session does after an instruction has happened, by itself and by calls. -/
structure Aside (m k : Session ρ (Recorded κ ε)) : Prop where
  state : ∃ redraw keys delay sound, k.state = { m.state with redraw, keys, delay, sound }
  random : k.random = m.random
  keys : KeysPolled m k

section Aside

variable {m k j : Session ρ (Recorded κ ε)}

theorem KeysPolled.of_eq (heard : k.world.hostCalls = m.world.hostCalls)
    (keys : k.state.keys = m.state.keys) : KeysPolled m k :=
  ⟨[], heard.trans (List.append_nil _).symm, keys⟩

theorem KeysPolled.trans (one : KeysPolled m k) (other : KeysPolled k j) : KeysPolled m j := by
  obtain ⟨before, heard, first⟩ := one
  obtain ⟨after, later, second⟩ := other
  refine ⟨before ++ after, ?_, ?_⟩
  · rw [later, heard, List.append_assoc]
  · rw [second, first, List.foldl_append]

theorem Aside.trans (one : Aside m k) (other : Aside k j) : Aside m j where
  state := by
    obtain ⟨_, _, _, _, first⟩ := one.state
    obtain ⟨redraw, keys, delay, sound, second⟩ := other.state
    exact ⟨redraw, keys, delay, sound, by rw [second, first]⟩
  random := other.random.trans one.random
  keys := one.keys.trans other.keys

theorem Aside.moved (m : Session ρ (Recorded κ ε)) (redraw : Bool) (delay sound : Int) :
    Aside m { m with state := { m.state with redraw, delay, sound } } :=
  ⟨⟨_, _, _, _, rfl⟩, rfl, .of_eq rfl rfl⟩

theorem aside_recording (asked : State → Option α → Asked)
    (idle : ∀ s value keys, Asked.takeOver keys (asked s value) = keys)
    (ask : State → κ → Reply κ ε α) :
    Change.Follows Aside
      (call fun s => recording (asked s) (ask s) : Step ρ (Recorded κ ε) ε α) := by
  intro m
  rw [after_call]
  have same := sameMachine_receive m (recording (asked m.state) (ask m.state) m.world)
  have state := congrArg (·.state) same.machine
  refine ⟨⟨_, _, _, _, state⟩, congrArg (·.random) same.machine, _,
    by rw [world_receive, hostCalls_recording], (congrArg (·.keys) state).trans ?_⟩
  rw [List.filter_cons]
  split
  · exact (idle _ _ _).symm
  · rfl

theorem after_setKeys (snapshot : Array Bool) (m : Session ρ κ) :
    (setKeys snapshot : Step ρ κ ε Unit).after m =
      { m with
        state := { m.state with
          keys := Asked.takeOver m.state.keys (.poll (some snapshot)) } } := by
  simp only [Change.after, setKeys, State.setKeys, Asked.takeOver]
  cases Keys.ofArray? snapshot <;> rfl

theorem aside_polled (h : Host κ ε) :
    Change.Follows Aside (call (fun _ world => h.recorded.poll world) >>= setKeys :
      Step ρ (Recorded κ ε) ε Unit) := by
  intro m
  have called := call_eq (fun _ world => h.recorded.poll world) m
  have value : (h.recorded.poll m.world).value = (h.poll m.world.world).value := rfl
  have same := sameMachine_receive m (h.recorded.poll m.world)
  have heard : (m.receive (h.recorded.poll m.world)).world.hostCalls =
      m.world.hostCalls ++ [.poll (h.poll m.world.world).value.toOption] :=
    (congrArg Recorded.hostCalls (world_receive _ _)).trans (hostCalls_recording .poll h.poll _)
  generalize m.receive (h.recorded.poll m.world) = k at called same heard
  have state : k.state = m.state := congrArg (·.state) same.machine
  have random : k.random = m.random := congrArg (·.random) same.machine
  rw [value] at called
  cases given : (h.poll m.world.world).value with
  | error e =>
    rw [given] at called heard
    rw [Change.after_of_error (Change.bind_of_error _ called)]
    exact ⟨⟨_, _, _, _, state⟩, random, _, heard, congrArg (·.keys) state⟩
  | ok snapshot =>
    rw [given] at called heard
    have taken := after_setKeys (ε := ε) snapshot k
    rw [state] at taken
    rw [Change.after, Change.bind_of_ok _ called, ← Change.after, taken]
    exact ⟨⟨_, _, _, _, rfl⟩, random, _, heard, rfl⟩

theorem aside_attend (host : Option (Host κ ε)) :
    Change.Follows Aside (attend (host.map Host.recorded) : Step ρ (Recorded κ ε) ε Unit) := by
  refine follows_attend (R := Aside) (fun _ _ _ => Aside.trans)
    (fun m => .moved m m.state.redraw m.state.delay m.state.sound)
    (fun m => .moved m false m.state.delay m.state.sound) (fun m => .moved m _ _ _) ?_ ?_ ?_
  all_goals
    intro h member
    obtain ⟨h, _, rfl⟩ := Option.map_eq_some_iff.1 member
  · exact aside_recording (fun s _ => .render s.frame) (fun _ _ _ => rfl) fun s => h.render s.frame
  · exact aside_polled h
  · exact aside_recording (fun _ _ => .beep) (fun _ _ _ => rfl) fun _ => h.beep

theorem aside_observe (observer : Option (State → κ → Reply κ ε Unit)) :
    Change.Follows Aside
      (observe (observer.map fun look s => recording (fun _ => .look) (look s)) :
        Step ρ (Recorded κ ε) ε Unit) := by
  cases observer with
  | none => exact fun m => .moved m m.state.redraw m.state.delay m.state.sound
  | some look => exact aside_recording (fun _ _ => .look) (fun _ _ _ => rfl) look

end Aside

variable [RandomSource ρ]

def rolls (around : Surroundings κ ε) (m : Session ρ κ) : Bool :=
  match observe around.observer m with
  | .error _ _ => false
  | .ok _ seen => seen.state.rolls

/-- What cycles that began here have left alone. -/
structure Confined (around : Surroundings κ ε) (begun : List (Session ρ (Recorded κ ε)))
    (m k : Session ρ (Recorded κ ε)) : Prop where
  random : k.random = RandomSource.after (begun.countP (rolls around.recorded)) m.random
  keys : KeysPolled m k
  memory : ∀ a, (∀ b ∈ begun, ∀ ins s, executed? around.recorded b = some (ins, s) →
    ¬ ins.Stores b.state a) → k.state.memory.byteAt a = m.state.memory.byteAt a

section Confined

variable {around : Surroundings κ ε} {m k j seen : Session ρ (Recorded κ ε)}

theorem Confined.trans {before after : List (Session ρ (Recorded κ ε))}
    (one : Confined around before m k) (other : Confined around after k j) :
    Confined around (before ++ after) m j where
  random := by
    rw [other.random, one.random, List.countP_append, RandomSource.after_add]
  keys := one.keys.trans other.keys
  memory a unstored := by
    rw [other.memory a fun b member => unstored b (List.mem_append_right _ member)]
    exact one.memory a fun b member => unstored b (List.mem_append_left _ member)

theorem Aside.confined (aside : Aside m k) : Confined around [] m k where
  random := aside.random
  keys := aside.keys
  memory a _ := by
    obtain ⟨_, _, _, _, state⟩ := aside.state
    rw [state]

theorem confined_execute (whole : seen.state.WellFormed)
    (observed : observe around.recorded.observer m = .ok () seen) (state : seen.state = m.state) :
    Confined around [m] seen ((execute : Step ρ (Recorded κ ε) ε Unit).after seen) := by
  have called : rolls around.recorded m = seen.state.rolls := by rw [rolls, observed]
  have counted : RandomSource.after ([m].countP (rolls around.recorded)) seen.random =
      (seen.state.execute seen.random).2 := by
    rw [List.countP_singleton, called, whole.random_execute]
    cases seen.state.rolls <;> rfl
  cases executed : (execute : Step ρ (Recorded κ ε) ε Unit) seen with
  | error e k =>
    obtain ⟨fault, t, random, refused, _, rfl⟩ := (execute_eq_error_iff _ _ _).1 executed
    rw [refused] at counted
    obtain rfl := State.execute_error_state whole refused
    rw [Change.after_of_error executed]
    exact ⟨counted.symm, .of_eq rfl rfl, fun _ _ => rfl⟩
  | ok _ k =>
    obtain ⟨ins, t, random, done, rfl⟩ := (execute_eq_ok_iff _ _).1 executed
    rw [done] at counted
    obtain ⟨_, footprint, _⟩ := whole.footprint_execute done
    have told : executed? around.recorded m = some (ins, t) := by
      simp only [executed?, observed, done]
    rw [Change.after_of_ok executed]
    refine ⟨counted.symm, .of_eq rfl footprint.keys, fun a unstored => ?_⟩
    have outside := unstored m (List.mem_singleton_self m) ins t told
    rw [← state] at outside
    exact footprint.memory a outside

theorem confined_cycle (around : Surroundings κ ε) (whole : m.state.WellFormed) :
    Confined around [m] m ((cycle around.recorded).after m) := by
  have looked := aside_observe around.observer m
  have same := sameMachine_observe around.recorded.observer m
  cases observed : observe around.recorded.observer m with
  | error e seen =>
    have still : rolls around.recorded m = false := by rw [rolls, observed]
    have looked : Aside m seen := Change.after_of_error observed ▸ looked
    rw [Change.after_of_error (cycle_of_unseen observed)]
    have nothing : Confined around [] m seen := looked.confined
    refine ⟨?_, looked.keys, fun a _ => nothing.memory a (by simp)⟩
    rw [List.countP_singleton, still]
    exact looked.random
  | ok _ seen =>
    have looked : Aside m seen := Change.after_of_ok observed ▸ looked
    have state : seen.state = m.state :=
      congrArg (·.state) (Change.after_of_ok observed ▸ same).machine
    have performed := confined_execute (state ▸ whole) observed state
    cases executed : (execute : Step ρ (Recorded κ ε) ε Unit) seen with
    | error e k =>
      rw [Change.after_of_error executed] at performed
      rw [Change.after_of_error (cycle_of_refused observed executed)]
      exact looked.confined.trans performed
    | ok _ k =>
      rw [Change.after_of_ok executed] at performed
      have counted : Confined around [m] seen { k with cycles := k.cycles + 1 } :=
        ⟨performed.random, performed.keys, performed.memory⟩
      have attended := aside_attend around.host { k with cycles := k.cycles + 1 }
      rw [Change.after, cycle_of_executed observed executed, ← Change.after]
      exact looked.confined.trans (counted.trans attended.confined)

theorem Laps.confined {begun : List (Session ρ (Recorded κ ε))} {failure : Option (Failure ε)}
    (laps : Laps around.recorded m begun failure k) (whole : m.state.WellFormed) :
    Confined around begun m k := by
  induction laps with
  | rest m => exact ⟨rfl, .of_eq rfl rfl, fun _ _ => rfl⟩
  | failed failed => exact Change.after_of_error failed ▸ confined_cycle around whole
  | lap done _ ih =>
    obtain ⟨ins, _, advances⟩ := cycle_ok done
    have first := confined_cycle around whole
    rw [Change.after_of_ok done] at first
    exact first.trans (ih (advances.trail.wellFormed whole))

end Confined

theorem aside_run (around : Surroundings κ ε) (handler : Option (Fault → κ → Reply κ ε Unit))
    (fuel : Nat) (m : Session ρ (Recorded κ ε)) :
    Aside (loop around.recorded fuel m.openRun).2
      (run around.recorded (handler.map recordedHandler) fuel m).2 := by
  refine run_follows (R := Aside) (fun _ _ _ => Aside.trans)
    (fun _ _ _ _ _ => ⟨⟨_, _, _, _, rfl⟩, rfl, .of_eq rfl rfl⟩) _ ?_ around.recorded fuel m
  intro h member f
  obtain ⟨h, _, rfl⟩ := Option.map_eq_some_iff.1 member
  exact aside_recording (fun _ _ => .handle f) (fun _ _ _ => rfl) fun _ => h f

omit [RandomSource ρ] in
theorem load_eq (m : Session ρ κ) (image : List UInt8) (name : CodePoints)
    (path : Option CodePoints) :
    let k := (m.load image name path).2
    k = { m with state := { m.state with memory := k.state.memory }, program := k.program } ∧
      ∀ a, a < State.programStart ∨ State.programStart + image.length ≤ a →
        k.state.memory.byteAt a = m.state.memory.byteAt a := by
  unfold load
  cases placed : Program.place m.state.memory image with
  | error fault => exact ⟨rfl, fun _ _ => rfl⟩
  | ok memory =>
    exact ⟨rfl, fun a outside => Program.byteAt_place placed outside⟩

/-- Every part of a machine is written by its own instructions only, and only Cxkk draws a number.
Therefore a run draws as many numbers as it executes Cxkk, takes over the keys that it polls and no
others, and writes memory with Fx33 and Fx55 only, as does whatever else goes through cycles; a
program that is loaded is written over its own addresses only. -/
theorem instructions_keep_to_footprints {m : Session ρ κ} (whole : m.state.WellFormed) :
    (∀ k, (execute : Step ρ κ ε Unit) m = .ok () k →
      ∃ ins, m.state.Faces ins ∧ Footprint ins m.state k.state ∧
        k.random = (if ins.rolls then (RandomSource.draw m.random).2 else m.random) ∧
        k = { m with state := k.state, random := k.random, last := some ins }) ∧
    (∀ image name path,
      let k := (m.load image name path).2
      k = { m with state := { m.state with memory := k.state.memory }, program := k.program } ∧
        ∀ a, a < State.programStart ∨ State.programStart + image.length ≤ a →
          k.state.memory.byteAt a = m.state.memory.byteAt a) ∧
    (∀ (around : Surroundings κ ε) begun failure k,
      Laps around.recorded m.recorded begun failure k → Confined around begun m.recorded k) ∧
    ∀ (around : Surroundings κ ε) handler fuel,
      let k := (run around.recorded (handler.map recordedHandler) fuel m.recorded).2
      k.forget = (run around handler fuel m).2 ∧ ∃ begun failure,
        Laps around.recorded m.recorded.openRun begun failure
          (loop around.recorded fuel m.recorded.openRun).2 ∧
        Confined around begun m.recorded k := by
  refine ⟨?_, load_eq m, fun around begun failure k laps => laps.confined whole, ?_⟩
  · intro k done
    obtain ⟨ins, t, random, performed, rfl⟩ := (execute_eq_ok_iff _ _).1 done
    obtain ⟨faces, footprint, drawn⟩ := whole.footprint_execute performed
    exact ⟨ins, faces, footprint, drawn, rfl⟩
  · intro around handler fuel
    have plain := run_forgets around handler fuel m.recorded
    obtain ⟨begun, failure, laps⟩ := exists_laps around.recorded fuel m.recorded.openRun
    have confined := (laps.confined whole).trans
      (aside_run around handler fuel m.recorded).confined
    rw [List.append_nil] at confined
    refine ⟨(congrArg Prod.snd plain).symm, begun, failure, laps, ?_⟩
    exact ⟨confined.random, confined.keys, confined.memory⟩

def rolling : Session Script Unit := ((start (Script.ofArray #[7]) ()).loadImage [0xC0, 0x0F] []).2

theorem rolling_draws_once :
    ∃ ins k, (execute : Step Script Unit Empty Unit) rolling = .ok () k ∧
      Footprint ins rolling.state k.state ∧ k.random.drawn = 1 ∧
      k.random = if ins.rolls then (RandomSource.draw rolling.random).2 else rolling.random := by
  have loaded : Silent (start (Script.ofArray #[7]) ()) rolling := silent_loadImage _ _ _
  have whole : rolling.state.WellFormed :=
    loaded.trail.wellFormed State.sound_initial.toWellFormed
  have completes : Changed.isOk ((execute : Step Script Unit Empty Unit) rolling) = true := by
    decide +kernel
  have drawn : ((execute : Step Script Unit Empty Unit).after rolling).random.drawn = 1 := by
    decide +kernel
  obtain ⟨step, _⟩ := instructions_keep_to_footprints (ε := Empty) whole
  cases executed : (execute : Step Script Unit Empty Unit) rolling with
  | error e k =>
    rw [executed] at completes
    cases completes
  | ok _ k =>
    rw [Change.after_of_ok executed] at drawn
    obtain ⟨ins, _, footprint, source, _⟩ := step k executed
    exact ⟨ins, k, rfl, footprint, drawn, source⟩

end Session

end Chip8
