import Chip8.Proofs.Waiting
import Chip8.Proofs.Watching

/-! Cycles that leave the program counter where it is. A jump to itself does so for ever and changes
nothing any more, a call of itself until the stack is full, and returns to themselves until it is
empty. Apart from these only the wait for a key comes back to itself. -/
namespace Chip8

theorem Stall.stops_notice (o : Stall) (s t : State) :
    ((o.notice s).observer.notice t).stops = if t.pc = s.pc then [message t.pc] else [] := by
  have seen : (o.notice s).observer.previous = some s.pc := by
    unfold notice
    split <;> rfl
  rw [notice, seen]
  by_cases same : t.pc = s.pc
  · rw [if_pos same, if_pos (congrArg some same.symm)]
  · rw [if_neg same, if_neg fun other => same (Option.some.inj other).symm]

namespace State

variable {s : State} {ins : Instruction}

/-- Whether the machine goes on where it is. -/
def Repeats (ins : Instruction) (s : State) : Prop :=
  match ins.operation with
  | .jump | .call => (ins.nnn : Int) = s.pc
  | .jumpOffset => ((s.v.byte Instruction.base).toNat : Int) + ins.nnn = s.pc
  | .ret => s.top = s.pc - 2
  | .awaitKey => ∀ key, s.keys.isDown key = false
  | _ => False

theorem target_eq_pc_iff (ins : Instruction) (s : State) :
    s.target ins = s.pc ↔ s.Repeats ins := by
  have onward (skipped : Bool) : s.pc + (if skipped then 4 else 2) ≠ s.pc := by
    cases skipped <;> omega
  obtain ⟨op, word⟩ := ins
  cases op with
  | jump | call | jumpOffset => rfl
  | ret =>
    dsimp only [target, Repeats]
    omega
  | awaitKey =>
    simp only [target, Repeats, ← Keys.highest?_eq_none_iff]
    cases s.keys.highest? with
    | none => simp
    | some key =>
      refine iff_of_false ?_ (Option.some_ne_none key)
      rw [Option.isSome_some, if_pos rfl]
      omega
  | _ => exact iff_of_false (onward _) id

theorem effect_of_repeats (sound : s.Sound) (inside : s.pc < 0xFFF) (repeats : s.Repeats ins)
    (drawn : Int) : s.effect ins drawn =
      { s with stack := s.stackAfter ins, sp := s.spAfter ins, opcode := ins.word } := by
  have pc : s.target ins % 0x10000 = s.pc := by
    rw [sound.target_mod inside, (target_eq_pc_iff ins s).2 repeats]
  obtain ⟨op, word⟩ := ins
  rw [effect, pc]
  cases op with
  | jump | call | jumpOffset | ret => rfl
  | awaitKey =>
    have none : s.keys.highest? = none := Keys.highest?_eq_none_iff.2 repeats
    simp only [memoryAfter, registersAfter, indexAfter, delayAfter, soundAfter, frameAfter,
      redrawAfter, none]
  | _ => exact repeats.elim

theorem Faces.of_same {t : State} (faces : s.Faces ins) (memory : t.memory = s.memory)
    (pc : t.pc = s.pc) : t.Faces ins := by
  have word : t.word = s.word := by rw [State.word, State.word, memory, pc]
  exact ⟨by rw [pc]; exact faces.inside, by rw [word]; exact faces.word,
    by rw [word]; exact faces.pattern⟩

theorem WellFormed.eq_of_faces (whole : s.WellFormed) {other : Instruction} (one : s.Faces ins)
    (two : s.Faces other) : other = ins :=
  Except.ok.inj (((whole.instruction_eq_ok_iff other).2 two).symm.trans
    ((whole.instruction_eq_ok_iff ins).2 one))

end State

variable {ρ κ ε : Type}

/-- Whoever is called answers, and polls tell of sixteen keys. There may be nobody. -/
structure Surroundings.Reliable (around : Surroundings κ ε) (Fit : κ → Prop) : Prop where
  host : ∀ host ∈ around.host, host.Answers Fit
  observer : ∀ look ∈ around.observer, ∀ s w, Fit w →
    (look s w).value = .ok () ∧ Fit (look s w).world

namespace Session

variable {around later : Surroundings κ ε} {Fit : κ → Prop} {m k : Session ρ κ}
  {ins : Instruction}

section Reliable

variable (reliable : around.Reliable Fit) (fit : Fit m.world)
include reliable fit

theorem observe_reliable : ∃ seen, observe around.observer m = .ok () seen ∧
    SameMachine m seen ∧ Fit seen.world := by
  obtain ⟨observer, host⟩ := around
  cases observer with
  | none => exact ⟨m, rfl, ⟨rfl, rfl, rfl⟩, fit⟩
  | some look =>
    obtain ⟨ok, fit⟩ := reliable.observer look rfl m.state m.world fit
    obtain ⟨seen, called, becomes⟩ := call_served m look ok
    have same := sameMachine_call look m
    rw [Change.after_of_ok called] at same
    exact ⟨seen, called, same, becomes.world ▸ fit⟩

theorem attend_reliable : ∃ k, attend around.host m = .ok () k ∧ Fit k.world := by
  obtain ⟨observer, host⟩ := around
  cases host with
  | none =>
    have kept : Change.Follows (fun a b : Session ρ κ => b.world = a.world)
        (attend (none : Option (Host κ ε)) : Step ρ κ ε Unit) :=
      follows_attend (R := fun a b : Session ρ κ => b.world = a.world)
        (fun _ _ _ one other => other.trans one) (fun _ => rfl) (fun _ => rfl) (fun _ => rfl)
        (fun _ => nofun) (fun _ => nofun) (fun _ => nofun)
    obtain ⟨k, attended⟩ := attend_none (ε := ε) m
    have world := kept m
    rw [Change.after_of_ok attended] at world
    exact ⟨k, attended, world ▸ fit⟩
  | some host =>
    have answers := reliable.host host rfl
    obtain ⟨_, k, _, attended, becomes⟩ :=
      attend_answered answers.toServes m answers.sixteen fit
    exact ⟨k, attended, becomes.world ▸ answers.toServes.served m.state fit⟩

variable [RandomSource ρ]

theorem cycle_reliable {s : State} {random : ρ}
    (executed : m.state.execute m.random = (.ok ins s, random)) :
    ∃ k, cycle around m = .ok () k ∧ Fit k.world := by
  obtain ⟨seen, observed, same, fit⟩ := observe_reliable reliable fit
  have state : seen.state = m.state := congrArg (·.state) same.machine
  have source : seen.random = m.random := congrArg (·.random) same.machine
  rw [← state, ← source] at executed
  have done := (execute_eq_ok_iff (ε := ε) seen _).2 ⟨ins, s, random, executed, rfl⟩
  rw [cycle_of_executed observed done]
  exact attend_reliable reliable fit

theorem cycle_reliable_refused {fault : Fault} {s : State} {random : ρ}
    (failed : m.state.execute m.random = (.error fault s, random)) :
    ∃ k, cycle around m = .error (.fault fault) k := by
  obtain ⟨seen, observed, same, _⟩ := observe_reliable reliable fit
  have state : seen.state = m.state := congrArg (·.state) same.machine
  have source : seen.random = m.random := congrArg (·.random) same.machine
  rw [← state, ← source] at failed
  have refused :=
    (execute_eq_error_iff (ε := ε) seen _ _).2 ⟨fault, s, random, failed, rfl, rfl⟩
  exact ⟨_, cycle_of_refused observed refused⟩

end Reliable

variable [RandomSource ρ]

/-- What a completed cycle has made of a machine that faced this instruction. -/
structure Passed (m : Session ρ κ) (ins : Instruction) (k : Session ρ κ) : Prop where
  faces : m.state.Faces ins
  allowed : m.state.refusal? ins = none
  last : k.last = some ins
  effect : ∃ drawn keys, State.drawFor ins m.random = (.ok drawn, k.random) ∧
    k.state = { (m.state.effect ins drawn).tick.2 with redraw := false, keys }

theorem exists_passed (whole : m.state.WellFormed) (done : cycle around m = .ok () k) :
    ∃ ins, Passed m ins k := by
  have forgets := cycle_forgets around m.recorded m rfl
  rw [done] at forgets
  generalize recorded : cycle around.recorded m.recorded = result at forgets
  cases forgets with
  | @ok j _ _ related =>
    cases related
    obtain ⟨t, taken⟩ := exists_turn recorded
    obtain ⟨found, allowed, drawn, given, effect⟩ :=
      (State.execute_eq_ok_iff whole _ _ _ _).1 taken.performed
    have state : j.state = t.after.state := congrArg (·.state) taken.after
    have random : j.random = t.executed.random := congrArg (·.random) taken.after
    refine ⟨t.instruction, (whole.instruction_eq_ok_iff _).1 found, allowed, taken.last,
      drawn, t.keys, ?_, ?_⟩
    · exact random ▸ given
    · rw [← effect]
      exact state

theorem Passed.repeated (passed : Passed m ins k) (sound : m.state.Sound)
    (repeats : m.state.Repeats ins) : ∃ keys, k.state = { m.state with
      stack := m.state.stackAfter ins, sp := m.state.spAfter ins, opcode := ins.word
      delay := State.countDown m.state.delay, sound := State.countDown m.state.sound
      redraw := false, keys } := by
  obtain ⟨drawn, keys, _, state⟩ := passed.effect
  rw [State.effect_of_repeats sound passed.faces.inside repeats] at state
  exact ⟨keys, state⟩

theorem Passed.pc (passed : Passed m ins k) (sound : m.state.Sound) :
    k.state.pc = m.state.pc ↔ m.state.Repeats ins := by
  obtain ⟨drawn, keys, _, state⟩ := passed.effect
  have target : k.state.pc = m.state.target ins % 0x10000 := congrArg (·.pc) state
  rw [target, sound.target_mod passed.faces.inside, State.target_eq_pc_iff]

theorem cycle_repeats (reliable : around.Reliable Fit) (fit : Fit m.world) (sound : m.state.Sound)
    (faces : m.state.Faces ins) (repeats : m.state.Repeats ins)
    (allowed : m.state.refusal? ins = none) :
    ∃ k, cycle around m = .ok () k ∧ Fit k.world ∧ k.random = m.random ∧
      ∃ keys, k.state = { m.state with
        stack := m.state.stackAfter ins, sp := m.state.spAfter ins, opcode := ins.word
        delay := State.countDown m.state.delay, sound := State.countDown m.state.sound
        redraw := false, keys } := by
  have calm : ins.operation ≠ .random := by
    intro rolls
    rw [State.Repeats, rolls] at repeats
    exact repeats
  have executed := sound.toWellFormed.execute_of_faces faces calm m.random
  rw [allowed] at executed
  obtain ⟨k, done, fit⟩ := cycle_reliable reliable fit executed
  obtain ⟨other, passed⟩ := exists_passed sound.toWellFormed done
  obtain rfl := sound.toWellFormed.eq_of_faces faces passed.faces
  refine ⟨k, done, fit, ?_, passed.repeated sound repeats⟩
  obtain ⟨drawn, _, given, _⟩ := passed.effect
  rw [State.drawFor_of_calm calm] at given
  exact (Prod.mk.inj given).2.symm

instance (around : Surroundings κ ε) (m : Session ρ κ) (n : Nat) :
    Decidable (Completed around m n) :=
  inferInstanceAs (Decidable (∀ k < n, Changed.isOk (Session.cycle around (cycled around m k)) =
    true))

theorem Completed.first (completed : Completed around m 1) :
    Session.cycle around m = .ok () (cycled around m 1) := completed.cycle Nat.one_pos

theorem Reachable.cycled (reached : Reachable ε m) (around : Surroundings κ ε) (i : Nat) :
    Reachable ε (Session.cycled around m i) := by
  induction i with
  | zero => exact reached
  | succ i ih => exact .act ih (.step _ around)

section Looped

/-- Where a session is after cycles of a jump or a call that leads to itself. -/
structure Looped (around : Surroundings κ ε) (Fit : κ → Prop) (ins : Instruction)
    (m : Session ρ κ) (i : Nat) : Prop where
  completed : Completed around m i
  state : ∃ stack keys redraw, (ins.operation = .call ∨ stack = m.state.stack) ∧
    (cycled around m i).state = { m.state with
      stack, sp := m.state.sp + if ins.operation = .call then (i : Int) else 0
      delay := max 0 (m.state.delay - i), sound := max 0 (m.state.sound - i), keys, redraw }
  random : (cycled around m i).random = m.random
  fit : Fit (cycled around m i).world

variable (reached : Reachable ε m) (faces : m.state.Faces ins) (repeats : m.state.Repeats ins)
  (loops : ins.operation = .jump ∨ ins.operation = .jumpOffset ∨ ins.operation = .call)
include faces repeats loops

omit [RandomSource ρ] in
theorem faces_again {s : State} (memory : s.memory = m.state.memory) (pc : s.pc = m.state.pc)
    (v : s.v = m.state.v) : s.Faces ins ∧ s.Repeats ins := by
  refine ⟨faces.of_same memory pc, ?_⟩
  obtain loop | loop | loop := loops <;>
    simpa only [State.Repeats, loop, pc, v] using repeats

include reached

theorem Reachable.looped (reliable : around.Reliable Fit) (fit : Fit m.world)
    (executed : m.state.opcode = ins.word) {i : Nat}
    (room : ins.operation = .call → m.state.sp + i ≤ 16) : Looped around Fit ins m i := by
  induction i with
  | zero =>
    have delay := reached.sound.delay
    have rings := reached.sound.sound
    have kept (timer : Int) (low : 0 ≤ timer) : max 0 (timer - (0 : Nat)) = timer := by omega
    have depth : m.state.sp + (if ins.operation = .call then ((0 : Nat) : Int) else 0) =
        m.state.sp := by
      split <;> omega
    refine ⟨nofun, ⟨m.state.stack, m.state.keys, m.state.redraw, .inr rfl, ?_⟩, rfl, fit⟩
    rw [kept _ delay.1, kept _ rings.1, depth]
    rfl
  | succ i ih =>
    have looped := ih fun calls => by have := room calls; omega
    obtain ⟨stack, keys, redraw, same, state⟩ := looped.state
    obtain ⟨again, stays⟩ : (Session.cycled around m i).state.Faces ins ∧
        (Session.cycled around m i).state.Repeats ins :=
      faces_again faces repeats loops (by rw [state]) (by rw [state]) (by rw [state])
    have allowed : (Session.cycled around m i).state.refusal? ins = none := by
      obtain loop | loop | loop := loops <;> simp only [State.refusal?, loop]
      have := room loop
      rw [state]
      simp only [if_pos loop]
      rw [if_neg (by omega)]
    have deeper : (Session.cycled around m i).state.spAfter ins =
        m.state.sp + if ins.operation = .call then ((i + 1 : Nat) : Int) else 0 := by
      rw [state]
      obtain loop | loop | loop := loops <;> simp [State.spAfter, loop, Int.add_assoc]
    have kept : ins.operation = .call ∨
        (Session.cycled around m i).state.stackAfter ins = m.state.stack := by
      rw [state]
      obtain loop | loop | loop := loops
      · exact .inr (by simpa [State.stackAfter, loop] using same)
      · exact .inr (by simpa [State.stackAfter, loop] using same)
      · exact .inl loop
    obtain ⟨j, done, fit, source, held, after⟩ := cycle_repeats reliable looped.fit
      (reached.cycled around i).sound again stays allowed
    obtain ⟨completed, rfl⟩ := looped.completed.extend done
    refine ⟨completed, ⟨_, held, false, kept, ?_⟩, source.trans looped.random, fit⟩
    rw [after, deeper, state, ← executed]
    simp only [State.countDown_max]

variable (reliable : around.Reliable Fit) (fit : Fit m.world)
  (executed : m.state.opcode = ins.word)
include reliable fit executed

omit loops in
theorem Reachable.parked (jumps : ins.operation = .jump ∨ ins.operation = .jumpOffset) (i : Nat) :
    Completed around m i ∧ (Session.cycled around m i).random = m.random ∧
      ∃ keys redraw, (Session.cycled around m i).state = { m.state with
        delay := max 0 (m.state.delay - i), sound := max 0 (m.state.sound - i)
        keys, redraw } := by
  have other : ins.operation ≠ .call := by
    obtain jump | jump := jumps <;> rw [jump] <;> decide
  have loops : ins.operation = .jump ∨ ins.operation = .jumpOffset ∨ ins.operation = .call :=
    jumps.imp_right .inl
  have looped : Looped around Fit ins m i :=
    reached.looped faces repeats loops reliable fit executed fun calls => absurd calls other
  obtain ⟨stack, keys, redraw, calls | rfl, state⟩ := looped.state
  · exact absurd calls other
  · rw [if_neg other, Int.add_zero] at state
    exact ⟨looped.completed, looped.random, keys, redraw, state⟩

omit loops in
theorem Reachable.overflows (calls : ins.operation = .call) : ∃ n : Nat, n = 16 - m.state.sp ∧
    Completed around m n ∧
    (∀ i ≤ n, (Session.cycled around m i).state.pc = m.state.pc ∧
      (Session.cycled around m i).state.sp = m.state.sp + i) ∧
    ∃ j, cycle around (Session.cycled around m n) =
      .error (.fault (.stackOverflow m.state.pc)) j := by
  have low := reached.sound.sp_nonneg
  have high := reached.sound.sp_le
  have loops : ins.operation = .jump ∨ ins.operation = .jumpOffset ∨ ins.operation = .call :=
    .inr (.inr calls)
  obtain ⟨n, filled⟩ := Int.eq_ofNat_of_zero_le (show 0 ≤ 16 - m.state.sp by omega)
  have looped (i : Nat) (before : i ≤ n) : Looped around Fit ins m i :=
    reached.looped faces repeats loops reliable fit executed fun _ => by omega
  have depth (i : Nat) (before : i ≤ n) : (Session.cycled around m i).state.pc = m.state.pc ∧
      (Session.cycled around m i).state.sp = m.state.sp + i := by
    obtain ⟨_, _, _, _, state⟩ := (looped i before).state
    rw [state, if_pos calls]
    exact ⟨rfl, rfl⟩
  have full := looped n (Nat.le_refl n)
  obtain ⟨pc, sixteen⟩ := depth n (Nat.le_refl n)
  obtain ⟨_, _, _, _, state⟩ := full.state
  obtain ⟨again, _⟩ : (Session.cycled around m n).state.Faces ins ∧
      (Session.cycled around m n).state.Repeats ins :=
    faces_again faces repeats loops (by rw [state]) pc (by rw [state])
  have refused : (Session.cycled around m n).state.refusal? ins =
      some (.stackOverflow m.state.pc) := by
    simp only [State.refusal?, calls, pc]
    rw [if_pos (by omega)]
  have failed := (reached.cycled around n).sound.toWellFormed.execute_of_faces again
    (by rw [calls]; decide) (Session.cycled around m n).random
  rw [refused] at failed
  exact ⟨n, filled.symm, full.completed, depth, cycle_reliable_refused reliable full.fit failed⟩

end Looped

theorem Reachable.returning {n : Nat} (reached : Reachable ε m) (faces : m.state.Faces ins)
    (returns : ins.operation = .ret) (completed : Completed around m n)
    (stays : ∀ i ≤ n, (Session.cycled around m i).state.pc = m.state.pc) :
    ∀ i ≤ n, (Session.cycled around m i).state.sp = m.state.sp - i := by
  intro i before
  -- memory is carried along: it is what makes the next instruction the same return
  suffices (Session.cycled around m i).state.memory = m.state.memory ∧
      (Session.cycled around m i).state.sp = m.state.sp - i from this.2
  induction i with
  | zero => exact ⟨rfl, (Int.sub_zero _).symm⟩
  | succ i ih =>
    obtain ⟨memory, depth⟩ := ih (Nat.le_of_succ_le before)
    have sound := (reached.cycled around i).sound
    have pc := stays i (Nat.le_of_succ_le before)
    obtain ⟨other, passed⟩ := exists_passed sound.toWellFormed (completed.cycle before)
    obtain rfl := sound.toWellFormed.eq_of_faces (faces.of_same memory pc) passed.faces
    have repeats := (passed.pc sound).1 ((stays (i + 1) before).trans pc.symm)
    obtain ⟨_, state⟩ := passed.repeated sound repeats
    rw [state]
    refine ⟨memory, ?_⟩
    simp only [State.spAfter, returns, depth]
    omega

/-- A cycle after which the program counter is what it was, as a stall detector notices, has
executed one of five instructions. If it was a jump, all further cycles do the same and change
nothing but timers and keys. If it was a call, the stack overflows in the end; if it was a return,
this ends when the stack is empty. -/
theorem Reachable.repeated_counter (reached : Reachable ε m) (done : cycle around m = .ok () k) :
    (∀ o : Stall, ((o.notice m.state).observer.notice k.state).stops =
      if k.state.pc = m.state.pc then [Stall.message k.state.pc] else []) ∧
    ∃ ins, k.last = some ins ∧ m.state.Faces ins ∧
      (k.state.pc = m.state.pc ↔ m.state.Repeats ins) ∧
      (k.state.pc = m.state.pc →
        (ins.operation = .jump ∨ ins.operation = .jumpOffset →
          ∀ (later : Surroundings κ ε) (Fit : κ → Prop), later.Reliable Fit → Fit k.world →
            ∀ i, Completed later k i ∧ (Session.cycled later k i).random = k.random ∧
              ∃ keys redraw, (Session.cycled later k i).state = { k.state with
                delay := max 0 (k.state.delay - i), sound := max 0 (k.state.sound - i)
                keys, redraw }) ∧
        (ins.operation = .call →
          ∀ (later : Surroundings κ ε) (Fit : κ → Prop), later.Reliable Fit → Fit k.world →
            ∃ n : Nat, 1 + n = 16 - m.state.sp ∧ Completed later k n ∧
              (∀ i ≤ n, (Session.cycled later k i).state.pc = m.state.pc ∧
                (Session.cycled later k i).state.sp = m.state.sp + 1 + i) ∧
              ∃ j, cycle later (Session.cycled later k n) =
                .error (.fault (.stackOverflow m.state.pc)) j) ∧
        (ins.operation = .ret →
          ∀ (later : Surroundings κ ε) (n : Nat), Completed later k n →
            (∀ i ≤ n, (Session.cycled later k i).state.pc = m.state.pc) →
              (∀ i ≤ n, (Session.cycled later k i).state.sp = m.state.sp - 1 - i) ∧
              n + 1 ≤ m.state.sp)) := by
  have sound := reached.sound
  have onward : Reachable ε k := Change.after_of_ok done ▸ .act reached (.step m around)
  obtain ⟨ins, passed⟩ := exists_passed sound.toWellFormed done
  refine ⟨fun o => o.stops_notice m.state k.state, ins, passed.last, passed.faces, passed.pc sound,
    fun same => ?_⟩
  have repeats := (passed.pc sound).1 same
  obtain ⟨_, state⟩ := passed.repeated sound repeats
  have memory : k.state.memory = m.state.memory := by rw [state]
  have v : k.state.v = m.state.v := by rw [state]
  have opcode : k.state.opcode = ins.word := by rw [state]
  have depth : k.state.sp = m.state.spAfter ins := by rw [state]
  refine ⟨fun jumps later Fit reliable fit => ?_, fun calls later Fit reliable fit => ?_,
    fun returns later n completed stays => ?_⟩
  · obtain ⟨faces, repeats⟩ := faces_again passed.faces repeats (jumps.imp_right .inl) memory same v
    exact onward.parked faces repeats reliable fit opcode jumps
  · obtain ⟨faces, repeats⟩ := faces_again passed.faces repeats (.inr (.inr calls)) memory same v
    simp only [State.spAfter, calls] at depth
    obtain ⟨n, filled, completed, along, overflow⟩ :=
      onward.overflows faces repeats reliable fit opcode calls
    rw [depth] at filled along
    rw [same] at along overflow
    exact ⟨n, by omega, completed, along, overflow⟩
  · simp only [State.spAfter, returns] at depth
    have shrinks := onward.returning (passed.faces.of_same memory same) returns completed
      fun i before => (stays i before).trans same.symm
    rw [depth] at shrinks
    have last := shrinks n (Nat.le_refl n)
    have low := (onward.cycled later n).sound.sp_nonneg
    exact ⟨shrinks, by omega⟩

theorem alone_reliable : alone.Reliable fun h => h.keys.size = 16 where
  host := by
    rintro _ ⟨⟩
    exact headless_answers
  observer := nofun

def spinning (image : List UInt8) : Session Script Headless :=
  ((start (Script.ofArray #[]) Headless.fresh).loadImage image []).2

theorem reachable_spinning (image : List UInt8) : Reachable Empty (spinning image) :=
  .act (.fresh _ _) (.loadImage _ _ _)

theorem spinning_ends :
    (∀ i, Completed alone (cycled alone (spinning [0x12, 0x00]) 1) i) ∧
    (∃ j, cycle alone (cycled alone (cycled alone (spinning [0x22, 0x00]) 1) 15) =
      .error (.fault (.stackOverflow 0x200)) j) ∧
    (cycled alone (cycled alone (spinning [0x22, 0x02, 0x00, 0xEE]) 1) 1).state.sp = 0 := by
  refine ⟨?_, ?_, ?_⟩
  · obtain ⟨completed, jump, same, full⟩ :
        Completed alone (spinning [0x12, 0x00]) 1 ∧
        (cycled alone (spinning [0x12, 0x00]) 1).last = some ⟨.jump, 0x1200⟩ ∧
        (cycled alone (spinning [0x12, 0x00]) 1).state.pc = (spinning [0x12, 0x00]).state.pc ∧
        (cycled alone (spinning [0x12, 0x00]) 1).world.keys.size = 16 := by decide +kernel
    obtain ⟨_, ins, last, _, _, repeated⟩ :=
      (reachable_spinning [0x12, 0x00]).repeated_counter completed.first
    obtain rfl := Option.some.inj (last.symm.trans jump)
    exact fun i => ((repeated same).1 (.inl rfl) alone _ alone_reliable full i).1
  · obtain ⟨completed, call, same, full, empty, pc⟩ :
        Completed alone (spinning [0x22, 0x00]) 1 ∧
        (cycled alone (spinning [0x22, 0x00]) 1).last = some ⟨.call, 0x2200⟩ ∧
        (cycled alone (spinning [0x22, 0x00]) 1).state.pc = (spinning [0x22, 0x00]).state.pc ∧
        (cycled alone (spinning [0x22, 0x00]) 1).world.keys.size = 16 ∧
        (spinning [0x22, 0x00]).state.sp = 0 ∧
        (spinning [0x22, 0x00]).state.pc = 0x200 := by decide +kernel
    obtain ⟨_, ins, last, _, _, repeated⟩ :=
      (reachable_spinning [0x22, 0x00]).repeated_counter completed.first
    obtain rfl := Option.some.inj (last.symm.trans call)
    obtain ⟨n, filled, _, _, overflow⟩ := (repeated same).2.1 rfl alone _ alone_reliable full
    obtain rfl : n = 15 := by omega
    rw [← pc]
    exact overflow
  · have reached := (reachable_spinning [0x22, 0x02, 0x00, 0xEE]).cycled alone 1
    generalize called : cycled alone (spinning [0x22, 0x02, 0x00, 0xEE]) 1 = m at reached ⊢
    obtain ⟨completed, ret, same, one⟩ : Completed alone m 1 ∧
        (cycled alone m 1).last = some ⟨.ret, 0x00EE⟩ ∧
        (cycled alone m 1).state.pc = m.state.pc ∧ m.state.sp = 1 := by
      rw [← called]
      decide +kernel
    obtain ⟨_, ins, last, _, _, repeated⟩ := reached.repeated_counter completed.first
    obtain rfl := Option.some.inj (last.symm.trans ret)
    obtain ⟨shrinks, _⟩ := (repeated same).2.2 rfl alone 0 nofun fun i before => by
      obtain rfl := Nat.le_zero.1 before
      exact same
    have emptied := shrinks 0 (Nat.le_refl 0)
    rw [one] at emptied
    exact emptied

end Session

end Chip8
