import Chip8.Proofs.Calls
import Chip8.Proofs.Timers
import Chip8.Scripted

/-! Waiting for a key. Fx0A leaves the program counter where it is as long as the keypad is empty,
so the next cycle executes it again. The keys that it sees are those of the poll in the cycle before,
which came after its last attempt; meanwhile the host is polled and the timers run. -/
namespace Chip8

namespace Keys

variable {k : Keys}

theorem ascending_pressed (k : Keys) : k.pressed.Pairwise (· < ·) :=
  (List.pairwise_lt_finRange 16).filter _

theorem highest?_eq_none_iff : k.highest? = Option.none ↔ ∀ key, k.isDown key = false := by
  rw [highest?, List.getLast?_eq_none_iff, List.eq_nil_iff_forall_not_mem]
  simp only [mem_pressed, Bool.not_eq_true]

theorem highest?_eq_some_iff (key : Fin 16) :
    k.highest? = some key ↔ k.isDown key = true ∧ ∀ other, k.isDown other = true → other ≤ key := by
  have ascending := k.ascending_pressed
  have last {key : Fin 16} (found : k.highest? = some key) :
      k.isDown key = true ∧ ∀ other, k.isDown other = true → other ≤ key := by
    obtain ⟨lower, same⟩ := List.getLast?_eq_some_iff.1 found
    rw [same, List.pairwise_append] at ascending
    refine ⟨(k.mem_pressed key).1 (by simp [same]), fun other down => ?_⟩
    have member := (k.mem_pressed other).2 down
    rw [same, List.mem_append, List.mem_singleton] at member
    obtain below | rfl := member
    · exact Fin.le_of_lt (ascending.2.2 other below key (List.mem_singleton_self key))
    · exact Fin.le_refl _
  refine ⟨last, fun ⟨down, least⟩ => ?_⟩
  cases found : k.highest? with
  | none =>
    rw [highest?_eq_none_iff.1 found key] at down
    cases down
  | some top =>
    obtain ⟨pressed, above⟩ := last found
    rw [Fin.le_antisymm (least top pressed) (above key down)]

end Keys

namespace State

variable {s : State} {ins : Instruction}

theorem effect_awaitKey (whole : s.WellFormed) (waits : ins.operation = .awaitKey)
    (drawn : Int) : s.effect ins drawn = match s.keys.highest? with
      | none => { s with opcode := ins.word }
      | some key => { s with
          v := s.v.put ins.x (UInt8.ofNat key)
          pc := (s.pc + 2) % 0x10000, opcode := ins.word } := by
  have stays : s.pc % 0x10000 = s.pc := by
    have low := whole.pc_nonneg
    have high := whole.pc_le
    omega
  cases pressed : s.keys.highest? <;>
    simp [effect, memoryAfter, registersAfter, indexAfter, stackAfter, spAfter, delayAfter,
      soundAfter, frameAfter, redrawAfter, target, waits, pressed, stays]

theorem countDown_max (timer : Int) (count : Nat) :
    countDown (max 0 (timer - count)) = max 0 (timer - (count + 1 : Nat)) := by
  unfold countDown
  split <;> omega

end State

/-- A host that answers, and if there is an observer, one that looks on. Both may ask for stops. -/
structure Surroundings.Attentive {κ ε : Type} (around : Surroundings κ ε) (Fit : κ → Prop) :
    Prop where
  host : ∃ host ∈ around.host, host.Answers Fit
  observer : ∀ look ∈ around.observer, ∀ s w, Fit w →
    (look s w).value = .ok () ∧ Fit (look s w).world

namespace Session

variable {ρ κ ε : Type} {around : Surroundings κ ε} {Fit : κ → Prop} {ins : Instruction}

/-- What becomes of a session after an instruction that left the state `s`, until its cycle ends. -/
structure Attended (Fit : κ → Prop) (s : State) (k j : Session ρ (Recorded κ ε)) : Prop where
  state : j.state = { s.tick.2 with redraw := false, keys := j.state.keys }
  polls : j.world.polls = k.world.polls ++ [j.state.keys.down.toArray]
  beeps : j.world.beeps = k.world.beeps + if s.sound = 1 then 1 else 0
  fit : Fit j.world.world

theorem exists_observed (attentive : around.Attentive Fit) {k : Session ρ (Recorded κ ε)}
    (fit : Fit k.world.world) : ∃ seen, observe around.recorded.observer k = .ok () seen := by
  obtain ⟨observer, _⟩ := around
  cases observer with
  | none => exact ⟨k, rfl⟩
  | some look =>
    obtain ⟨seen, called, _⟩ := call_served k (fun s => recording (fun _ => .look) (look s))
      (attentive.observer look rfl k.state k.world.world fit).1
    exact ⟨seen, called⟩

variable [RandomSource ρ] (attentive : around.Attentive Fit)
include attentive

theorem cycle_attended {k : Session ρ (Recorded κ ε)} (whole : k.state.WellFormed)
    (faces : k.state.Faces ins) (allowed : k.state.refusal? ins = none)
    (calm : ins.operation ≠ .random) (fit : Fit k.world.world) :
    ∃ j, cycle around.recorded k = .ok () j ∧ Attended Fit (k.state.effect ins 0) k j := by
  obtain ⟨host, hosted, answers⟩ := attentive.host
  have executed := whole.execute_of_faces faces calm k.random
  rw [allowed] at executed
  have told : (executed? around.recorded k).isSome = true := by
    obtain ⟨seen, observed⟩ := exists_observed attentive fit
    have same := sameMachine_observe around.recorded.observer k
    rw [Change.after_of_ok observed] at same
    have state : seen.state = k.state := congrArg (·.state) same.machine
    have random : seen.random = k.random := congrArg (·.random) same.machine
    simp only [executed?, observed, state, random, executed, Option.isSome_some]
  have keeps (look) (member : look ∈ around.observer) (s w) (fit : Fit w) : Fit (look s w).world :=
    (attentive.observer look member s w fit).2
  have noticed := (noticed_recorded around.host keeps k fit).1
  have recorded : around.recorded.host = some host.recorded := by
    rw [Surroundings.recorded, Option.mem_def.1 hosted, Option.map_some]
  obtain ⟨untold, _⟩ | ⟨_, j, done, answered⟩ :=
    cycle_answered answers.recorded recorded whole noticed
  · rw [untold] at told
    cases told
  · obtain ⟨t, taken⟩ := exists_turn done
    rw [Option.mem_def.1 hosted, Option.isSome_some] at taken
    have performed := taken.performed
    rw [executed] at performed
    have left : k.state.effect ins 0 = t.executed.state :=
      (EStateM.Result.ok.inj (Prod.mk.inj performed).1).2
    have state : j.state = t.after.state := congrArg (·.state) taken.after
    refine ⟨j, done, ?_, ?_, ?_, ?_⟩
    · rw [state, Turn.after, left]
    · rw [taken.polls, state]
      rfl
    · rw [taken.beeps, Turn.rings, left]
      simp only [beq_iff_eq]
    · rw [answered.world]
      exact answers.recorded.toServes.served _ noticed

/-- Where a session is after cycles that found no key down. -/
structure Waited (around : Surroundings κ ε) (Fit : κ → Prop) (m : Session ρ κ) (i : Nat) :
    Prop where
  completed : Completed around.recorded m.recorded i
  state : ∃ keys redraw opcode, (cycled around.recorded m.recorded i).state =
    { m.state with
      delay := max 0 (m.state.delay - i), sound := max 0 (m.state.sound - i)
      keys, redraw, opcode }
  polls : (cycled around.recorded m.recorded i).world.polls = (List.range i).map fun j =>
    (cycled around.recorded m.recorded (j + 1)).state.keys.down.toArray
  fit : Fit (cycled around.recorded m.recorded i).world.world

variable {m : Session ρ κ} {i : Nat}

omit attentive in
theorem Waited.wellFormed (waited : Waited around Fit m i) (whole : m.state.WellFormed) :
    (cycled around.recorded m.recorded i).state.WellFormed := by
  obtain ⟨_, _, _, state⟩ := waited.state
  rw [state]
  exact ⟨whole.full, whole.sp_nonneg, whole.sp_le, whole.i_nonneg, whole.i_le, whole.pc_nonneg,
    whole.pc_le⟩

section Waited

variable (waited : Waited around Fit m i) (whole : m.state.WellFormed)
  (faces : m.state.Faces ins) (waits : ins.operation = .awaitKey)
include waited whole faces waits

theorem Waited.next : Completed around.recorded m.recorded (i + 1) ∧
    Attended Fit ((cycled around.recorded m.recorded i).state.effect ins 0)
      (cycled around.recorded m.recorded i) (cycled around.recorded m.recorded (i + 1)) := by
  have faces : (cycled around.recorded m.recorded i).state.Faces ins := by
    obtain ⟨_, _, _, state⟩ := waited.state
    rw [state]
    exact ⟨faces.inside, faces.word, faces.pattern⟩
  have allowed : (cycled around.recorded m.recorded i).state.refusal? ins = none := by
    simp only [State.refusal?, waits]
  obtain ⟨j, done, attended⟩ := cycle_attended attentive (waited.wellFormed whole) faces allowed
    (by rw [waits]; decide) waited.fit
  obtain ⟨completed, rfl⟩ := waited.completed.extend done
  exact ⟨completed, attended⟩

theorem Waited.succ
    (idle : ∀ key, (cycled around.recorded m.recorded i).state.keys.isDown key = false) :
    Waited around Fit m (i + 1) := by
  obtain ⟨completed, attended⟩ := waited.next attentive whole faces waits
  obtain ⟨keys, redraw, opcode, before⟩ := waited.state
  have state := attended.state
  rw [State.effect_awaitKey (waited.wellFormed whole) waits, Keys.highest?_eq_none_iff.2 idle,
    before] at state
  generalize (cycled around.recorded m.recorded (i + 1)).state.keys = held at state
  refine ⟨completed, ⟨held, false, ins.word, state.trans ?_⟩, ?_, attended.fit⟩
  · simp only [State.tick, State.countDown_max]
  · rw [attended.polls, waited.polls, List.range_succ, List.map_append]
    rfl

theorem Waited.beeps
    (idle : ∀ key, (cycled around.recorded m.recorded i).state.keys.isDown key = false) :
    (cycled around.recorded m.recorded (i + 1)).world.beeps =
      (cycled around.recorded m.recorded i).world.beeps +
        if (cycled around.recorded m.recorded i).state.sound = 1 then 1 else 0 := by
  obtain ⟨_, attended⟩ := waited.next attentive whole faces waits
  have beeps := attended.beeps
  rwa [State.effect_awaitKey (waited.wellFormed whole) waits,
    Keys.highest?_eq_none_iff.2 idle] at beeps

theorem Waited.taken {pressed : Fin 16}
    (down : (cycled around.recorded m.recorded i).state.keys.isDown pressed = true) :
    ∃ key, (cycled around.recorded m.recorded i).state.keys.isDown key = true ∧
      (∀ other, (cycled around.recorded m.recorded i).state.keys.isDown other = true →
        other ≤ key) ∧
      ∃ keys redraw opcode, (cycled around.recorded m.recorded (i + 1)).state = { m.state with
        v := m.state.v.put ins.x (UInt8.ofNat key), pc := m.state.pc + 2
        delay := max 0 (m.state.delay - (i + 1 : Nat))
        sound := max 0 (m.state.sound - (i + 1 : Nat))
        keys, redraw, opcode } := by
  obtain ⟨_, attended⟩ := waited.next attentive whole faces waits
  cases found : (cycled around.recorded m.recorded i).state.keys.highest? with
  | none =>
    rw [Keys.highest?_eq_none_iff.1 found pressed] at down
    cases down
  | some key =>
    obtain ⟨pressed, above⟩ := (Keys.highest?_eq_some_iff key).1 found
    obtain ⟨keys, redraw, opcode, before⟩ := waited.state
    have inside := faces.inside
    have low := whole.pc_nonneg
    have unmasked : (m.state.pc + 2) % 0x10000 = m.state.pc + 2 := by omega
    have state := attended.state
    rw [State.effect_awaitKey (waited.wellFormed whole) waits, found, before] at state
    generalize (cycled around.recorded m.recorded (i + 1)).state.keys = held at state
    refine ⟨key, pressed, above, held, false, ins.word, state.trans ?_⟩
    simp only [State.tick, State.countDown_max, unmasked]

end Waited

theorem Reachable.waited (reached : Reachable ε m) (faces : m.state.Faces ins)
    (waits : ins.operation = .awaitKey) (fit : Fit m.world)
    (idle : ∀ j < i, ∀ key, (cycled around.recorded m.recorded j).state.keys.isDown key = false) :
    Waited around Fit m i := by
  have sound := reached.sound
  induction i with
  | zero =>
    have delay := sound.delay
    have rings := sound.sound
    refine ⟨nofun, ⟨m.state.keys, m.state.redraw, m.state.opcode, ?_⟩, rfl, fit⟩
    have kept (timer : Int) (low : 0 ≤ timer) : max 0 (timer - (0 : Nat)) = timer := by omega
    rw [kept _ delay.1, kept _ rings.1]
    rfl
  | succ i ih =>
    have waited := ih fun j before => idle j (Nat.lt_succ_of_lt before)
    exact waited.succ attentive sound.toWellFormed faces waits (idle i (Nat.lt_succ_self i))

/-- Fx0A is executed again and again until a key is down, and nothing but the keys and the timers
moves meanwhile. The key that ends the wait was polled in the last of the cycles that waited. -/
theorem Reachable.waits_for_key (reached : Reachable ε m) (faces : m.state.Faces ins)
    (waits : ins.operation = .awaitKey) (fit : Fit m.world) (n : Nat) :
    let reached := cycled around.recorded m.recorded
    (∀ i < n, ∀ key, (reached i).state.keys.isDown key = false) →
      Completed around.recorded m.recorded n ∧
      (∀ i ≤ n,
        (∃ keys redraw opcode, (reached i).state = { m.state with
          delay := max 0 (m.state.delay - i), sound := max 0 (m.state.sound - i)
          keys, redraw, opcode }) ∧
        (reached i).world.polls =
          (List.range i).map fun j => (reached (j + 1)).state.keys.down.toArray) ∧
      (∀ i < n, (reached (i + 1)).world.beeps =
        (reached i).world.beeps + if (reached i).state.sound = 1 then 1 else 0) ∧
      ∀ pressed, (reached n).state.keys.isDown pressed = true →
        ∃ key, (reached n).state.keys.isDown key = true ∧
          (∀ other, (reached n).state.keys.isDown other = true → other ≤ key) ∧
          Completed around.recorded m.recorded (n + 1) ∧
          ∃ keys redraw opcode, (reached (n + 1)).state = { m.state with
            v := m.state.v.put ins.x (UInt8.ofNat key), pc := m.state.pc + 2
            delay := max 0 (m.state.delay - (n + 1 : Nat))
            sound := max 0 (m.state.sound - (n + 1 : Nat))
            keys, redraw, opcode } := by
  intro k idle
  have whole := reached.sound.toWellFormed
  have waited (i : Nat) (before : i ≤ n) : Waited around Fit m i :=
    reached.waited attentive faces waits fit fun j below => idle j (Nat.lt_of_lt_of_le below before)
  have now := waited n (Nat.le_refl n)
  refine ⟨now.completed, fun i before => ?_, fun i below => ?_, fun pressed down => ?_⟩
  · exact ⟨(waited i before).state, (waited i before).polls⟩
  · have waiting := waited i (Nat.le_of_lt below)
    exact waiting.beeps attentive whole faces waits (idle i below)
  · obtain ⟨key, held, above, after⟩ := now.taken attentive whole faces waits down
    obtain ⟨completed, _⟩ := now.next attentive whole faces waits
    exact ⟨key, held, above, completed, after⟩

omit attentive

def Played (p : Scripted) : Prop := 0 < p.polls.size ∧ ∀ keys ∈ p.polls, keys.size = 16

omit [RandomSource ρ] in
theorem scripted_answers : (Scripted.host : Host Scripted ε).Answers Played where
  render _ _ played := ⟨rfl, played⟩
  poll p played := by
    have inside : min p.polled (p.polls.size - 1) < p.polls.size := by
      have := played.1
      omega
    refine ⟨p.polls[min p.polled (p.polls.size - 1)], ?_, played⟩
    simp only [Scripted.host, Scripted.snapshot?, Array.getElem?_eq_getElem inside]
  beep _ played := ⟨rfl, played⟩
  sixteen p snapshot played given := by
    simp only [Scripted.host, Scripted.snapshot?] at given
    split at given
    · next found =>
      cases given
      exact played.2 _ (Array.mem_of_getElem? found)
    · cases given

def expecting : Session Script Scripted :=
  ((start (Script.ofArray #[]) {
      polls := #[Keys.none.down.toArray, (Keys.ofMask 0x210).down.toArray]
      stopAt := none, reason := [], polled := 0, calls := #[] }).loadImage [0xF3, 0x0A] []).2

theorem expecting_takes_highest :
    let around : Surroundings Scripted Empty := ⟨none, some Scripted.host⟩
    let reached := cycled around.recorded expecting.recorded
    (reached 2).state.pc = 0x200 ∧ (reached 2).world.polls.length = 2 ∧
      (reached 3).state.pc = 0x202 ∧
      (reached 3).state.v.byte (Instruction.mk .awaitKey 0xF30A).x = 9 := by
  intro around cycles
  have reached : Reachable Empty expecting := .act (.fresh _ _) (.loadImage _ _ _)
  have attentive : around.Attentive Played := ⟨⟨_, rfl, scripted_answers⟩, nofun⟩
  have pc : expecting.state.pc = 0x200 := by
    rw [expecting, loadImage_state _ _ (by decide)]
    rfl
  have word : expecting.state.word = 0xF30A := by decide +kernel
  have faces : expecting.state.Faces ⟨.awaitKey, 0xF30A⟩ :=
    ⟨by rw [pc]; decide, by rw [word]; rfl, by rw [word]; exact ⟨rfl, rfl⟩⟩
  have played : Played expecting.world := by
    unfold Played
    decide +kernel
  have idle : ∀ i < 2, ∀ key, (cycles i).state.keys.isDown key = false := by decide +kernel
  have nine : (cycles 2).state.keys.isDown 9 = true := by decide +kernel
  have least : ∀ key, (cycles 2).state.keys.isDown key = true → key ≤ 9 := by decide +kernel
  obtain ⟨_, along, _, next⟩ := reached.waits_for_key attentive faces rfl played 2 idle
  obtain ⟨⟨_, _, _, before⟩, polls⟩ := along 2 (Nat.le_refl 2)
  obtain ⟨key, pressed, above, _, _, _, _, after⟩ := next 9 nine
  obtain rfl : key = 9 := Fin.le_antisymm (least key pressed) (above 9 nine)
  refine ⟨?_, ?_, ?_, ?_⟩
  · rw [before]
    exact pc
  · rw [polls, List.length_map, List.length_range]
  · rw [after, pc]
    rfl
  · have full := reached.sound.full
    rw [after, Registers.byte_put full, if_pos rfl]
    rfl

end Session

end Chip8
