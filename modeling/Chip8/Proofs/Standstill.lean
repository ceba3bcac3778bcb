import Chip8.Proofs.Laps
import Chip8.Random.Twister

/-! Cycles that fault. A fault leaves the machine and its source of randomness as they were, so
a run that ended in one fails again, at once and for the same reason, when it is started anew. -/
namespace Chip8

namespace Session

variable {ρ κ ε : Type}

theorem stops_of_stopping {m : Session ρ κ} (stopping : m.stopping = true)
    (stops : List CodePoints) : stops.foldl requestStop m = m := by
  induction stops with
  | nil => rfl
  | cons reason rest ih =>
    have ignored : m.requestStop reason = m := by rw [requestStop, if_pos stopping]
    rw [List.foldl_cons, ignored, ih]

theorem stopping_requestStop (m : Session ρ κ) (reason : CodePoints) :
    (m.requestStop reason).stopping = true := by
  unfold requestStop
  split
  · assumption
  · rfl

/-- How a run ends in which the machine faults after so many cycles. -/
def verdict (handler : Option (Fault → κ → Reply κ ε Unit)) (cycles : Nat) (f : Fault)
    (world : κ) : Except (Failure ε) (Option Outcome) :=
  let outcome := some ⟨cycles, some f, .ofString f.message⟩
  if f.endsRun then
    match handler with
    | none => .ok outcome
    | some handler => (handler f world).value.map fun _ => outcome
  else
    .error (.fault f)

variable [RandomSource ρ]

section Loop

variable {around : Surroundings κ ε} {m last : Session ρ κ} {n : Nat}

theorem loop_of_faulted {k : Session ρ κ} {f : Fault} (going : m.stopping = false)
    (failed : cycle around m = .error (.fault f) k) (fuel : Nat) :
    loop around (fuel + 1) m = (if f.endsRun then .faulted f else .escaped (.fault f), k) := by
  rw [loop, going, failed]
  rfl

theorem loop_zero_eq_unfinished_iff :
    loop around 0 m = (.unfinished, last) ↔ m.stopping = false ∧ last = m := by
  rw [loop]
  cases m.stopping <;> simp [eq_comm]

theorem loop_succ_eq_unfinished_iff :
    loop around (n + 1) m = (.unfinished, last) ↔
      m.stopping = false ∧
        ∃ k, cycle around m = .ok () k ∧ loop around n k = (.unfinished, last) := by
  rw [loop]
  cases m.stopping with
  | true => simp
  | false =>
    cases cycle around m with
    | ok _ k => simp
    | error e k =>
      cases e with
      | outside e => simp
      | fault f => by_cases ends : f.endsRun <;> simp [ends]

theorem loop_add (ended : loop around n m = (.unfinished, last)) (fuel : Nat) :
    loop around (n + fuel) m = loop around fuel last := by
  induction n generalizing m with
  | zero =>
    obtain ⟨_, rfl⟩ := loop_zero_eq_unfinished_iff.1 ended
    rw [Nat.zero_add]
  | succ n ih =>
    obtain ⟨going, k, done, rest⟩ := loop_succ_eq_unfinished_iff.1 ended
    rw [Nat.succ_add, loop_of_done going done, ih rest]

theorem going_of_unfinished (ended : loop around n m = (.unfinished, last)) :
    last.stopping = false := by
  induction n generalizing m with
  | zero =>
    obtain ⟨going, rfl⟩ := loop_zero_eq_unfinished_iff.1 ended
    exact going
  | succ n ih =>
    obtain ⟨_, k, _, rest⟩ := loop_succ_eq_unfinished_iff.1 ended
    exact ih rest

theorem advances_of_unfinished (ended : loop around n m = (.unfinished, last)) :
    ∃ trace, trace.length = n ∧ Advances m trace last := by
  induction n generalizing m with
  | zero =>
    obtain ⟨_, rfl⟩ := loop_zero_eq_unfinished_iff.1 ended
    exact ⟨[], rfl, .start _, rfl⟩
  | succ n ih =>
    obtain ⟨_, k, done, rest⟩ := loop_succ_eq_unfinished_iff.1 ended
    obtain ⟨ins, _, first⟩ := cycle_ok done
    obtain ⟨trace, length, later⟩ := ih rest
    exact ⟨[⟨m.state.pc, ins⟩] ++ trace, by simp [length], first.trans later⟩

end Loop

section Fault

variable {m last : Session ρ κ} {f : Fault}

theorem execute_of_fault (whole : m.state.WellFormed) (total : RandomSource.Total ρ)
    {after : Session ρ κ} {e : Failure ε} (failed : execute m = .error e after) :
    after = m ∧ ∃ f, e = .fault f ∧ m.state.fault? = some f := by
  obtain ⟨f, t, random, refused, rfl, rfl⟩ := (execute_eq_error_iff _ _ _).1 failed
  obtain ⟨known, rfl, rfl⟩ := (State.execute_eq_error_iff whole total _ _ _ _).1 refused
  exact ⟨rfl, f, rfl, known⟩

theorem execute_of_fault? (whole : m.state.WellFormed) (total : RandomSource.Total ρ)
    (known : m.state.fault? = some f) : (execute : Step ρ κ ε Unit) m = .error (.fault f) m := by
  refine (execute_eq_error_iff _ _ _).2 ⟨f, m.state, m.random, ?_, rfl, rfl⟩
  exact (State.execute_eq_error_iff whole total _ _ _ _).2 ⟨known, rfl, rfl⟩

theorem cycle_of_fault? (host : Option (Host κ ε)) (whole : m.state.WellFormed)
    (total : RandomSource.Total ρ) (known : m.state.fault? = some f) :
    cycle ⟨none, host⟩ m = .error (.fault f) m :=
  cycle_of_refused rfl (execute_of_fault? whole total known)

theorem run_of_faulted {around : Surroundings κ ε} {fuel : Nat}
    (handler : Option (Fault → κ → Reply κ ε Unit)) (going : last.stopping = false)
    (left : loop around fuel m.openRun =
      (if f.endsRun then .faulted f else .escaped (.fault f), last)) :
    (run around handler fuel m).1 = verdict handler (last.cycles - m.cycles) f last.world ∧
      (run around handler fuel m).2.stopping = true := by
  unfold run verdict
  rw [left]
  by_cases ends : f.endsRun
  · have halted : last.halt f =
        { last.report (.runHalted last.state.pc f) with
          stopping := true, reason := .ofString f.message } := by
      simp only [halt, requestStop, report, going, Bool.false_eq_true, if_false]
    simp only [ends, if_true, settle_eq, halted]
    cases handler with
    | none => exact ⟨rfl, rfl⟩
    | some handler =>
      simp only [notify, call]
      rw [stops_of_stopping rfl]
      cases value : (handler f last.world).value with
      | ok _ => simp [report, value, conclude, closeRun, requestStop, Except.map]
      | error e => simp [report, value, closeRun, requestStop, Except.map]
  · simp only [ends]
    exact ⟨rfl, stopping_requestStop _ _⟩

theorem run_of_fault? {host : Option (Host κ ε)} {n : Nat} (whole : m.state.WellFormed)
    (total : RandomSource.Total ρ)
    (ended : loop ⟨none, host⟩ n m.openRun = (.unfinished, last))
    (known : last.state.fault? = some f) (handler : Option (Fault → κ → Reply κ ε Unit))
    (fuel : Nat) :
    (run ⟨none, host⟩ handler (n + fuel + 1) m).1 = verdict handler n f last.world ∧
      SameMachine last (run ⟨none, host⟩ handler (n + fuel + 1) m).2 ∧
      (run ⟨none, host⟩ handler (n + fuel + 1) m).2.stopping = true := by
  have going := going_of_unfinished ended
  obtain ⟨trace, length, advances⟩ := advances_of_unfinished ended
  have whole' : last.state.WellFormed := advances.trail.wellFormed whole
  have counted : last.cycles - m.cycles = n := by
    have cycles : last.cycles = m.cycles + trace.length := advances.cycles
    omega
  have left : loop ⟨none, host⟩ (n + fuel + 1) m.openRun =
      (if f.endsRun then .faulted f else .escaped (.fault f), last) := by
    rw [Nat.add_assoc, loop_add ended,
      loop_of_faulted going (cycle_of_fault? host whole' total known)]
  obtain ⟨result, stopping⟩ := run_of_faulted handler going left
  have same := sameMachine_run ⟨none, host⟩ handler (n + fuel + 1) m
  rw [left] at same
  rw [counted] at result
  exact ⟨result, same, stopping⟩

end Fault

/-- A cycle that faults changes nothing: neither the machine nor its source of randomness nor the
count of cycles, and no host is called. So a run without an observer that ended in a fault fails
again when it is started anew: at once, for the same reason, and without any change. -/
theorem faulting_cycle_changes_nothing (total : RandomSource.Total ρ) {m : Session ρ κ}
    (whole : m.state.WellFormed) :
    (∀ (e : Failure ε) after, execute m = .error e after → after = m) ∧
    (∀ (around : Surroundings κ ε) seen e after,
      observe around.observer m = .ok () seen → execute seen = .error e after →
        cycle around m = .error e seen ∧ SameMachine m seen) ∧
    ∀ (host : Option (Host κ ε)) n last (e : Failure ε) after,
      loop ⟨none, host⟩ n m.openRun = (.unfinished, last) → execute last = .error e after →
        ∃ f, e = .fault f ∧ ∀ handler fuel,
          let first := run ⟨none, host⟩ handler (n + fuel + 1) m
          first.1 = verdict handler n f last.world ∧ SameMachine last first.2 ∧
          first.2.stopping = true ∧
          ∀ (host : Option (Host κ ε)) handler fuel,
            let again := run ⟨none, host⟩ handler (fuel + 1) first.2
            again.1 = verdict handler 0 f first.2.world ∧ SameMachine first.2 again.2 ∧
            again.2.stopping = true := by
  refine ⟨fun e after failed => (execute_of_fault whole total failed).1, ?_, ?_⟩
  · intro around seen e after observed failed
    have same := Change.after_of_ok observed ▸ sameMachine_observe around.observer m
    have state : seen.state = m.state := congrArg (·.state) same.machine
    obtain ⟨rfl, _⟩ := execute_of_fault (state ▸ whole) total failed
    exact ⟨cycle_of_refused observed failed, same⟩
  · intro host n last e after ended failed
    obtain ⟨trace, _, advances⟩ := advances_of_unfinished ended
    have whole' : last.state.WellFormed := advances.trail.wellFormed whole
    obtain ⟨_, f, rfl, known⟩ := execute_of_fault whole' total failed
    refine ⟨f, rfl, fun handler fuel => ?_⟩
    obtain ⟨result, same, stopping⟩ := run_of_fault? whole total ended known handler fuel
    refine ⟨result, same, stopping, fun host handler' fuel' => ?_⟩
    generalize (run ⟨none, _⟩ handler (n + fuel + 1) m).2 = k at same
    have state : k.state = last.state := congrArg (·.state) same.machine
    have reopened : loop ⟨none, host⟩ 0 k.openRun = (.unfinished, k.openRun) := rfl
    have known' : k.openRun.state.fault? = some f := by
      rw [← known, ← state]
      rfl
    have again := run_of_fault? (state ▸ whole') total reopened known' handler' fuel'
    rw [Nat.zero_add] at again
    obtain ⟨result', same', stopping'⟩ := again
    exact ⟨result', (sameMachine_openRun k).trans same', stopping'⟩

theorem twister_total : RandomSource.Total Twister := by
  intro t
  change ∃ value after, Twister.draw t = (.ok value, after)
  unfold Twister.draw
  generalize t.byte 100000 = drawn
  exact ⟨drawn.1, drawn.2, rfl⟩

def returning : Session Twister Unit :=
  ((start (Twister.ofSeed 0) ()).loadImage [0x00, 0xEE] []).2

theorem returning_state : returning.state = { State.initial with
    memory := State.initial.memory.overwrite State.programStart [0x00, 0xEE] } := by
  rw [returning, loadImage_state _ _ (by decide)]
  rfl

theorem returning_fault? : returning.state.fault? = some (.stackUnderflow 0x200) := by
  rw [returning_state]
  decide +kernel

theorem returning_changes_nothing :
    (run ⟨none, none⟩ none 1 returning).1 =
      (verdict none 0 (.stackUnderflow 0x200) () : Except (Failure Empty) _) ∧
    SameMachine returning (run (ε := Empty) ⟨none, none⟩ none 1 returning).2 := by
  have loaded : Silent (start (Twister.ofSeed 0) ()) returning :=
    silent_load _ [0x00, 0xEE] plainName none
  have whole : returning.state.WellFormed :=
    loaded.trail.wellFormed State.sound_initial.toWellFormed
  have failed : execute returning.openRun =
      .error (.fault (.stackUnderflow 0x200) : Failure Empty) returning.openRun :=
    execute_of_fault? whole twister_total returning_fault?
  obtain ⟨_, _, ends⟩ :=
    faulting_cycle_changes_nothing (κ := Unit) (ε := Empty) twister_total whole
  obtain ⟨_, same, runs⟩ := ends none 0 _ _ _ rfl failed
  cases same
  obtain ⟨result, kept, _⟩ := runs none 0
  exact ⟨result, (sameMachine_openRun _).trans kept⟩

end Session

end Chip8
