import Chip8.Proofs.Cycle

/-! The cycles that a loop consists of. They are begun one after the other, each where the one
before it was left, and only the last may have failed; what one cycle preserves is preserved
along all of them. -/
namespace Chip8

variable {ρ κ ε : Type}

def Failure.verdict? : Failure ε → Option Fault
  | .fault f => if f.endsRun then some f else none
  | .outside _ => none

def Ending.ofFailure (e : Failure ε) : Ending ε :=
  match e.verdict? with
  | some f => .faulted f
  | none => .escaped e

def Changed.isOk {σ ε α : Type} : Changed σ ε α → Bool
  | .ok _ _ => true
  | .error _ _ => false

namespace Session

variable [RandomSource ρ] {around : Surroundings κ ε} {m k j : Session ρ κ}
  {begun : List (Session ρ κ)} {failure : Option (Failure ε)}

/-- From a session to where its cycles left it. `begun` are the sessions at which they began. -/
inductive Laps (around : Surroundings κ ε) :
    Session ρ κ → List (Session ρ κ) → Option (Failure ε) → Session ρ κ → Prop
  | rest (m : Session ρ κ) : Laps around m [] none m
  | failed {m k : Session ρ κ} {e : Failure ε} (failed : cycle around m = .error e k) :
      Laps around m [m] (some e) k
  | lap {m k j : Session ρ κ} {begun : List (Session ρ κ)} {failure : Option (Failure ε)}
      (done : cycle around m = .ok () k) (later : Laps around k begun failure j) :
      Laps around m (m :: begun) failure j

theorem Laps.follows {R : Session ρ κ → Session ρ κ → Prop} (refl : ∀ m, R m m)
    (trans : ∀ {a b c}, R a b → R b c → R a c) (step : Change.Follows R (cycle around))
    (laps : Laps around m begun failure k) : R m k := by
  induction laps with
  | rest m => exact refl m
  | failed failed => exact Change.after_of_error failed ▸ step _
  | lap done _ ih => exact trans (Change.after_of_ok done ▸ step _) ih

theorem loop_of_done (going : m.stopping = false) (done : cycle around m = .ok () k) (fuel : Nat) :
    loop around (fuel + 1) m = loop around fuel k := by
  rw [loop, going, done]
  rfl

theorem loop_of_stopping (stopping : m.stopping = true) (fuel : Nat) :
    loop around fuel m = (.stopped, m) := by
  cases fuel <;> rw [loop, stopping] <;> rfl

theorem loop_of_failed {e : Failure ε} (going : m.stopping = false)
    (failed : cycle around m = .error e k) (fuel : Nat) :
    loop around (fuel + 1) m = (.ofFailure e, k) := by
  rw [loop, going, failed]
  cases e with
  | outside e => rfl
  | fault f => cases ends : f.endsRun <;> simp [Ending.ofFailure, Failure.verdict?, ends]

theorem loop_laps (around : Surroundings κ ε) (fuel : Nat) (m : Session ρ κ) :
    ∃ begun failure k, Laps around m begun failure k ∧ (∀ b ∈ begun, b.stopping = false) ∧
      ((∃ e, failure = some e ∧ loop around fuel m = (.ofFailure e, k)) ∨
        (failure = none ∧ k.stopping = true ∧ loop around fuel m = (.stopped, k)) ∨
        (failure = none ∧ k.stopping = false ∧ begun.length = fuel ∧
          loop around fuel m = (.unfinished, k))) := by
  induction fuel generalizing m with
  | zero =>
    refine ⟨[], none, m, .rest m, by simp, .inr ?_⟩
    cases stopping : m.stopping <;> simp [loop, stopping]
  | succ fuel ih =>
    cases going : m.stopping with
    | true =>
      have left : loop around (fuel + 1) m = (.stopped, m) := loop_of_stopping going _
      exact ⟨[], none, m, .rest m, by simp, .inr (.inl ⟨rfl, going, left⟩)⟩
    | false =>
      cases stepped : cycle around m with
      | error e k =>
        have left := loop_of_failed going stepped fuel
        exact ⟨[m], some e, k, .failed stepped, by simpa using going, .inl ⟨e, rfl, left⟩⟩
      | ok _ k =>
        obtain ⟨begun, failure, j, later, fresh, ended⟩ := ih k
        refine ⟨m :: begun, failure, j, .lap stepped later, by simpa [going] using fresh, ?_⟩
        rw [loop_of_done going stepped]
        simpa using ended

theorem exists_laps (around : Surroundings κ ε) (fuel : Nat) (m : Session ρ κ) :
    ∃ begun failure, Laps around m begun failure (loop around fuel m).2 := by
  obtain ⟨begun, failure, k, laps, _, left⟩ := loop_laps around fuel m
  have ended : (loop around fuel m).2 = k := by
    obtain ⟨_, _, left⟩ | ⟨_, _, left⟩ | ⟨_, _, _, left⟩ := left <;> rw [left]
  exact ⟨begun, failure, ended ▸ laps⟩

theorem loop_follows {R : Session ρ κ → Session ρ κ → Prop} (refl : ∀ m, R m m)
    (trans : ∀ {a b c}, R a b → R b c → R a c) (step : Change.Follows R (cycle around))
    (fuel : Nat) (m : Session ρ κ) : R m (loop around fuel m).2 := by
  obtain ⟨begun, failure, laps⟩ := exists_laps around fuel m
  exact laps.follows refl trans step

def completes (around : Surroundings κ ε) (m : Session ρ κ) : Bool :=
  match observe around.observer m with
  | .error _ _ => false
  | .ok _ seen => Changed.isOk (execute seen : Changed (Session ρ κ) (Failure ε) Unit)

theorem cycles_cycle (around : Surroundings κ ε) (m : Session ρ κ) :
    ((cycle around).after m).cycles = m.cycles + if completes around m then 1 else 0 := by
  have same := sameMachine_observe around.observer m
  cases observed : observe around.observer m with
  | error e seen =>
    have missed : completes around m = false := by rw [completes, observed]
    rw [Change.after_of_error observed] at same
    rw [Change.after_of_error (cycle_of_unseen observed), missed]
    exact same.cycles
  | ok _ seen =>
    rw [Change.after_of_ok observed] at same
    cases executed : (execute : Step ρ κ ε Unit) seen with
    | error e k =>
      have missed : completes around m = false := by simp only [completes, observed, executed]; rfl
      obtain ⟨fault, t, random, _, _, rfl⟩ := (execute_eq_error_iff _ _ _).1 executed
      rw [Change.after_of_error (cycle_of_refused observed executed), missed]
      exact same.cycles
    | ok _ k =>
      have completed : completes around m = true := by
        simp only [completes, observed, executed]; rfl
      obtain ⟨ins, t, random, _, rfl⟩ := (execute_eq_ok_iff _ _).1 executed
      have rest := silent_attend around.host
        { seen with state := t, random, last := some ins, cycles := seen.cycles + 1 }
      rw [Change.after, cycle_of_executed observed executed, completed]
      exact rest.cycles.trans (by rw [if_pos rfl, same.cycles])

theorem Laps.cycles (laps : Laps around m begun failure k) :
    k.cycles = m.cycles + begun.countP (completes around) := by
  induction laps with
  | rest => rfl
  | @failed m k e failed =>
    have counted := cycles_cycle around m
    rw [Change.after_of_error failed] at counted
    simpa using counted
  | @lap m k j begun failure done _ ih =>
    have counted := cycles_cycle around m
    rw [Change.after_of_ok done] at counted
    rw [ih, counted, List.countP_cons, Nat.add_assoc, Nat.add_comm (List.countP _ _)]

end Session
end Chip8
