import Chip8.Proofs.Footprint
import Chip8.Proofs.Periphery
import Chip8.Proofs.Succession

/-! What the outside can tell a machine. Keys and random numbers reach it through the instructions
that read them only: two sessions whose keys differ, or whose numbers do, stay alike for as long as
one of them executes none of those. -/
namespace Chip8

namespace RandomSource

variable {ρ ρ' : Type} [RandomSource ρ] [RandomSource ρ']

/-- Two sources that give the same from here on. -/
def Agree (r : ρ) (q : ρ') : Prop := ∀ n, (draw (after n r)).1 = (draw (after n q)).1

theorem Agree.drawn {r : ρ} {q : ρ'} (agree : Agree r q) : Agree (draw r).2 (draw q).2 :=
  fun n => agree (n + 1)

end RandomSource

open RandomSource (Agree)

namespace State

variable {ρ ρ' : Type} [RandomSource ρ] [RandomSource ρ'] {s t : State} {ins : Instruction}
  {r after : ρ} {q : ρ'}

theorem perform_agree (ins : Instruction) (s : State) (agree : Agree r q) :
    ∃ after', perform ins s q = ((perform ins s r).1, after') ∧
      Agree (perform ins s r).2 after' := by
  by_cases draws : ins.operation = .random
  · obtain ⟨op, word⟩ := ins
    cases draws
    have first : (RandomSource.draw r).1 = (RandomSource.draw q).1 := agree 0
    refine ⟨(RandomSource.draw q).2, ?_, agree.drawn⟩
    simp only [perform, first]
  · have own : perform ins s r = ((perform ins s r).1, r) := perform_of_no_random draws r
    refine ⟨q, perform_of_no_random draws q, ?_⟩
    rw [own]
    exact agree

theorem execute_agree (done : s.execute r = (.ok ins t, after)) (agree : Agree r q) :
    ∃ after', s.execute q = (.ok ins t, after') ∧ Agree after after' := by
  obtain ⟨found, u, performed, rfl⟩ := execute_eq_ok_iff_perform.1 done
  obtain ⟨after', other, agree⟩ := perform_agree ins s agree
  rw [performed] at other agree
  exact ⟨after', execute_eq_ok_iff_perform.2 ⟨found, u, other, rfl⟩, agree⟩

end State

namespace Session

variable {ρ ρ' κ κ' ε ε' : Type} [RandomSource ρ] [RandomSource ρ'] {hosted : Bool}
  {m k : Session ρ (Recorded κ ε)} {m' k' : Session ρ' (Recorded κ' ε')} {t : Turn ρ} {u : Turn ρ'}

/-- Sessions whose machines differ in their keys at most, and whose hosts have been shown the same
and beeped as often. -/
structure Resembles (m : Session ρ (Recorded κ ε)) (m' : Session ρ' (Recorded κ' ε')) : Prop where
  state : m'.state = { m.state with keys := m'.state.keys }
  frames : m'.world.frames = m.world.frames
  beeps : m'.world.beeps = m.world.beeps

theorem Resembles.turn (resembles : Resembles m m') (one : Taken true m t k)
    (other : Taken true m' u k')
    (same : u.executed.state = { t.executed.state with keys := u.executed.state.keys }) :
    Resembles k k' where
  state := by
    have ours : k.state = t.after.state := congrArg (·.state) one.after
    have theirs : k'.state = u.after.state := congrArg (·.state) other.after
    rw [ours, theirs, Turn.after, Turn.after, same]
    rfl
  frames := by
    rw [one.frames, other.frames, resembles.frames, same]
  beeps := by
    rw [one.beeps, other.beeps, resembles.beeps, Turn.rings, Turn.rings, same]

theorem Resembles.keyed (resembles : Resembles m m') (agree : Agree m.random m'.random)
    (one : Taken true m t k) (other : Taken true m' u k')
    (unread : t.instruction.operation.readsKeys = false) :
    Resembles k k' ∧ Agree k.random k'.random := by
  obtain ⟨after, again, agree⟩ :=
    State.execute_agree (State.execute_keyed one.performed unread m'.state.keys) agree
  have state : { m.state with keys := m'.state.keys } = m'.state := resembles.state.symm
  rw [state] at again
  obtain ⟨result, source⟩ := Prod.mk.inj (again.symm.trans other.performed)
  have performed := (EStateM.Result.ok.inj result).2
  refine ⟨resembles.turn one other ?_, ?_⟩
  · rw [← performed]
  · have first : k.random = t.executed.random := congrArg (·.random) one.after
    have second : k'.random = u.executed.random := congrArg (·.random) other.after
    rw [first, second, ← source]
    exact agree

theorem Resembles.drawn (resembles : Resembles m m') (state : m'.state = m.state)
    (one : Taken true m t k) (other : Taken true m' u k') (keys : u.keys = t.keys)
    (still : t.instruction.operation ≠ .random) : Resembles k k' ∧ k'.state = k.state := by
  have again := State.execute_of_no_random one.performed still m'.random
  rw [← state] at again
  obtain ⟨result, _⟩ := Prod.mk.inj (again.symm.trans other.performed)
  have performed := (EStateM.Result.ok.inj result).2
  refine ⟨resembles.turn one other (by rw [← performed]), ?_⟩
  have first : k.state = t.after.state := congrArg (·.state) one.after
  have second : k'.state = u.after.state := congrArg (·.state) other.after
  rw [first, second, Turn.after, Turn.after, ← performed, keys]

section Cycles

variable {one : Surroundings κ ε} {other : Surroundings κ' ε'} {n : Nat}

theorem polls_agree (hosted : one.host.isSome = true) (hosted' : other.host.isSome = true)
    (completed : Completed one.recorded m n) (completed' : Completed other.recorded m' n)
    (polls : (cycled other.recorded m' n).world.polls = (cycled one.recorded m n).world.polls)
    {i : Nat} (before : i ≤ n) :
    (cycled other.recorded m' i).world.polls = (cycled one.recorded m i).world.polls := by
  induction n with
  | zero =>
    obtain rfl := Nat.le_zero.1 before
    exact polls
  | succ n ih =>
    obtain rfl | earlier := Nat.eq_or_lt_of_le before
    · exact polls
    · obtain ⟨t, first⟩ := completed.turn (Nat.lt_succ_self n)
      obtain ⟨u, second⟩ := completed'.turn (Nat.lt_succ_self n)
      rw [hosted] at first
      rw [hosted'] at second
      rw [first.polls, second.polls] at polls
      exact ih (completed.mono (Nat.le_succ n)) (completed'.mono (Nat.le_succ n))
        (List.append_inj_left' polls rfl) (Nat.le_of_lt_succ earlier)

/-- Keys and random numbers act through the instructions that read them only. -/
theorem inputs_act_through_readers (hosted : one.host.isSome = true)
    (hosted' : other.host.isSome = true) {m : Session ρ κ} {m' : Session ρ' κ'}
    (same : m'.state = m.state) (completed : Completed one.recorded m.recorded n)
    (completed' : Completed other.recorded m'.recorded n) :
    let first := cycled one.recorded m.recorded
    let second := cycled other.recorded m'.recorded
    (Agree m.random m'.random →
      (∀ i < n, ∀ ins, (first (i + 1)).last = some ins → ins.operation.readsKeys = false) →
      ∀ i ≤ n, Resembles (first i) (second i)) ∧
    ((second n).world.polls = (first n).world.polls →
      (∀ i < n, ∀ ins, (first (i + 1)).last = some ins → ins.operation ≠ .random) →
      ∀ i ≤ n, Resembles (first i) (second i) ∧ (second i).state = (first i).state) := by
  intro first second
  have start : Resembles (first 0) (second 0) := by
    have state : (second 0).state = (first 0).state := same
    exact ⟨by rw [state], rfl, rfl⟩
  refine ⟨fun agree unread i before => ?_, fun polls still i before => ?_⟩
  · suffices Resembles (first i) (second i) ∧ Agree (first i).random (second i).random from this.1
    induction i with
    | zero => exact ⟨start, agree⟩
    | succ i ih =>
      obtain ⟨resembles, agree⟩ := ih (Nat.le_of_succ_le before)
      obtain ⟨t, ours⟩ := completed.turn before
      obtain ⟨u, theirs⟩ := completed'.turn before
      rw [hosted] at ours
      rw [hosted'] at theirs
      exact resembles.keyed agree ours theirs (unread i before _ ours.last)
  · induction i with
    | zero => exact ⟨start, same⟩
    | succ i ih =>
      obtain ⟨resembles, state⟩ := ih (Nat.le_of_succ_le before)
      obtain ⟨t, ours⟩ := completed.turn before
      obtain ⟨u, theirs⟩ := completed'.turn before
      rw [hosted] at ours
      rw [hosted'] at theirs
      have polled := polls_agree hosted hosted' completed completed' polls before
      rw [ours.polls, theirs.polls] at polled
      have keys : u.keys = t.keys := by
        have last := (List.cons.inj (List.append_inj_right' polled rfl)).1
        exact congrArg Keys.mk (Vector.toArray_inj.1 last)
      exact resembles.drawn state ours theirs keys (still i before _ ours.last)

end Cycles

def unreading (keys : Array Bool) (numbers : Array Int) : Session Script Headless :=
  ((start (Script.ofArray numbers) ⟨keys, #[], 0, true⟩).loadImage
    [0x60, 0x01, 0xF0, 0x18, 0x00, 0xE0] []).2

theorem unread_inputs_do_not_matter :
    let plain := unreading Headless.fresh.keys #[1]
    let pressed := unreading (Array.replicate 16 true) #[1]
    let lucky := unreading Headless.fresh.keys #[7]
    Resembles (cycled alone.recorded plain.recorded 3) (cycled alone.recorded pressed.recorded 3) ∧
      (cycled alone.recorded lucky.recorded 3).state =
        (cycled alone.recorded plain.recorded 3).state := by
  intro plain pressed lucky
  have completed : Completed alone.recorded plain.recorded 3 := by
    unfold Completed
    decide +kernel
  have completed' : Completed alone.recorded pressed.recorded 3 := by
    unfold Completed
    decide +kernel
  have completed'' : Completed alone.recorded lucky.recorded 3 := by
    unfold Completed
    decide +kernel
  have quiet : ∀ i < 3, (cycled alone.recorded plain.recorded (i + 1)).last.any
      (fun ins => ins.operation.readsKeys || ins.operation == .random) = false := by
    decide +kernel
  have polls : (cycled alone.recorded lucky.recorded 3).world.polls =
      (cycled alone.recorded plain.recorded 3).world.polls := by
    decide +kernel
  have executed : ∀ i < 3, ∀ ins, (cycled alone.recorded plain.recorded (i + 1)).last = some ins →
      ins.operation.readsKeys = false ∧ ins.operation ≠ .random := by
    intro i below ins last
    have neither := quiet i below
    rw [last] at neither
    simpa using neither
  have same : pressed.state = plain.state := rfl
  have same' : lucky.state = plain.state := rfl
  obtain ⟨keyed, _⟩ := inputs_act_through_readers rfl rfl same completed completed'
  obtain ⟨_, drawn⟩ := inputs_act_through_readers rfl rfl same' completed completed''
  refine ⟨?_, ?_⟩
  · exact keyed (fun _ => rfl) (fun i below ins last => (executed i below ins last).1) 3 (by decide)
  · exact (drawn polls (fun i below ins last => (executed i below ins last).2) 3 (by decide)).2

end Session

end Chip8
