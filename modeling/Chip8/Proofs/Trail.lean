import Chip8.Program
import Chip8.Proofs.Sound

/-! Trails of a machine: the instructions that it completed between two points, each with the
address that it was fetched from. Between them the machine may refuse instructions, show its
frame, take over keys, count its timers and be loaded. -/
namespace Chip8

/-- A machine and the source that it draws numbers from. -/
structure Machine (ρ : Type) where
  state : State
  random : ρ

/-- An instruction that was completed. -/
structure Executed where
  address : Int
  instruction : Instruction
deriving DecidableEq, Repr

variable {ρ : Type} [RandomSource ρ]

/-- What can happen to a machine between two instructions that it completes. -/
inductive Pause : Machine ρ → Machine ρ → Prop
  | refused {a b : Machine ρ} {fault : Fault}
      (failed : a.state.execute a.random = (.error fault b.state, b.random)) : Pause a b
  | shown (a : Machine ρ) : Pause a { a with state := { a.state with redraw := false } }
  | keyed (a : Machine ρ) (keys : Keys) : Pause a { a with state := { a.state with keys } }
  | ticked (a : Machine ρ) : Pause a { a with state := a.state.tick.2 }
  | loaded (a : Machine ρ) {image : List UInt8} {memory : Memory 0x1000}
      (placed : Program.place a.state.memory image = .ok memory) :
      Pause a { a with state := { a.state with memory } }

inductive Trail : Machine ρ → List Executed → Machine ρ → Prop
  | start (a : Machine ρ) : Trail a [] a
  | pause {a b c : Machine ρ} {trace : List Executed} (before : Trail a trace b)
      (paused : Pause b c) : Trail a trace c
  | executed {a b c : Machine ρ} {trace : List Executed} {ins : Instruction}
      (before : Trail a trace b)
      (done : b.state.execute b.random = (.ok ins c.state, c.random)) :
      Trail a (trace ++ [⟨b.state.pc, ins⟩]) c

namespace Trail

variable {a b c : Machine ρ} {trace : List Executed}

theorem of_pause (paused : Pause a b) : Trail a [] b := (start a).pause paused

theorem of_executed {ins : Instruction}
    (done : a.state.execute a.random = (.ok ins b.state, b.random)) :
    Trail a [⟨a.state.pc, ins⟩] b := (start a).executed done

theorem trans {before after : List Executed} (first : Trail a before b) (second : Trail b after c) :
    Trail a (before ++ after) c := by
  induction second with
  | start => simpa using first
  | pause _ paused ih => exact ih.pause paused
  | executed _ done ih =>
    rw [← List.append_assoc]
    exact ih.executed done

theorem keeps {P : State → Prop}
    (paused : ∀ {b c : Machine ρ}, Pause b c → P b.state → P c.state)
    (executed : ∀ {b c : Machine ρ} {ins : Instruction},
      b.state.execute b.random = (.ok ins c.state, c.random) → P b.state → P c.state)
    (trail : Trail a trace b) (holds : P a.state) : P b.state := by
  induction trail with
  | start => exact holds
  | pause _ step ih => exact paused step ih
  | executed _ done ih => exact executed done ih

end Trail

theorem countDown_range {timer : Int} (range : 0 ≤ timer ∧ timer ≤ 0xFF) :
    0 ≤ State.countDown timer ∧ State.countDown timer ≤ 0xFF := by
  unfold State.countDown
  split <;> omega

variable {a b : Machine ρ} {trace : List Executed} {ins : Instruction}

theorem State.WellFormed.pause (whole : a.state.WellFormed) (paused : Pause a b) :
    b.state.WellFormed := by
  cases paused with
  | refused failed => exact execute_error_state whole failed ▸ whole
  | shown | keyed | ticked | loaded => exact { whole with }

theorem State.WellFormed.executed (whole : a.state.WellFormed)
    (done : a.state.execute a.random = (.ok ins b.state, b.random)) : b.state.WellFormed := by
  obtain ⟨_, allowed, drawn, _, same⟩ := (execute_eq_ok_iff whole _ _ _ _).1 done
  exact same ▸ whole.effect drawn allowed

theorem State.Sound.pause (sound : a.state.Sound) (paused : Pause a b) : b.state.Sound := by
  cases paused with
  | refused failed => exact execute_error_state sound.toWellFormed failed ▸ sound
  | shown | keyed | loaded => exact { sound with }
  | ticked =>
    exact { sound with delay := countDown_range sound.delay, sound := countDown_range sound.sound }

theorem State.Sound.executed (sound : a.state.Sound)
    (done : a.state.execute a.random = (.ok ins b.state, b.random)) : b.state.Sound := by
  have whole := sound.toWellFormed
  obtain ⟨found, allowed, drawn, _, same⟩ := (execute_eq_ok_iff whole _ _ _ _).1 done
  exact same ▸ sound.effect drawn ((whole.instruction_eq_ok_iff ins).1 found) allowed

theorem Trail.wellFormed (trail : Trail a trace b) (whole : a.state.WellFormed) :
    b.state.WellFormed :=
  trail.keeps (fun paused holds => holds.pause paused) (fun done holds => holds.executed done) whole

theorem Trail.sound (trail : Trail a trace b) (sound : a.state.Sound) : b.state.Sound :=
  trail.keeps (fun paused holds => holds.pause paused) (fun done holds => holds.executed done) sound

end Chip8
