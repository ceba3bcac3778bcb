import Chip8.Proofs.Cycle

/-! Sessions that can come about. Calls of every kind are made one after another on a fresh
session, and each may succeed or fail. All of them make trails of its machine. -/
namespace Chip8

namespace Session

variable {ρ κ : Type} [RandomSource ρ]

/-- What can be done with a session from outside. Its world may change at any time. -/
inductive Act (ε : Type) : Session ρ κ → Session ρ κ → Prop
  | loadImage (m : Session ρ κ) (image : List UInt8) (name : CodePoints) :
      Act ε m (m.loadImage image name).2
  | loadFile (m : Session ρ κ) (disk : Disk) (path : Path) (name : CodePoints) :
      Act ε m (m.loadFile disk path name).2
  | run (m : Session ρ κ) (around : Surroundings κ ε)
      (handler : Option (Fault → κ → Reply κ ε Unit)) (fuel : Nat) :
      Act ε m (run around handler fuel m).2
  | step (m : Session ρ κ) (around : Surroundings κ ε) : Act ε m ((cycle around).after m)
  | execute (m : Session ρ κ) : Act ε m ((execute : Step ρ κ ε Unit).after m)
  | tick (m : Session ρ κ) : Act ε m { m with state := m.state.tick.2 }
  | setKeys (m : Session ρ κ) (snapshot : Array Bool) :
      Act ε m ((setKeys snapshot : Step ρ κ ε Unit).after m)
  | stop (m : Session ρ κ) (reason : CodePoints) : Act ε m (m.requestStop reason)
  | elsewhere (m : Session ρ κ) (world : κ) : Act ε m { m with world }

/-- The sessions that acts make of a fresh one, in any order, whether they succeed or fail. -/
inductive Reachable (ε : Type) : Session ρ κ → Prop
  | fresh (random : ρ) (world : κ) : Reachable ε (start random world)
  | act {m k : Session ρ κ} (before : Reachable ε m) (done : Act ε m k) : Reachable ε k

theorem silent_loadFile (m : Session ρ κ) (disk : Disk) (path : Path) (name : CodePoints) :
    Silent m (m.loadFile disk path name).2 := by
  unfold loadFile
  cases disk.read path with
  | error fault => exact ⟨.start _, rfl, rfl⟩
  | ok image => exact silent_load m image _ _

theorem execute_trail {ε : Type} (m : Session ρ κ) :
    ∃ trace, Trail m.machine trace ((execute : Step ρ κ ε Unit).after m).machine := by
  cases executed : (execute : Step ρ κ ε Unit) m with
  | ok _ k =>
    obtain ⟨ins, t, random, done, rfl⟩ := (execute_eq_ok_iff _ _).1 executed
    exact Change.after_of_ok executed ▸ ⟨[⟨m.state.pc, ins⟩], .of_executed done⟩
  | error e k =>
    obtain ⟨fault, t, random, failed, _, rfl⟩ := (execute_eq_error_iff _ _ _).1 executed
    exact Change.after_of_error executed ▸ ⟨[], .of_pause (.refused failed)⟩

theorem Act.trail {ε : Type} {m k : Session ρ κ} (done : Act ε m k) :
    ∃ trace, Trail m.machine trace k.machine := by
  cases done with
  | loadImage image name => exact ⟨[], (silent_loadImage m image name).trail⟩
  | loadFile disk path name => exact ⟨[], (silent_loadFile m disk path name).trail⟩
  | run around handler fuel =>
    obtain ⟨trace, advances⟩ := run_trace around handler fuel m
    exact ⟨trace, advances.trail⟩
  | step around =>
    obtain ⟨trace, advances⟩ := cycle_trace around m
    exact ⟨trace, advances.trail⟩
  | execute => exact execute_trail m
  | tick => exact ⟨[], .of_pause (.ticked m.machine)⟩
  | setKeys snapshot => exact ⟨[], (silent_setKeys snapshot m).trail⟩
  | stop reason => exact ⟨[], (sameMachine_requestStop m reason).silent.trail⟩
  | elsewhere world => exact ⟨[], .start _⟩

theorem Reachable.trail {ε : Type} {m : Session ρ κ} (reached : Reachable ε m) :
    ∃ random trace, Trail ⟨State.initial, random⟩ trace m.machine := by
  induction reached with
  | fresh random world => exact ⟨random, [], .start _⟩
  | act _ done ih =>
    obtain ⟨random, trace, before⟩ := ih
    obtain ⟨later, after⟩ := done.trail
    exact ⟨random, trace ++ later, before.trans after⟩

theorem Reachable.sound {ε : Type} {m : Session ρ κ} (reached : Reachable ε m) : m.state.Sound := by
  obtain ⟨random, trace, trail⟩ := reached.trail
  exact trail.sound State.sound_initial

/-- Every number of a machine stays in its range, whatever is called and whatever the source of
randomness gives. The program counter stays so far below sixteen bits that their mask changes
nothing. -/
theorem Reachable.ranges {ε : Type} {m : Session ρ κ} (reached : Reachable ε m) :
    m.state.Sound ∧
      m.state.memory.bytes.toList.length = 0x1000 ∧ m.state.frame.cells.toList.length = 2048 ∧
      m.state.keys.down.toList.length = 16 ∧
      ∀ ins t after, m.state.execute m.random = (.ok ins t, after) →
        t.pc = m.state.target ins ∧ m.state.target ins % 0x10000 = m.state.target ins := by
  have sound := reached.sound
  have whole := sound.toWellFormed
  refine ⟨sound, Vector.length_toList, Vector.length_toList, Vector.length_toList, ?_⟩
  intro ins t after done
  obtain ⟨found, _, drawn, _, rfl⟩ := (State.execute_eq_ok_iff whole _ _ _ _).1 done
  have unmasked : m.state.target ins % 0x10000 = m.state.target ins :=
    sound.target_mod ((whole.instruction_eq_ok_iff ins).1 found).inside
  exact ⟨unmasked, unmasked⟩

theorem ranges_after_draw :
    let loaded := ((start (Script.ofArray #[-7]) ()).loadImage [0xC0, 0xFF] []).2
    let m := (cycle ⟨none, none⟩ : Step Script Unit Empty Unit).after loaded
    m.state.Sound ∧
      m.state.memory.bytes.toList.length = 0x1000 ∧ m.state.frame.cells.toList.length = 2048 ∧
      m.state.keys.down.toList.length = 16 ∧
      ∀ ins t after, m.state.execute m.random = (.ok ins t, after) →
        t.pc = m.state.target ins ∧ m.state.target ins % 0x10000 = m.state.target ins :=
  Reachable.ranges (.act (.act (.fresh _ _) (.loadImage _ _ _)) (.step _ _))

end Session

end Chip8
