import Chip8.Diagnostics
import Chip8.Proofs.Faults
import Chip8.Proofs.Splitting

/-! The diagnostic runner, from its arguments to its exit code. It judges the faults by which a
machine passes a verdict on its program. A machine that is asked for something it does not have, a
byte past the end of memory or a seventeenth key, is not judged: that failure leaves the runner. -/
namespace Chip8

namespace Observer

theorem mem_leavesAll {leaf : Observer} {members : List Observer} :
    leaf ∈ leavesAll members ↔ ∃ o ∈ members, leaf ∈ o.leaves := by
  induction members with
  | nil => simp [leavesAll]
  | cons o rest ih => simp [leavesAll, ih]

end Observer

namespace Session

variable {ρ η ε : Type}

theorem Ends.of_fault {cycles : Nat} {requested : Option CodePoints} {f : Fault}
    {result : Except (Failure ε) (Option Outcome)} {reason : CodePoints}
    (ends : Ends false cycles requested (some (.fault f)) [] result reason) :
    f.endsRun = true ∧ (∃ o, result = .ok (some o) ∧ o.error = some f) ∨
      f.endsRun = false ∧ result = .error (.fault f) := by
  generalize told : ([] : List (Call ε)) = calls at ends
  generalize fails : Failure.fault f = e at ends
  cases ends with
  | verdict verdict once _ =>
    subst fails
    cases judged : f.endsRun with
    | false => simp [Failure.verdict?, judged] at verdict
    | true =>
      obtain rfl : f = _ := by simpa [Failure.verdict?, judged] using verdict
      cases once
      exact .inl ⟨rfl, _, rfl, rfl⟩
  | escaped none _ =>
    subst fails
    cases judged : f.endsRun with
    | false => exact .inr ⟨rfl, rfl⟩
    | true => simp [Failure.verdict?, judged] at none

theorem Ends.of_passed {cycles : Nat} {requested : Option CodePoints}
    {result : Except (Failure ε) (Option Outcome)} {reason : CodePoints}
    (ends : Ends false cycles requested none [] result reason) :
    ∃ o, result = .ok (some o) ∧ o.error = none := by
  cases ends with
  | stopped => exact ⟨_, rfl, rfl⟩

variable [RandomSource ρ]

theorem unobserved_trail (host : Option (Host η ε)) (m : Session ρ (World η)) (k : Nat) :
    ∃ trace, Trail m.machine trace (unobserved host m k).machine := by
  induction k with
  | zero => exact ⟨[], .start _⟩
  | succ k ih =>
    obtain ⟨before, first⟩ := ih
    obtain ⟨trace, later⟩ := cycle_trace (unwatched host) (unobserved host m k)
    exact ⟨before ++ trace, first.trans later.trail⟩

theorem sound_unobserved (host : Option (Host η ε)) {m : Session ρ (World η)}
    (sound : m.state.Sound) (k : Nat) : (unobserved host m k).state.Sound := by
  obtain ⟨trace, trail⟩ := unobserved_trail host m k
  exact trail.sound sound

theorem failure_answered {Fit : η → Prop} {h : Host η ε} (answers : h.Answers Fit)
    {m : Session ρ (World η)} (whole : m.state.WellFormed) (total : RandomSource.Total ρ)
    (fit : Fit m.world.host) :
    Changed.failure? (cycle (unwatched (some h)) m) = m.state.fault?.map .fault := by
  cases known : m.state.fault? with
  | some f =>
    have failed : cycle (unwatched (some h)) m = .error (.fault f) m :=
      cycle_of_fault? _ whole total known
    rw [failed]
    rfl
  | none =>
    cases executed : (execute : Step ρ (World η) ε Unit) m with
    | error e k =>
      obtain ⟨_, f, _, faults⟩ := execute_of_fault whole total executed
      rw [known] at faults
      cases faults
    | ok _ k =>
      have world : k.world = m.world := by
        obtain ⟨ins, s, random, _, rfl⟩ := (execute_eq_ok_iff _ _).1 executed
        rfl
      have fit : Fit k.world.host := world ▸ fit
      obtain ⟨_, j, _, attended, _⟩ := attend_answered answers.lift.toServes
        { k with cycles := k.cycles + 1 } answers.lift.sixteen fit
      have done : cycle (unwatched (some h)) m = .ok () j :=
        (cycle_of_executed rfl executed).trans attended
      rw [done]
      rfl

theorem headless_keyed_quiet :
    (Headless.host : Host Headless ε).Quiet fun h => h.keys.size = 16 where
  toServes := headless_answers.toServes
  render_stops _ _ _ := rfl
  poll_stops _ _ := rfl
  beep_stops _ _ := rfl

end Session

namespace Diagnostics

open Session (cycle headless unobserved unwatched)

theorem size_keys_setKey (h : Headless) (key : Int) (down : Bool) :
    ((h.setKey key down).toOption.getD h).keys.size = h.keys.size := by
  unfold Headless.setKey
  split
  · rfl
  · split
    · exact Array.size_setIfInBounds
    · rfl

theorem size_keys_hold (keys : List Int) : (hold keys).keys.size = 16 := by
  have held (h : Headless) (full : h.keys.size = 16) :
      (keys.foldl (fun h key => ((h.setKey key true).toOption).getD h) h).keys.size = 16 := by
    induction keys generalizing h with
    | nil => exact full
    | cons key rest ih => exact ih _ ((size_keys_setKey h key true).trans full)
  exact held _ rfl

theorem voices_at_limit {o : Options} (limited : 0 < o.cycles) (pcs : Nat → Int) :
    o.watch.chain.voices pcs (o.cycles.toNat - 1) ≠ [] := by
  have member : Observer.limit (.ofNat o.cycles.toNat) ∈ o.watch.chain.leaves := by
    rw [Watch.chain, Observer.leaves, Observer.mem_leavesAll]
    refine ⟨.limit (.ofNat o.cycles.toNat), ?_, by simp [Observer.leaves]⟩
    simp [Options.watch, limited]
  have fires : Observer.fires? pcs (o.cycles.toNat - 1) (.limit (.ofNat o.cycles.toNat)) =
      some CycleLimit.message := by
    rw [Observer.fires?, if_pos]
    simp only [CycleLimit.ofNat]
    omega
  exact List.ne_nil_of_mem (List.mem_filterMap.2 ⟨_, member, fires⟩)

variable {ρ : Type} [RandomSource ρ]

def loaded (o : Options) (random : ρ) (disk : Disk) : Session ρ (World Headless) :=
  ((Session.start random ⟨some o.watch.chain, hold o.keys, o.threshold, []⟩).loadFile disk
    (Path.ofText o.program) []).2

variable {o : Options} {disk : Disk} {image : List UInt8} {random : ρ}

theorem verdict_of_clean {outcome : Outcome} (clean : outcome.error = none)
    (members : List Observer) :
    (verdict outcome members).1 = 0 ∨ (verdict outcome members).1 = 2 := by
  unfold verdict
  rw [clean]
  dsimp only
  split
  · exact .inl rfl
  · split
    · exact .inl rfl
    · split
      · exact .inr rfl
      · exact .inl rfl

theorem sound_loaded (o : Options) (random : ρ) (disk : Disk) :
    (loaded o random disk).state.Sound :=
  (Session.silent_loadFile _ disk _ _).trail.sound State.sound_initial

def watchedRun (o : Options) (m : Session ρ (World Headless)) :
    Except (Failure Empty) (Option Outcome) × Session ρ (World Headless) :=
  Session.run (World.surroundings headless) none o.cycles.toNat m

/-- So many cycles are made at most. Only a run without a limit needs the patience. -/
def Options.fuel (o : Options) (patience : Nat) : Nat :=
  if 0 < o.cycles then o.cycles.toNat else patience

theorem execute_of_loaded (found : disk.read (Path.ofText o.program) = .ok image)
    (fits : image.length ≤ Program.limit) (patience : Nat) :
    let final := Session.run (World.surroundings headless) none (o.fuel patience)
      (loaded o random disk)
    let errors := Report.text o.threshold final.2.log.toList
    execute o random patience disk = match final.1 with
      | .error failure => ⟨.escaped (.machine failure), [], errors, disk⟩
      | .ok none => ⟨.unfinished, [], errors, disk⟩
      | .ok (some outcome) => conclude o disk outcome final.2 errors := by
  obtain ⟨program, accepted, _⟩ := Session.loadFile_of_fits (Session.start random
    (⟨some o.watch.chain, hold o.keys, o.threshold, []⟩ : World Headless)) [] found fits
  intro final errors
  unfold execute
  dsimp only
  rw [accepted]
  rfl

theorem execute_of_found (limited : 0 < o.cycles)
    (found : disk.read (Path.ofText o.program) = .ok image) (fits : image.length ≤ Program.limit)
    (patience : Nat) :
    let final := watchedRun o (loaded o random disk)
    let errors := Report.text o.threshold final.2.log.toList
    execute o random patience disk = match final.1 with
      | .error failure => ⟨.escaped (.machine failure), [], errors, disk⟩
      | .ok none => ⟨.unfinished, [], errors, disk⟩
      | .ok (some outcome) => conclude o disk outcome final.2 errors := by
  have whole : o.fuel patience = o.cycles.toNat := if_pos limited
  rw [watchedRun, ← whole]
  exact execute_of_loaded found fits patience

omit [RandomSource ρ] in
theorem conclude_undumped (undumped : o.noDump = true) (disk : Disk) (outcome : Outcome)
    (m : Session ρ (World Headless)) (errors : CodePoints) :
    let judged := verdict outcome (members m.world.observer)
    let result := conclude o disk outcome m errors
    result.exit = .code judged.1 ∧
      result.errors = errors ++ (judged.2.map (CodePoints.line ∘ .ofString)).getD [] := by
  unfold conclude
  rw [undumped, if_pos rfl]
  exact ⟨rfl, rfl⟩

theorem quiet_headless : ∀ h ∈ headless, h.Quiet fun h => h.keys.size = 16 := by
  rintro h ⟨⟩
  exact Session.headless_keyed_quiet

/-- The cycle with which a run ends. Before it nothing fails, and whether it fails itself depends on
the machine alone. -/
structure LastCycle (o : Options) (m : Session ρ (World Headless)) (n : Nat) : Prop where
  below : n < o.cycles.toNat
  unfaulted : ∀ k < n, (unobserved headless m k).state.fault? = none
  failure : Changed.failure? (cycle (unwatched headless) (unobserved headless m n)) =
    (unobserved headless m n).state.fault?.map .fault
  finished : Session.Finished (fun h => h.keys.size = 16) headless o.watch.chain m n
    (watchedRun o m).1 (watchedRun o m).2

theorem exists_lastCycle (total : RandomSource.Total ρ) (limited : 0 < o.cycles)
    {m : Session ρ (World Headless)} (sound : m.state.Sound)
    (watched : m.world.observer = some o.watch.chain) (full : m.world.host.keys.size = 16) :
    ∃ n, LastCycle o m n := by
  have whole := sound.toWellFormed
  have filled : ¬ Session.Uneventful headless m o.watch.chain (o.cycles.toNat - 1) :=
    fun calm => voices_at_limit limited _ calm.1
  obtain ⟨n, eventful, calm⟩ := Session.exists_first_eventful ⟨_, filled⟩
  have below : n < o.cycles.toNat := by
    by_contra beyond
    exact filled (calm _ (by omega))
  have opened : Session.Twin (fun h => h.keys.size = 16) (some o.watch.chain) none m.openRun m :=
    ⟨⟨rfl, rfl, rfl⟩, rfl, full, watched, rfl⟩
  have failure (k : Nat) (within : k ≤ n) :
      Changed.failure? (cycle (unwatched headless) (unobserved headless m k)) =
        (unobserved headless m k).state.fault?.map .fault := by
    obtain ⟨_, _, _, twin, _⟩ := Session.loop_uneventful quiet_headless opened whole k
      (fun j before => calm j (Nat.lt_of_lt_of_le before within)) 0
    exact Session.failure_answered Session.headless_answers
      (Session.sound_unobserved headless sound k).toWellFormed total (twin.host ▸ twin.fit)
  have finished := Session.run_eventful quiet_headless opened whole n calm eventful
    (o.cycles.toNat - (n + 1))
  rw [Nat.add_sub_cancel' below] at finished
  refine ⟨n, below, fun k before => ?_, failure n (Nat.le_refl n), finished⟩
  have passes := (calm k before).2
  rwa [failure k (Nat.le_of_lt before), Option.map_eq_none_iff] at passes

section LastCycle

variable {m : Session ρ (World Headless)} {n : Nat} (last : LastCycle o m n)
include last

theorem LastCycle.run_of_fault? {f : Fault}
    (known : (unobserved headless m n).state.fault? = some f) :
    f.endsRun = true ∧
        (∃ outcome, (watchedRun o m).1 = .ok (some outcome) ∧ outcome.error = some f) ∨
      f.endsRun = false ∧ (watchedRun o m).1 = .error (.fault f) := by
  have ends := last.finished.ends
  rw [last.failure, known] at ends
  exact ends.of_fault

theorem LastCycle.run_of_clean (clean : (unobserved headless m n).state.fault? = none) :
    ∃ outcome, (watchedRun o m).1 = .ok (some outcome) ∧ outcome.error = none := by
  have ends := last.finished.ends
  rw [last.failure, clean] at ends
  exact ends.of_passed

end LastCycle

theorem beyond_of_unjudged {s : State} {f : Fault} (faults : s.Faults f)
    (unjudged : f.endsRun = false) :
    f = .memory .outside ∨ f = .noSuchKey ∨ ∃ count i, f = .pastEnd count i := by
  cases faults with
  | fetch => exact .inl rfl
  | word => cases unjudged
  | refused _ refuses =>
    cases refuses with
    | call | ret | sprite => cases unjudged
    | key => exact .inr (.inl rfl)
    | block => exact .inr (.inr ⟨_, _, rfl⟩)

/-- A run under a limit ends within it. A verdict of the machine on its program is told, with the
exit code that goes with it, and so is the end of a run that nothing but an observer stops. A
machine that is asked for what it does not have gives no verdict, and its failure escapes. -/
theorem run_judges_or_escapes {arguments : List CodePoints} {seeded : Option Int → ρ}
    (total : RandomSource.Total ρ) (parsed : Options.parse arguments = .ok o)
    (undumped : o.noDump = true) (limited : 0 < o.cycles)
    (found : disk.read (Path.ofText o.program) = .ok image) (fits : image.length ≤ Program.limit)
    (patience : Nat) :
    let result := run arguments seeded patience disk
    let alone := unobserved headless (loaded o (seeded o.seed) disk)
    ∃ n < o.cycles.toNat, (∀ k < n, ∀ f, ¬ (alone k).state.Faults f) ∧
      ((∃ f earlier, (alone n).state.Faults f ∧ f.endsRun = true ∧ result.exit = .code 4 ∧
          result.errors =
            earlier ++ CodePoints.line (.ofString s!"Execution stopped: {f.message}")) ∨
        (∃ f, (alone n).state.Faults f ∧ result.exit = .escaped (.machine (.fault f)) ∧
          (f = .memory .outside ∨ f = .noSuchKey ∨ ∃ count i, f = .pastEnd count i)) ∨
        (∀ f, ¬ (alone n).state.Faults f) ∧
          (result.exit = .code 0 ∨ result.exit = .code 2)) := by
  have sound := sound_loaded o (seeded o.seed) disk
  obtain ⟨_, _, world⟩ := Session.loadFile_of_fits (Session.start (seeded o.seed)
    (⟨some o.watch.chain, hold o.keys, o.threshold, []⟩ : World Headless)) [] found fits
  have executed : run arguments seeded patience disk = execute o (seeded o.seed) patience disk := by
    simp only [run, parsed]
  rw [executed, execute_of_found limited found fits]
  generalize begun : loaded o (seeded o.seed) disk = m at sound ⊢
  have begun : m.world = ⟨some o.watch.chain, hold o.keys, o.threshold, []⟩ := begun ▸ world
  obtain ⟨n, last⟩ := exists_lastCycle total limited sound (congrArg World.observer begun)
    (by rw [begun]; exact size_keys_hold o.keys)
  intro result alone
  have exact (k : Nat) (f : Fault) :
      (alone k).state.fault? = some f ↔ (alone k).state.Faults f :=
    (Session.sound_unobserved headless sound k).fault?_eq_some_iff f
  refine ⟨n, last.below, fun k before f faults => ?_, ?_⟩
  · have none := last.unfaulted k before
    rw [(exact k f).2 faults] at none
    cases none
  · cases known : (unobserved headless m n).state.fault? with
    | some f =>
      have faults := (exact n f).1 known
      obtain ⟨judged, outcome, ran, error⟩ | ⟨unjudged, ran⟩ := last.run_of_fault? known
      · refine .inl ⟨f, Report.text o.threshold (watchedRun o m).2.log.toList, faults, judged, ?_⟩
        obtain ⟨exit, errors⟩ := conclude_undumped undumped disk outcome (watchedRun o m).2
          (Report.text o.threshold (watchedRun o m).2.log.toList)
        simp only [result, ran]
        rw [exit, errors, verdict, error]
        exact ⟨rfl, rfl⟩
      · refine .inr (.inl ⟨f, faults, ?_, beyond_of_unjudged faults unjudged⟩)
        simp only [result, ran]
    | none =>
      have unfaulted (f : Fault) : ¬ (alone n).state.Faults f := by
        intro faults
        rw [(exact n f).2 faults] at known
        cases known
      refine .inr (.inr ⟨unfaulted, ?_⟩)
      obtain ⟨outcome, ran, clean⟩ := last.run_of_clean known
      simp only [result, ran]
      rw [(conclude_undumped undumped disk outcome _ _).1]
      exact (verdict_of_clean clean _).imp (congrArg Exit.code) (congrArg Exit.code)

section Examples

def tenCycles : List CodePoints :=
  ["--program", "p.ch8", "--cycles", "10", "--no-dump"].map .ofString

def holding (image : List UInt8) : Disk :=
  ((Disk.empty.write (.ofText (.ofString "p.ch8")) image).toOption).getD .empty

def twister (seed : Option Int) : Twister := .ofSeed (seed.getD 0)

def overrunning : List UInt8 := [0xAF, 0xFF, 0xF0, 0x33]

theorem overrun_escapes :
    (Options.parse tenCycles).toOption.map (fun o => (o.noDump, o.cycles)) = some (true, 10) ∧
      overrunning.length ≤ Program.limit ∧
      ((run tenCycles twister 0 (holding overrunning)).exit matches
        .escaped (.machine (.fault (.pastEnd 3 0xFFF)))) := by
  decide +kernel

theorem stray_return_judged :
    ∃ o, Options.parse tenCycles = .ok o ∧ ∃ n < 10, ∃ f earlier,
      (unobserved headless (loaded o (twister o.seed) (holding [0x00, 0xEE])) n).state.Faults f ∧
      (run tenCycles twister 0 (holding [0x00, 0xEE])).errors =
        earlier ++ CodePoints.line (.ofString s!"Execution stopped: {f.message}") := by
  have facts : (Options.parse tenCycles).toOption.map (fun o => (o.noDump, o.cycles, o.program)) =
      some (true, 10, .ofString "p.ch8") := by
    decide +kernel
  have code : ((run tenCycles twister 0 (holding [0x00, 0xEE])).exit matches .code 4) = true := by
    decide +kernel
  cases parsed : Options.parse tenCycles with
  | error refusal =>
    rw [parsed] at facts
    cases facts
  | ok o =>
    rw [parsed] at facts
    obtain ⟨undumped, cycles, program⟩ : o.noDump = true ∧ o.cycles = 10 ∧
        o.program = .ofString "p.ch8" := by
      simpa [Except.toOption] using facts
    have found : (holding [0x00, 0xEE]).read (Path.ofText o.program) = .ok [0x00, 0xEE] := by
      rw [program]
      decide +kernel
    obtain ⟨n, below, _, ⟨f, earlier, faults, _, _, errors⟩ | ⟨f, _, exit, _⟩ | ⟨_, exit⟩⟩ :=
      run_judges_or_escapes Session.twister_total parsed undumped (by rw [cycles]; decide) found
        (by decide) 0
    · rw [cycles] at below
      exact ⟨o, rfl, n, below, f, earlier, faults, errors⟩
    · rw [exit] at code
      cases code
    · obtain exit | exit := exit <;> rw [exit] at code <;> cases code

end Examples

end Diagnostics

end Chip8
