import Chip8.Proofs.Diagnosis
import Mathlib.Data.List.Basic

/-! What the exit code of the diagnostic runner tells. It is found after the run, from what the
observers remember; the reason of the run was fixed before, by the first stop that was asked for.
They agree since an observer remembers nothing until it asks for a stop, and no cycle begins after
that. -/
namespace Chip8

variable {ρ η ε : Type}

namespace Observer

theorem noticeAll_of_faultless {threshold : Int} {s : State} {members : List Observer}
    (faultless : ∀ o ∈ members, (notice threshold s o).fault = none) :
    noticeAll threshold s members =
      ⟨members.map fun o => (notice threshold s o).observer,
        members.flatMap fun o => (notice threshold s o).stops,
        members.flatMap fun o => (notice threshold s o).reports, none⟩ := by
  induction members with
  | nil => rfl
  | cons o rest ih =>
    rw [noticeAll]
    dsimp only
    rw [faultless o (by simp), ih fun p member => faultless p (by simp [member])]
    simp only [List.map_cons, List.flatMap_cons]

end Observer

theorem Trace.stops_none (o : Trace) (threshold : Int) (s : State) :
    (o.notice threshold s).stops = [] := by
  unfold notice
  dsimp only
  split
  · split <;> rfl
  · rfl

theorem Breakpoints.stops_remembered {o : Breakpoints} (unhit : o.hit = none) (s : State) :
    (o.notice s).stops = ((o.notice s).observer.hit.map message).toList := by
  unfold notice
  split
  · rfl
  · rw [unhit]; rfl

theorem Stall.stops_remembered {o : Stall} (moving : o.stalledAt = none) (s : State) :
    (o.notice s).stops = ((o.notice s).observer.stalledAt.map message).toList := by
  unfold notice
  split
  · rfl
  · rw [moving]; rfl

theorem CycleLimit.stops_remembered {o : CycleLimit} (unfilled : o.reached = false) :
    o.notice.stops = if o.notice.observer.reached then [message] else [] := by
  unfold notice
  split
  · rfl
  · rw [unfilled]; rfl

namespace Session

variable [RandomSource ρ] {Fit : η → Prop} {host : Option (Host η ε)} {m : Session ρ (World η)}
  {o : Observer}

theorem run_finished (quiet : ∀ h ∈ host, h.Quiet Fit) (watched : m.world.observer = some o)
    (whole : m.state.WellFormed) (fit : Fit m.world.host) (fuel : Nat) :
    let final := run (World.surroundings host) none fuel m
    (∀ k < fuel, Uneventful host m o k) ∧ final.1 = .ok none ∨
      ∃ n < fuel, (∀ k < n, Uneventful host m o k) ∧ Finished Fit host o m n final.1 final.2 := by
  intro final
  have opened : Twin Fit (some o) none m.openRun m := ⟨⟨rfl, rfl, rfl⟩, rfl, fit, watched, rfl⟩
  by_cases calm : ∀ k < fuel, Uneventful host m o k
  · obtain ⟨v, _, same, twin, _⟩ := loop_uneventful quiet opened whole fuel calm 0
    have left : loop (World.surroundings host) fuel m.openRun = (.unfinished, v) := by
      rw [Nat.add_zero] at same
      rw [same, loop, pending_eq_none_iff.1 twin.pending]
      rfl
    exact .inl ⟨calm, by simp only [final, run_of_unfinished left]⟩
  · obtain ⟨k, within, happens⟩ : ∃ k < fuel, ¬ Uneventful host m o k := by simpa using calm
    obtain ⟨n, eventful, before⟩ := exists_first_eventful ⟨k, happens⟩
    have below : n < fuel := by
      by_contra beyond
      exact happens (before k (by omega))
    have finished := run_eventful quiet opened whole n before eventful (fuel - (n + 1))
    rw [Nat.add_sub_cancel' below] at finished
    exact .inr ⟨n, below, before, finished⟩

theorem Ends.of_outcome {cycles : Nat} {requested : Option CodePoints}
    {failure : Option (Failure ε)} {outcome : Outcome} {reason : CodePoints}
    (ends : Ends false cycles requested failure [] (.ok (some outcome)) reason) :
    outcome.cycles = cycles ∧
      (outcome.error = none → failure = none ∧ requested = some outcome.reason) := by
  generalize succeeded : (Except.ok (some outcome) : Except (Failure ε) (Option Outcome)) = result
    at ends
  cases ends with
  | stopped asked =>
    cases succeeded
    exact ⟨rfl, fun _ => ⟨rfl, asked⟩⟩
  | verdict _ once _ =>
    cases once
    cases succeeded
    exact ⟨rfl, nofun⟩
  | escaped => cases succeeded

theorem cycles_last (host : Option (Host η ε)) (m : Session ρ (World η)) {n : Nat}
    (passed : ∀ k < n, Passes host m k) :
    (unobserved host m (n + 1)).cycles - m.cycles ≤ n + 1 ∧
      (Passes host m n → (unobserved host m (n + 1)).cycles - m.cycles = n + 1) := by
  have counted := cycles_cycle (unwatched host) (unobserved host m n)
  have before := cycles_passed passed
  refine ⟨?_, fun passes => ?_⟩
  · rw [unobserved, counted, before]
    split <;> omega
  · have passed : ∀ k < n + 1, Passes host m k := fun k below =>
      (Nat.lt_succ_iff_lt_or_eq.1 below).elim (passed k) (fun same => same ▸ passes)
    rw [cycles_passed passed]
    omega

end Session

namespace Diagnostics

open Session (cycle counters headless loop unobserved unwatched)

/-- What stops a run in which no fault comes up. -/
inductive Stop
  | breakpoint (pc : Int)
  | stall (pc : Int)
  | limit

namespace Stop

def message : Stop → CodePoints
  | breakpoint pc => Breakpoints.message pc
  | stall pc => Stall.message pc
  | limit => CycleLimit.message

def code : Stop → Nat
  | breakpoint _ | stall _ => 0
  | limit => 2

def initial : Stop → Nat
  | breakpoint _ => 0x62
  | stall _ => 0x73
  | limit => 0x63

variable {a b : Stop}

theorem head?_message (a : Stop) : a.message.head? = some a.initial := by
  cases a <;>
    simp [message, Breakpoints.message, Stall.message, CycleLimit.message, initial,
      CodePoints.ofString, toString]

theorem code_of_message (same : a.message = b.message) : a.code = b.code := by
  have initials : a.initial = b.initial := by
    have heads := congrArg List.head? same
    rwa [head?_message, head?_message, Option.some_inj] at heads
  cases a <;> cases b <;> first | rfl | cases initials

theorem code_eq_two_iff : a.code = 2 ↔ a.message = CycleLimit.message := by
  constructor
  · intro two
    cases a with
    | limit => rfl
    | breakpoint _ | stall _ => cases two
  · exact code_of_message (b := limit)

theorem code_eq_zero_iff :
    a.code = 0 ↔ ∃ pc, a.message = Breakpoints.message pc ∨ a.message = Stall.message pc := by
  constructor
  · intro zero
    cases a with
    | breakpoint pc => exact ⟨pc, .inl rfl⟩
    | stall pc => exact ⟨pc, .inr rfl⟩
    | limit => cases zero
  · rintro ⟨pc, same | same⟩
    · exact code_of_message (b := breakpoint pc) same
    · exact code_of_message (b := stall pc) same

end Stop

/-- What an observer remembers to have stopped a run. -/
def recalled? : Observer → Option Stop
  | .breakpoints o => o.hit.map .breakpoint
  | .stall o => o.stalledAt.map .stall
  | .limit o => if o.reached then some .limit else none
  | .trace _ | .probe _ | .chain _ => none

namespace Watch

variable {w : Watch} {s : State} (threshold : Int)

def members (w : Watch) : List Observer :=
  (w.trace.map Observer.trace).toList ++ (w.breakpoints.map Observer.breakpoints).toList
    ++ (w.stall.map Observer.stall).toList ++ (w.limit.map Observer.limit).toList

def after (w : Watch) (threshold : Int) (s : State) : Watch where
  trace := w.trace.map fun o => (o.notice threshold s).observer
  breakpoints := w.breakpoints.map fun o => (o.notice s).observer
  stall := w.stall.map fun o => (o.notice s).observer
  limit := w.limit.map fun o => o.notice.observer

theorem members_after (w : Watch) :
    (w.after threshold s).members = w.members.map fun o => (o.notice threshold s).observer := by
  obtain ⟨trace, breakpoints, stall, limit⟩ := w
  cases trace <;> cases breakpoints <;> cases stall <;> cases limit <;> rfl

theorem stops_member {o : Observer} (member : o ∈ w.members) (unrecalled : recalled? o = none) :
    (o.notice threshold s).stops =
      ((recalled? (o.notice threshold s).observer).map Stop.message).toList := by
  simp only [members, List.mem_append, Option.mem_toList, Option.map_eq_some_iff] at member
  obtain ((⟨o, _, rfl⟩ | ⟨o, _, rfl⟩) | ⟨o, _, rfl⟩) | ⟨o, _, rfl⟩ := member
  · exact o.stops_none threshold s
  · have unhit : o.hit = none := by simpa [recalled?] using unrecalled
    rw [Observer.notice, Notice.map, recalled?, Option.map_map]
    exact Breakpoints.stops_remembered unhit s
  · have moving : o.stalledAt = none := by simpa [recalled?] using unrecalled
    rw [Observer.notice, Notice.map, recalled?, Option.map_map]
    exact Stall.stops_remembered moving s
  · have unfilled : o.reached = false := by simpa [recalled?] using unrecalled
    rw [Observer.notice, Notice.map, recalled?, CycleLimit.stops_remembered unfilled]
    split <;> rfl

/-- What the watch remembers to have stopped the run, the first member first. -/
def recalled? (w : Watch) : Option Stop := w.members.findSome? Diagnostics.recalled?

theorem notice_chain (whole : s.WellFormed) (unrecalled : w.recalled? = none) :
    (w.chain.notice threshold s).observer = (w.after threshold s).chain ∧
      (w.chain.notice threshold s).stops.head? =
        (w.after threshold s).recalled?.map Stop.message := by
  have listed : w.chain = .chain w.members := rfl
  have faultless : ∀ o ∈ w.members, (o.notice threshold s).fault = none := fun o _ =>
    (@Observer.spoken_notice (fun _ => s.pc) s threshold whole rfl o).fault
  have asked : ∀ o ∈ w.members, (o.notice threshold s).stops =
      ((Diagnostics.recalled? (o.notice threshold s).observer).map Stop.message).toList :=
    fun o member => stops_member threshold member (List.findSome?_eq_none_iff.1 unrecalled o member)
  rw [listed, Observer.notice, Observer.noticeAll_of_faultless faultless, List.flatMap_congr asked]
  refine ⟨congrArg Observer.chain (w.members_after threshold).symm, ?_⟩
  rw [recalled?, members_after, List.findSome?_map, List.map_findSome?, Notice.map,
    List.head?_flatMap]
  simp only [Option.head?_toList, Function.comp_def]

theorem any_members (w : Watch) (p : Observer → Bool) :
    w.members.any p = (w.trace.any (p <| .trace ·) || w.breakpoints.any (p <| .breakpoints ·) ||
      w.stall.any (p <| .stall ·) || w.limit.any (p <| .limit ·)) := by
  obtain ⟨trace, breakpoints, stall, limit⟩ := w
  cases trace <;> cases breakpoints <;> cases stall <;> cases limit <;>
    simp [members, Bool.or_assoc]

theorem findSome?_members {α : Type} (w : Watch) (f : Observer → Option α) :
    w.members.findSome? f =
      (w.trace.bind (f <| .trace ·)).or ((w.breakpoints.bind (f <| .breakpoints ·)).or
        ((w.stall.bind (f <| .stall ·)).or (w.limit.bind (f <| .limit ·)))) := by
  have first {β : Type} (o : Option β) (member : β → Observer) :
      (o.map member).toList.findSome? f = o.bind (f <| member ·) := by
    cases o <;> simp
  simp only [members, List.findSome?_append, first, Option.or_assoc]

theorem leaves_chain (w : Watch) : w.chain.leaves = w.members := by
  obtain ⟨trace, breakpoints, stall, limit⟩ := w
  cases trace <;> cases breakpoints <;> cases stall <;> cases limit <;> rfl

theorem verdict_members {outcome : Outcome} (clean : outcome.error = none) {stop : Stop}
    (recalled : w.recalled? = some stop) : (verdict outcome w.members).1 = stop.code := by
  rw [recalled?, findSome?_members] at recalled
  simp only [verdict, clean, any_members, wasHit, wasStalled, wasLimited, Option.any_false,
    Bool.false_or, Bool.or_false]
  simp only [Diagnostics.recalled?, Option.bind_fun_none, Option.none_or, Option.or_eq_some_iff,
    Option.bind_eq_some_iff, Option.map_eq_some_iff, Option.ite_none_right_eq_some,
    Option.some_inj] at recalled
  obtain ⟨o, watched, pc, hit, rfl⟩ | ⟨unhit, ⟨o, watched, pc, stalled, rfl⟩ |
    ⟨moving, o, watched, reached, rfl⟩⟩ := recalled
  · simp [watched, hit, Stop.code]
  · simp [watched, stalled, Stop.code]
  · have unhit : w.breakpoints.any (·.hit.isSome) = false := by
      simpa [Option.any_eq_false] using unhit
    have moving : w.stall.any (·.stalledAt.isSome) = false := by
      simpa [Option.any_eq_false] using moving
    simp [unhit, moving, watched, reached, Stop.code]

end Watch

section Recalls

variable [RandomSource ρ] {m k : Session ρ (World Headless)}

/-- The stop that is asked for is what the observers remember. -/
def Recalls (m : Session ρ (World Headless)) : Prop :=
  ∃ w : Watch, m.world.observer = some w.chain ∧ m.pending = w.recalled?.map Stop.message

theorem recalls_cycle (going : m.stopping = false) (whole : m.state.WellFormed)
    (recalls : Recalls m) (done : cycle (World.surroundings headless) m = .ok () k) :
    Recalls k := by
  obtain ⟨w, watched, pending⟩ := recalls
  have unasked : m.pending = none := Session.pending_eq_none_iff.2 going
  have unrecalled : w.recalled? = none := by
    rw [unasked] at pending
    exact Option.map_eq_none_iff.1 pending.symm
  have twin : Session.Twin (fun _ => True) (some w.chain) none m m :=
    ⟨⟨rfl, rfl, rfl⟩, rfl, trivial, watched, unasked⟩
  obtain ⟨observer, stops⟩ := w.notice_chain m.world.threshold whole unrecalled
  have step := Session.cycle_twin Session.quiet_headless whole twin rfl
  rw [done, observer, stops] at step
  generalize cycle (unwatched headless) m = alone at step
  cases step with
  | ok _ twin => exact ⟨_, twin.observer, twin.pending⟩

theorem recalls_laps {begun : List (Session ρ (World Headless))}
    (laps : Session.Laps (World.surroundings headless) m begun none k)
    (fresh : ∀ b ∈ begun, b.stopping = false) (whole : m.state.WellFormed)
    (recalls : Recalls m) : Recalls k := by
  generalize completed : (none : Option (Failure Empty)) = failure at laps
  induction laps with
  | rest => exact recalls
  | failed => cases completed
  | lap done _ ih =>
    obtain ⟨_, _, advances⟩ := Session.cycle_ok done
    exact ih (fun b member => fresh b (List.mem_cons_of_mem _ member))
      (advances.trail.wellFormed whole)
      (recalls_cycle (fresh _ List.mem_cons_self) whole recalls done) completed

theorem run_recalls {w : Watch} (watched : m.world.observer = some w.chain)
    (unrecalled : w.recalled? = none) (whole : m.state.WellFormed) {fuel : Nat}
    {outcome : Outcome} (clean : outcome.error = none)
    (ran : (Session.run (World.surroundings headless) none fuel m).1 = .ok (some outcome)) :
    ∃ w : Watch,
      (Session.run (World.surroundings headless) none fuel m).2.world.observer = some w.chain ∧
      w.recalled?.map Stop.message = some outcome.reason := by
  obtain ⟨begun, failure, left, laps, fresh, ended⟩ :=
    Session.loop_laps (World.surroundings headless) fuel m.openRun
  obtain ⟨e, _, ended⟩ | ⟨rfl, stopping, ended⟩ | ⟨_, _, _, ended⟩ := ended
  · cases verdict : e.verdict? with
    | none =>
      rw [Session.run_of_escaped verdict ended] at ran
      cases ran
    | some f =>
      rw [Session.run_of_verdict verdict ended] at ran
      cases ran
      cases clean
  · have begins : Recalls m.openRun := ⟨w, watched, by rw [unrecalled]; rfl⟩
    obtain ⟨w, seen, pending⟩ := recalls_laps laps fresh whole begins
    have asked : left.pending = some left.reason := Session.pending_eq_some_iff.2 ⟨stopping, rfl⟩
    rw [Session.run_of_stopped ended, Session.closeRun_eq, asked] at ran
    rw [Session.run_of_stopped ended, Session.closeRun_eq]
    cases ran
    exact ⟨w, seen, pending.symm.trans asked⟩
  · rw [Session.run_of_unfinished ended] at ran
    cases ran

end Recalls

/-- What asks for a stop in cycle `n`, counted from zero, given the program counters before the
cycles. -/
def Options.stop? (o : Options) (pcs : Nat → Int) (n : Nat) : Option Stop :=
  if ∃ a ∈ o.breakpoints, (a : Int) % 0x1000 = pcs n then some (.breakpoint (pcs n))
  else if o.stopOnStall ∧ 0 < n ∧ pcs (n - 1) = pcs n then some (.stall (pcs n))
  else if 0 < o.cycles ∧ o.cycles ≤ n + 1 then some .limit
  else none

section Stops

variable (o : Options) (pcs : Nat → Int) (n : Nat)

theorem breakpoints_fires? :
    (o.watch.breakpoints.bind fun b => Observer.fires? pcs n (.breakpoints b)) =
      if ∃ a ∈ o.breakpoints, (a : Int) % 0x1000 = pcs n then some (Breakpoints.message (pcs n))
      else none := by
  have known : (Breakpoints.ofList (o.breakpoints.map Int.ofNat)).addresses.contains (pcs n) ↔
      ∃ a ∈ o.breakpoints, (a : Int) % 0x1000 = pcs n := by
    rw [Breakpoints.contains_ofList]
    simp
  unfold Options.watch
  dsimp only
  split
  · next none => simp [List.isEmpty_iff.1 none]
  · simp only [Option.bind_some, Observer.fires?, known]

theorem stall_fires? :
    (o.watch.stall.bind fun a => Observer.fires? pcs n (.stall a)) =
      if o.stopOnStall ∧ 0 < n ∧ pcs (n - 1) = pcs n then some (Stall.message (pcs n))
      else none := by
  unfold Options.watch
  cases o.stopOnStall with
  | false => rfl
  | true => cases n <;> simp [Observer.fires?, Stall.fresh]

theorem limit_fires? :
    (o.watch.limit.bind fun a => Observer.fires? pcs n (.limit a)) =
      if 0 < o.cycles ∧ o.cycles ≤ n + 1 then some CycleLimit.message else none := by
  unfold Options.watch
  by_cases limited : 0 < o.cycles
  · simp [limited, Observer.fires?, CycleLimit.ofNat]
  · simp [limited]

theorem head?_voices :
    (o.watch.chain.voices pcs n).head? = (o.stop? pcs n).map Stop.message := by
  have traces : (o.watch.trace.bind fun a => Observer.fires? pcs n (.trace a)) = none := by
    cases o.watch.trace <;> rfl
  rw [Observer.voices, Watch.leaves_chain, List.head?_filterMap, Watch.findSome?_members, traces,
    breakpoints_fires?, stall_fires?, limit_fires?]
  unfold Options.stop?
  split_ifs <;> rfl

variable {o pcs n}

theorem filled_of_code {stop : Stop} (asked : o.stop? pcs n = some stop) (two : stop.code = 2) :
    o.cycles ≤ n + 1 := by
  unfold Options.stop? at asked
  split_ifs at asked with _ _ filled
  · cases asked
    cases two
  · cases asked
    cases two
  · exact filled.2

end Stops

theorem unrecalled_watch (o : Options) : o.watch.recalled? = none := by
  rw [Watch.recalled?, Watch.findSome?_members]
  cases o.verbose <;> cases o.breakpoints.isEmpty <;> cases o.stopOnStall <;>
    by_cases limited : 0 < o.cycles <;>
    simp [Options.watch, *, recalled?, Breakpoints.ofList, Stall.fresh, CycleLimit.ofNat]

section Run

variable [RandomSource ρ] {o : Options} {disk : Disk} {image : List UInt8}

omit [RandomSource ρ] in
theorem exit_conclude {m : Session ρ (World Headless)} (outcome : Outcome) (errors : CodePoints)
    (dumped : o.noDump = true ∨ ∃ written, writeDump o m.state.memory disk = .ok written) :
    (conclude o disk outcome m errors).exit =
      .code (verdict outcome (members m.world.observer)).1 := by
  unfold conclude
  obtain undumped | ⟨written, dumped⟩ := dumped
  · rw [undumped, if_pos rfl]
  · rw [dumped]
    split <;> rfl

theorem code_of_clean {m : Session ρ (World Headless)}
    (watched : m.world.observer = some o.watch.chain) (whole : m.state.WellFormed) {fuel : Nat}
    {outcome : Outcome} (clean : outcome.error = none)
    (ran : (Session.run (World.surroundings headless) none fuel m).1 = .ok (some outcome))
    {stop : Stop} (reason : stop.message = outcome.reason) :
    (verdict outcome (members
      (Session.run (World.surroundings headless) none fuel m).2.world.observer)).1 = stop.code := by
  obtain ⟨w, seen, recalled⟩ := run_recalls watched (unrecalled_watch o) whole clean ran
  obtain ⟨remembered, known, told⟩ := Option.map_eq_some_iff.1 recalled
  rw [seen]
  exact (w.verdict_members clean known).trans (Stop.code_of_message (told.trans reason.symm))

theorem exit_run {arguments : List CodePoints} {seeded : Option Int → ρ}
    (parsed : Options.parse arguments = .ok o)
    (found : disk.read (Path.ofText o.program) = .ok image) (fits : image.length ≤ Program.limit)
    (patience : Nat) {outcome : Outcome} :
    let final := Session.run (World.surroundings headless) none (o.fuel patience)
      (loaded o (seeded o.seed) disk)
    final.1 = .ok (some outcome) →
    (o.noDump = true ∨ ∃ written, writeDump o final.2.state.memory disk = .ok written) →
    (run arguments seeded patience disk).exit =
      .code (verdict outcome (members final.2.world.observer)).1 := by
  intro final ran dumped
  have executed : run arguments seeded patience disk = execute o (seeded o.seed) patience disk := by
    simp only [run, parsed]
  rw [executed, execute_of_loaded found fits]
  simp only [final] at ran
  simp only [ran]
  exact exit_conclude outcome _ dumped

/-- The exit code agrees with why the run ended, as soon as no failure escapes from it. It tells a
fault, whatever the observers say in the same cycle. Otherwise it goes with the reason, which is
that of the first cycle in which an observer asks for a stop; if several ask for one there, a
breakpoint comes before a stall and a stall before the limit. -/
theorem exit_tells_reason {arguments : List CodePoints} {seeded : Option Int → ρ}
    (parsed : Options.parse arguments = .ok o)
    (found : disk.read (Path.ofText o.program) = .ok image) (fits : image.length ≤ Program.limit)
    (patience : Nat) :
    let begun := loaded o (seeded o.seed) disk
    let final := Session.run (World.surroundings headless) none (o.fuel patience) begun
    let pcs := counters headless begun
    (0 < o.cycles → final.1 ≠ .ok none) ∧
    ∀ outcome, final.1 = .ok (some outcome) →
      (o.noDump = true ∨ ∃ written, writeDump o final.2.state.memory disk = .ok written) →
      ∃ code n, (run arguments seeded patience disk).exit = .code code ∧
        Session.SameMachine (unobserved headless begun (n + 1)) final.2 ∧
        (∀ k < n, o.stop? pcs k = none) ∧
        (code = 4 ↔ outcome.error ≠ none) ∧
        (outcome.error = none → outcome.cycles = n + 1 ∧
          (∃ stop, o.stop? pcs n = some stop ∧ outcome.reason = stop.message ∧ code = stop.code) ∧
          (code = 2 ↔ outcome.reason = CycleLimit.message) ∧
          (code = 0 ↔ ∃ pc, outcome.reason = Breakpoints.message pc ∨
            outcome.reason = Stall.message pc)) ∧
        (0 < o.cycles → outcome.cycles ≤ o.cycles ∧ (code = 2 → outcome.cycles = o.cycles)) := by
  intro begun final pcs
  obtain ⟨_, _, world⟩ := Session.loadFile_of_fits (Session.start (seeded o.seed)
    (⟨some o.watch.chain, hold o.keys, o.threshold, []⟩ : World Headless)) [] found fits
  have watched : begun.world.observer = some o.watch.chain := congrArg World.observer world
  have whole : begun.state.WellFormed := (sound_loaded o (seeded o.seed) disk).toWellFormed
  have ended := Session.run_finished Session.quiet_headless watched whole trivial (o.fuel patience)
  refine ⟨fun limited => ?_, fun outcome ran dumped => ?_⟩
  · obtain ⟨calm, _⟩ | ⟨n, _, _, finished⟩ := ended
    · have within : o.cycles.toNat - 1 < o.fuel patience := by
        rw [Options.fuel, if_pos limited]
        omega
      exact absurd (calm _ within).1 (voices_at_limit limited _)
    · exact finished.ends.finishes
  obtain ⟨_, unfinished⟩ | ⟨n, below, calm, finished⟩ := ended
  · cases ran.symm.trans unfinished
  have exit := exit_run parsed found fits patience ran dumped
  obtain ⟨counted, clean⟩ := Session.Ends.of_outcome (ran ▸ finished.ends)
  have quiet (k : Nat) (before : k < n) : o.stop? pcs k = none := by
    have unsaid := head?_voices o pcs k
    rw [(calm k before).1] at unsaid
    exact Option.map_eq_none_iff.1 unsaid.symm
  obtain ⟨most, all⟩ := Session.cycles_last headless begun fun k before => (calm k before).2
  have within (limited : 0 < o.cycles) : (n : Int) < o.cycles := by
    rw [Options.fuel, if_pos limited] at below
    omega
  refine ⟨_, n, exit, finished.same, quiet, ?_⟩
  cases error : outcome.error with
  | some f =>
    have code : (verdict outcome (members final.2.world.observer)).1 = 4 := by rw [verdict, error]
    rw [code]
    have faulty : some f ≠ none := Option.some_ne_none f
    refine ⟨by simp, fun clean => absurd clean faulty, fun limited => ⟨?_, by simp⟩⟩
    have bound := within limited
    omega
  | none =>
    obtain ⟨passes, asked⟩ := clean error
    rw [head?_voices, Option.map_eq_some_iff] at asked
    obtain ⟨stop, asked, reason⟩ := asked
    have code : (verdict outcome (members final.2.world.observer)).1 = stop.code :=
      code_of_clean watched whole error ran reason
    have cycles : outcome.cycles = n + 1 := counted.trans (all passes)
    rw [code, ← reason]
    refine ⟨?_, fun _ => ⟨cycles, ⟨stop, asked, rfl, rfl⟩, Stop.code_eq_two_iff,
      Stop.code_eq_zero_iff⟩, fun limited => ?_⟩
    · cases stop <;> simp [Stop.code]
    · have bound := within limited
      refine ⟨by omega, fun two => ?_⟩
      have filled := filled_of_code asked two
      omega

section Examples

def twoCycles : List CodePoints :=
  ["--program", "p.ch8", "--cycles", "2", "--break-pc", "202", "--no-dump"].map .ofString

def straightOn : List UInt8 := [0x60, 0x05, 0x61, 0x07]

theorem breakpoint_before_limit :
    ∃ o, Options.parse twoCycles = .ok o ∧
      (Session.run (World.surroundings headless) none (o.fuel 0)
        (loaded o (twister o.seed) (holding straightOn))).1 =
          .ok (some ⟨2, none, Breakpoints.message 0x202⟩) ∧
      (run twoCycles twister 0 (holding straightOn)).exit = .code 0 := by
  have facts : (Options.parse twoCycles).toOption.map (fun o => (o.noDump, o.program)) =
      some (true, .ofString "p.ch8") := by
    decide +kernel
  have ended : (Options.parse twoCycles).toOption.map (fun o =>
      (Session.run (World.surroundings headless) none (o.fuel 0)
        (loaded o (twister o.seed) (holding straightOn))).1.toOption) =
      some (some (some ⟨2, none, Breakpoints.message 0x202⟩)) := by
    decide +kernel
  cases parsed : Options.parse twoCycles with
  | error refusal =>
    rw [parsed] at facts
    cases facts
  | ok o =>
    rw [parsed] at facts ended
    obtain ⟨undumped, program⟩ : o.noDump = true ∧ o.program = .ofString "p.ch8" := by
      simpa [Except.toOption] using facts
    have found : (holding straightOn).read (Path.ofText o.program) = .ok straightOn := by
      rw [program]
      decide +kernel
    have ran : (Session.run (World.surroundings headless) none (o.fuel 0)
        (loaded o (twister o.seed) (holding straightOn))).1 =
          .ok (some ⟨2, none, Breakpoints.message 0x202⟩) := by
      cases result : (Session.run (World.surroundings headless) none (o.fuel 0)
          (loaded o (twister o.seed) (holding straightOn))).1 with
      | error _ => simp [Except.toOption, result] at ended
      | ok _ => simpa [Except.toOption, result] using ended
    obtain ⟨_, judged⟩ :=
      @exit_tells_reason Twister _ o _ _ twoCycles twister parsed found (by decide) 0
    obtain ⟨code, _, exit, _, _, _, clean, _⟩ := judged _ ran (.inl undumped)
    obtain ⟨_, _, _, zero⟩ := clean rfl
    exact ⟨o, rfl, ran, by rw [exit, zero.2 ⟨_, .inl rfl⟩]⟩

end Examples

end Run

end Diagnostics
end Chip8
