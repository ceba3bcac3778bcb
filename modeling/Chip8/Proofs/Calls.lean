import Chip8.Proofs.Reachable

/-! Calls and returns. The slots of the stack below the stack pointer are what one gets by replaying
the instructions that were completed on a list: a call appends its own address, a return takes
the last one away. Slots above keep old addresses, which nothing reads. -/
namespace Chip8

/-- What an instruction does to the return addresses of the open calls, oldest first. -/
def Executed.replay (calls : List Int) (e : Executed) : List Int :=
  match e.instruction.operation with
  | .call => calls ++ [e.address]
  | .ret => calls.dropLast
  | _ => calls

def replay (calls : List Int) (trace : List Executed) : List Int :=
  trace.foldl Executed.replay calls

theorem replay_append (calls : List Int) (before after : List Executed) :
    replay calls (before ++ after) = replay (replay calls before) after := List.foldl_append

theorem Executed.replay_prefix {kept calls : List Int} {e : Executed} (inside : kept <+: calls)
    (enough : kept.length ≤ (e.replay calls).length) : kept <+: e.replay calls := by
  unfold replay at enough ⊢
  split at enough
  · exact inside.trans (List.prefix_append _ _)
  · exact List.prefix_of_prefix_length_le inside (List.dropLast_prefix _) enough
  · exact inside

theorem replay_prefix {kept calls : List Int} {trace : List Executed} (inside : kept <+: calls)
    (enough : ∀ n, n ≤ trace.length → kept.length ≤ (replay calls (trace.take n)).length) :
    kept <+: replay calls trace := by
  induction trace generalizing calls with
  | nil => exact inside
  | cons e rest ih =>
    -- The first instruction keeps the prefix, since the depth is still large enough after it.
    have first := enough 1 (by simp)
    refine ih (e.replay_prefix inside (by simpa [replay] using first)) fun n within => ?_
    have later := enough (n + 1) (by simpa using within)
    simpa [replay] using later

theorem replay_subroutine {calls : List Int} {call ret : Executed} {inner : List Executed}
    (calling : call.instruction.operation = .call) (returning : ret.instruction.operation = .ret)
    (deeper : ∀ n, n ≤ inner.length →
      calls.length < (replay calls (call :: inner.take n)).length)
    (back : (replay calls (call :: inner ++ [ret])).length = calls.length) :
    replay calls (call :: inner) = calls ++ [call.address] ∧
      replay calls (call :: inner ++ [ret]) = calls := by
  have opened (rest : List Executed) :
      replay calls (call :: rest) = replay (calls ++ [call.address]) rest := by
    have first : call.replay calls = calls ++ [call.address] := by
      simp only [Executed.replay, calling]
    rw [← first]
    rfl
  have closed : replay calls (call :: inner ++ [ret]) =
      (replay calls (call :: inner)).dropLast := by
    rw [replay_append]
    simp only [replay, List.foldl_cons, List.foldl_nil, Executed.replay, returning]
  have kept : calls ++ [call.address] <+: replay (calls ++ [call.address]) inner := by
    refine replay_prefix (List.prefix_refl _) fun n within => ?_
    rw [← opened, List.length_append, List.length_singleton]
    exact deeper n within
  have inside : replay calls (call :: inner) = calls ++ [call.address] := by
    have longer := kept.length_le
    rw [closed, opened, List.length_dropLast] at back
    rw [opened]
    refine (kept.eq_of_length ?_).symm
    rw [List.length_append, List.length_singleton] at longer ⊢
    omega
  exact ⟨inside, by rw [closed, inside, List.dropLast_concat]⟩

namespace State

variable {s : State}

theorem WellFormed.calls (whole : s.WellFormed) : s.calls = s.stack.toList.take s.sp.toNat := by
  have low := whole.sp_nonneg
  have high := whole.sp_le
  have depth : Memory.clamp 16 s.sp = s.sp.toNat := by
    unfold Memory.clamp
    rw [if_neg (by omega)]
    omega
  rw [State.calls, depth]

theorem WellFormed.calls_length (whole : s.WellFormed) : (s.calls.length : Int) = s.sp := by
  have low := whole.sp_nonneg
  have high := whole.sp_le
  rw [whole.calls, List.length_take, Vector.length_toList]
  omega

theorem WellFormed.getLast?_calls (whole : s.WellFormed) (called : s.sp ≠ 0) :
    s.calls.getLast? = some s.top := by
  have low := whole.sp_nonneg
  have high := whole.sp_le
  have inside : (s.sp - 1).toNat < 16 := by omega
  have depth : s.calls.length - 1 = (s.sp - 1).toNat := by
    have length := whole.calls_length
    omega
  rw [List.getLast?_eq_getElem?, depth, whole.calls, List.getElem?_take_of_lt (by omega), top,
    Vector.getElem?_toList, Vector.getElem?_eq_getElem inside, Option.getD_some]

theorem WellFormed.getElem?_calls (whole : s.WellFormed) (k : Fin 16) (below : k.val < s.sp) :
    s.calls[k.val]? = some (s.stack.get k) := by
  rw [whole.calls, List.getElem?_take_of_lt (by omega), Vector.getElem?_toList,
    Vector.getElem?_eq_getElem k.isLt]
  rfl

theorem WellFormed.calls_effect (whole : s.WellFormed) {ins : Instruction}
    (allowed : s.refusal? ins = none) (drawn : Int) :
    (s.effect ins drawn).calls = Executed.replay s.calls ⟨s.pc, ins⟩ := by
  have low := whole.sp_nonneg
  have high := whole.sp_le
  rw [(whole.effect drawn allowed).calls, whole.calls]
  obtain ⟨op, word⟩ := ins
  cases op with
  | call =>
    simp only [refusal?, ite_eq_right_iff, reduceCtorEq, imp_false] at allowed
    have next : (s.sp + 1).toNat = s.sp.toNat + 1 := by omega
    have inside : s.sp.toNat < s.stack.toList.length := by
      rw [Vector.length_toList]
      omega
    simp only [State.effect, stackAfter, spAfter, Executed.replay, next,
      Vector.toList_setIfInBounds, List.take_add_one, List.take_set_of_le (Nat.le_refl _),
      List.getElem?_set_self inside, Option.toList_some]
  | ret =>
    have before : (s.sp - 1).toNat = s.sp.toNat - 1 := by omega
    simp only [State.effect, stackAfter, spAfter, Executed.replay, before, List.dropLast_eq_take,
      List.length_take, Vector.length_toList, List.take_take]
    congr 1
    omega
  | _ => rfl

end State

variable {ρ : Type} [RandomSource ρ] {a b : Machine ρ} {trace : List Executed}

theorem Pause.calls (paused : Pause a b) (whole : a.state.WellFormed) :
    b.state.calls = a.state.calls := by
  cases paused with
  | refused failed => rw [State.execute_error_state whole failed]
  | shown | keyed | ticked | loaded => rfl

theorem Trail.calls (trail : Trail a trace b) (whole : a.state.WellFormed) :
    b.state.calls = replay a.state.calls trace := by
  induction trail with
  | start => rfl
  | pause before paused ih => rw [paused.calls (before.wellFormed whole), ih]
  | executed before done ih =>
    have between := before.wellFormed whole
    obtain ⟨_, allowed, drawn, _, same⟩ := (State.execute_eq_ok_iff between _ _ _ _).1 done
    rw [same, between.calls_effect allowed, ih, replay_append]
    rfl

theorem Executed.mem_replay {calls : List Int} {e : Executed} {p : Int}
    (member : p ∈ e.replay calls) : p ∈ calls ∨ p = e.address := by
  unfold replay at member
  split at member
  · simpa using member
  · exact .inl (List.dropLast_subset _ member)
  · exact .inl member

theorem Trail.calls_range (trail : Trail a trace b) (whole : a.state.WellFormed)
    (range : ∀ p ∈ a.state.calls, 0 ≤ p ∧ p < 0xFFF) : ∀ p ∈ b.state.calls, 0 ≤ p ∧ p < 0xFFF := by
  induction trail with
  | start => exact range
  | pause before paused ih =>
    rw [paused.calls (before.wellFormed whole)]
    exact ih
  | @executed b _ _ ins before done ih =>
    have between := before.wellFormed whole
    obtain ⟨found, allowed, drawn, _, same⟩ := (State.execute_eq_ok_iff between _ _ _ _).1 done
    have inside := ((between.instruction_eq_ok_iff ins).1 found).inside
    rw [same, between.calls_effect allowed]
    intro p member
    obtain known | rfl := Executed.mem_replay member
    · exact ih p known
    · exact ⟨between.pc_nonneg, inside⟩

theorem Trail.last_executed {c : Machine ρ} {e : Executed} (trail : Trail a (trace ++ [e]) c) :
    ∃ b b' : Machine ρ, Trail a trace b ∧
      b.state.execute b.random = (.ok e.instruction b'.state, b'.random) ∧
      e.address = b.state.pc ∧ Trail b' [] c := by
  generalize joined : trace ++ [e] = full at trail
  induction trail with
  | start => simp at joined
  | pause before paused ih =>
    obtain ⟨b, b', earlier, done, address, later⟩ := ih joined
    exact ⟨b, b', earlier, done, address, later.pause paused⟩
  | @executed b c _ ins before done =>
    obtain ⟨rfl, rfl⟩ := List.append_inj' joined rfl |>.imp id (by simpa using ·)
    exact ⟨b, c, before, done, rfl, .start c⟩

theorem Trail.pc_of_silent (trail : Trail a [] b) (whole : a.state.WellFormed) :
    b.state.pc = a.state.pc := by
  generalize silent : [] = trace at trail
  induction trail with
  | start => rfl
  | @pause b c _ before paused ih =>
    rw [← ih silent]
    cases paused with
    | refused failed => rw [State.execute_error_state (before.wellFormed whole) failed]
    | shown | keyed | ticked | loaded => rfl
  | executed => simp at silent

theorem State.drawFor_of_calm {ins : Instruction} (calm : ins.operation ≠ .random) (r : ρ) :
    drawFor ins r = (.ok 0, r) := by
  unfold drawFor
  split
  · next draws => exact absurd draws calm
  · rfl

theorem State.WellFormed.execute_of_faces {s : State} (whole : s.WellFormed) {ins : Instruction}
    (faces : s.Faces ins) (calm : ins.operation ≠ .random) (r : ρ) :
    s.execute r = match s.refusal? ins with
      | some fault => (.error fault s, r)
      | none => (.ok ins (s.effect ins 0), r) := by
  rw [execute_eq whole, (whole.instruction_eq_ok_iff ins).2 faces]
  cases verdict : s.refusal? ins with
  | some fault => simp only [verdict]
  | none => simp only [verdict, drawFor_of_calm calm]

section Run

variable {m b c : Machine ρ} {trace : List Executed} (trail : Trail m trace b)
  (whole : m.state.WellFormed) (empty : m.state.sp = 0)
include trail whole empty

theorem Trail.calls_of_empty : b.state.calls = replay [] trace := by
  have none : m.state.calls = [] := by
    rw [whole.calls, empty]
    rfl
  rw [trail.calls whole, none]

theorem Trail.depth : b.state.sp = (replay [] trace).length := by
  rw [← (trail.wellFormed whole).calls_length, trail.calls_of_empty whole empty]

theorem Trail.calls_range_of_empty : ∀ p ∈ b.state.calls, 0 ≤ p ∧ p < 0xFFF := by
  refine trail.calls_range whole fun p member => ?_
  rw [whole.calls, empty] at member
  cases member

theorem Trail.execute_call {ins : Instruction} (faces : b.state.Faces ins)
    (calls : ins.operation = .call) :
    if (replay [] trace).length = 16 then
      b.state.execute b.random = (.error (.stackOverflow b.state.pc) b.state, b.random)
    else ∃ t, b.state.execute b.random = (.ok ins t, b.random) ∧
      t.calls = replay [] trace ++ [b.state.pc] ∧ t.pc = ins.nnn := by
  have between := trail.wellFormed whole
  have depth := trail.depth whole empty
  have high := between.sp_le
  have executed := between.execute_of_faces faces (by rw [calls]; decide) b.random
  split
  · next full =>
    have refused : b.state.refusal? ins = some (.stackOverflow b.state.pc) := by
      simp only [State.refusal?, calls]
      rw [if_pos (by omega)]
    rw [executed, refused]
  · next room =>
    have allowed : b.state.refusal? ins = none := by
      simp only [State.refusal?, calls]
      rw [if_neg (by omega)]
    refine ⟨b.state.effect ins 0, by rw [executed, allowed], ?_, ?_⟩
    · rw [between.calls_effect allowed, trail.calls_of_empty whole empty]
      simp only [Executed.replay, calls]
    · simp only [State.effect, State.target, calls, Instruction.nnn_mod]

theorem Trail.execute_return {ins : Instruction} (faces : b.state.Faces ins)
    (returns : ins.operation = .ret) :
    if replay [] trace = [] then
      b.state.execute b.random = (.error (.stackUnderflow b.state.pc) b.state, b.random)
    else ∃ p t, (replay [] trace).getLast? = some p ∧
      b.state.execute b.random = (.ok ins t, b.random) ∧
      t.calls = (replay [] trace).dropLast ∧ t.pc = p + 2 := by
  have between := trail.wellFormed whole
  have depth := trail.depth whole empty
  have executed := between.execute_of_faces faces (by rw [returns]; decide) b.random
  split
  · next closed =>
    have refused : b.state.refusal? ins = some (.stackUnderflow b.state.pc) := by
      simp only [State.refusal?, returns]
      rw [if_pos (by rw [depth, closed]; rfl)]
    rw [executed, refused]
  · next opened =>
    have called : b.state.sp ≠ 0 := by
      have length := List.length_pos_iff.2 opened
      omega
    have allowed : b.state.refusal? ins = none := by
      simp only [State.refusal?, returns, called, if_false]
    have top := between.getLast?_calls called
    have range := trail.calls_range_of_empty whole empty _ (List.mem_of_getLast? top)
    refine ⟨b.state.top, b.state.effect ins 0, ?_, by rw [executed, allowed], ?_, ?_⟩
    · rw [← trail.calls_of_empty whole empty, top]
    · rw [between.calls_effect allowed, trail.calls_of_empty whole empty]
      simp only [Executed.replay, returns]
    · simp only [State.effect, State.target, returns]
      omega

theorem Trail.subroutine {call ret : Executed} {inner : List Executed}
    (segment : Trail b (call :: inner ++ [ret]) c) (calls : call.instruction.operation = .call)
    (returns : ret.instruction.operation = .ret)
    (deeper : ∀ n, n ≤ inner.length →
      b.state.calls.length < (replay b.state.calls (call :: inner.take n)).length)
    (back : (replay b.state.calls (call :: inner ++ [ret])).length = b.state.calls.length) :
    c.state.pc = call.address + 2 ∧ c.state.calls = b.state.calls := by
  have whole_b := trail.wellFormed whole
  obtain ⟨inside, outside⟩ := replay_subroutine calls returns deeper back
  obtain ⟨d, e, before, done, _, after⟩ := segment.last_executed
  have trail_d := trail.trans before
  have whole_d := trail_d.wellFormed whole
  have calls_d : d.state.calls = b.state.calls ++ [call.address] := by
    rw [before.calls whole_b, inside]
  have called : d.state.sp ≠ 0 := by
    have length := whole_d.calls_length
    rw [calls_d, List.length_append, List.length_singleton] at length
    omega
  have top : d.state.top = call.address := by
    have last := whole_d.getLast?_calls called
    rw [calls_d, List.getLast?_concat] at last
    exact (Option.some.inj last).symm
  constructor
  · obtain ⟨found, allowed, drawn, _, same⟩ := (State.execute_eq_ok_iff whole_d _ _ _ _).1 done
    have range := trail_d.calls_range_of_empty whole empty call.address (by simp [calls_d])
    have whole_e : e.state.WellFormed := same ▸ whole_d.effect drawn allowed
    rw [after.pc_of_silent whole_e, same]
    simp only [State.effect, State.target, returns, top]
    omega
  · rw [segment.calls whole_b, outside]

end Run

namespace Session

variable {ρ κ ε : Type} [RandomSource ρ]

/-- The discipline of calls and returns, over whatever a machine executes that starts without open
calls. Runs and cycles make trails of it. -/
theorem stack_replays_trace {m : Session ρ κ} (whole : m.state.WellFormed)
    (empty : m.state.sp = 0) :
    (∀ (around : Surroundings κ ε) k, cycle around m = .ok () k →
      ∃ ins, k.last = some ins ∧ Advances m [⟨m.state.pc, ins⟩] k) ∧
    (∀ (around : Surroundings κ ε) handler fuel,
      ∃ trace, Advances m trace (run around handler fuel m).2) ∧
    ∀ trace b, Trail m.machine trace b →
      b.state.calls = replay [] trace ∧
      (∀ ins, b.state.Faces ins → ins.operation = .call →
        if (replay [] trace).length = 16 then
          b.state.execute b.random = (.error (.stackOverflow b.state.pc) b.state, b.random)
        else ∃ t, b.state.execute b.random = (.ok ins t, b.random) ∧
          t.calls = replay [] trace ++ [b.state.pc] ∧ t.pc = ins.nnn) ∧
      (∀ ins, b.state.Faces ins → ins.operation = .ret →
        if replay [] trace = [] then
          b.state.execute b.random = (.error (.stackUnderflow b.state.pc) b.state, b.random)
        else ∃ p t, (replay [] trace).getLast? = some p ∧
          b.state.execute b.random = (.ok ins t, b.random) ∧
          t.calls = (replay [] trace).dropLast ∧ t.pc = p + 2) ∧
      ∀ (call ret : Executed) inner c, Trail b (call :: inner ++ [ret]) c →
        call.instruction.operation = .call → ret.instruction.operation = .ret →
        (∀ n, n ≤ inner.length →
          (replay [] trace).length < (replay [] (trace ++ call :: inner.take n)).length) →
        (replay [] (trace ++ (call :: inner ++ [ret]))).length = (replay [] trace).length →
          c.state.pc = call.address + 2 ∧ c.state.sp = b.state.sp ∧
          ∀ k : Fin 16, k.val < b.state.sp → c.state.stack.get k = b.state.stack.get k := by
  refine ⟨fun around k done => cycle_ok done, fun around => run_trace around (m := m), ?_⟩
  intro trace b trail
  have calls := trail.calls_of_empty whole empty
  refine ⟨calls, fun ins => trail.execute_call whole empty,
    fun ins => trail.execute_return whole empty, ?_⟩
  intro call ret inner c segment calling returning deeper back
  simp only [replay_append [] trace, ← calls] at deeper back
  obtain ⟨pc, same⟩ := trail.subroutine whole empty segment calling returning deeper back
  have whole_b := trail.wellFormed whole
  have whole_c := segment.wellFormed whole_b
  have depth : c.state.sp = b.state.sp := by
    rw [← whole_c.calls_length, ← whole_b.calls_length, same]
  refine ⟨pc, depth, fun k below => ?_⟩
  have left := whole_c.getElem?_calls k (by omega)
  have right := whole_b.getElem?_calls k below
  rw [same, right] at left
  exact (Option.some.inj left).symm

def calling : Session Script Unit :=
  ((start (Script.ofArray #[]) ()).loadImage [0x22, 0x04, 0x00, 0xE0, 0x00, 0xEE] []).2

theorem calling_state : calling.state = { State.initial with
    memory := State.initial.memory.overwrite State.programStart
      [0x22, 0x04, 0x00, 0xE0, 0x00, 0xEE] } := by
  rw [calling, loadImage_state _ _ (by decide)]
  rfl

theorem calling_returns :
    ∃ c, Trail calling.machine [⟨0x200, ⟨.call, 0x2204⟩⟩, ⟨0x204, ⟨.ret, 0x00EE⟩⟩] c ∧
      c.state.pc = 0x202 ∧ c.state.sp = 0 := by
  have loaded : Silent (start (Script.ofArray #[]) ()) calling := silent_loadImage _ _ _
  have whole : calling.state.WellFormed :=
    loaded.trail.wellFormed State.sound_initial.toWellFormed
  have empty : calling.state.sp = 0 := by rw [calling_state]; rfl
  have pc : calling.state.pc = 0x200 := by rw [calling_state]; rfl
  obtain ⟨_, _, along⟩ := stack_replays_trace (ε := Empty) whole empty
  have first : calling.state.Faces ⟨.call, 0x2204⟩ := by
    have word : calling.state.word = 0x2204 := by
      rw [calling_state]
      decide +kernel
    exact ⟨by rw [pc]; decide, by rw [word]; rfl, by rw [word]; exact ⟨rfl, trivial⟩⟩
  obtain ⟨_, step, _, subroutine⟩ := along [] calling.machine (.start _)
  have called := step ⟨.call, 0x2204⟩ first rfl
  rw [if_neg (by decide)] at called
  obtain ⟨t, done, _, entered⟩ := called
  have before : Trail calling.machine [⟨0x200, ⟨.call, 0x2204⟩⟩] ⟨t, calling.random⟩ :=
    pc ▸ .of_executed (b := ⟨t, calling.random⟩) done
  have address : t.pc = 0x204 := entered
  have second : t.Faces ⟨.ret, 0x00EE⟩ := by
    obtain ⟨_, _, drawn, _, same⟩ := (State.execute_eq_ok_iff whole _ _ _ _).1 done
    have memory : t.memory = calling.state.memory := by rw [same]; rfl
    have word : t.word = 0x00EE := by
      rw [State.word, memory, address, calling_state]
      decide +kernel
    exact ⟨by rw [address]; decide, by rw [word]; rfl, by rw [word]; exact ⟨rfl, rfl⟩⟩
  obtain ⟨_, _, step, _⟩ := along _ _ before
  have returned := step ⟨.ret, 0x00EE⟩ second rfl
  rw [if_neg (by decide)] at returned
  obtain ⟨_, u, _, left, _⟩ := returned
  have after := before.executed (c := ⟨u, calling.random⟩) left
  rw [address] at after
  obtain ⟨back, depth, _⟩ := subroutine ⟨0x200, ⟨.call, 0x2204⟩⟩ ⟨0x204, ⟨.ret, 0x00EE⟩⟩ [] _ after
    rfl rfl (fun n _ => by rw [List.take_nil]; decide) (by decide)
  exact ⟨_, after, back, depth.trans empty⟩

end Session

end Chip8
