import Chip8.Proofs.Periphery
import Chip8.Proofs.Succession

/-! Timers over many cycles. A cycle counts a timer down right after its instruction may have
stored into it. So the value of a timer is told by the latest cycle that stored into it and by how
long ago that was, and the sound timer beeps in the one cycle in which it is counted down from
one. -/
namespace Chip8

namespace Timer

/-- What is left of a timer that was counted down so often. -/
def left (start : Int) (count : Nat) : Int := if 0 < start then max 0 (start - count) else start

theorem left_zero (start : Int) : left start 0 = start := by
  unfold left
  split <;> omega

theorem countDown_left (start : Int) (count : Nat) :
    State.countDown (left start count) = left start (count + 1) := by
  unfold State.countDown left
  by_cases running : 0 < start
  · simp only [if_pos running]
    split <;> omega
  · simp only [if_neg running]

theorem left_eq_one_iff (start : Int) (count : Nat) : left start count = 1 ↔ start = count + 1 := by
  unfold left
  split <;> omega

/- `stored` are the bytes that the cycles store, if they do, and `value` is the timer before each. -/
variable {stored : Nat → Option UInt8} {value : Nat → Int} {n : Nat}

/-- What cycle `i` counts down from. -/
def counted (stored : Nat → Option UInt8) (value : Nat → Int) (i : Nat) : Int :=
  match stored i with
  | some b => b.toNat
  | none => value i

def Runs (stored : Nat → Option UInt8) (value : Nat → Int) (n : Nat) : Prop :=
  ∀ i < n, value (i + 1) = State.countDown (counted stored value i)

/-- Up to cycle `j`, the latest byte was stored in cycle `c`. -/
structure Latest (stored : Nat → Option UInt8) (c j : Nat) (b : UInt8) : Prop where
  before : c ≤ j
  stores : stored c = some b
  later : ∀ i, c < i → i ≤ j → stored i = none

theorem Latest.unique {c d j k : Nat} {a b : UInt8} (one : Latest stored c j a)
    (other : Latest stored d k b) (between : d ≤ j) (between' : c ≤ k) : d = c := by
  obtain earlier | same | later := Nat.lt_trichotomy d c
  · have none := other.later c earlier between'
    rw [one.stores] at none
    cases none
  · exact same
  · have none := one.later d later between
    rw [other.stores] at none
    cases none

theorem exists_latest (stored : Nat → Option UInt8) (j : Nat) :
    (∀ i ≤ j, stored i = none) ∨ ∃ c b, Latest stored c j b := by
  induction j with
  | zero =>
    cases stores : stored 0 with
    | none =>
      refine .inl fun i before => ?_
      obtain rfl := Nat.le_zero.1 before
      exact stores
    | some b => exact .inr ⟨0, b, Nat.le_refl _, stores, fun i after before => by omega⟩
  | succ j ih =>
    cases stores : stored (j + 1) with
    | some b => exact .inr ⟨j + 1, b, Nat.le_refl _, stores, fun i after before => by omega⟩
    | none =>
      obtain never | ⟨c, b, latest⟩ := ih
      · refine .inl fun i before => ?_
        obtain rfl | earlier := Nat.eq_or_lt_of_le before
        · exact stores
        · exact never i (Nat.le_of_lt_succ earlier)
      · refine .inr ⟨c, b, Nat.le_succ_of_le latest.before, latest.stores, fun i after before => ?_⟩
        obtain rfl | earlier := Nat.eq_or_lt_of_le before
        · exact stores
        · exact latest.later i after (Nat.le_of_lt_succ earlier)

section Runs

variable (runs : Runs stored value n)
include runs

theorem counted_eq_left {c : Nat} (d : Nat) (inside : c + d ≤ n)
    (untouched : ∀ i, c < i → i ≤ c + d → stored i = none) :
    counted stored value (c + d) = left (counted stored value c) d := by
  induction d with
  | zero => exact (left_zero _).symm
  | succ d ih =>
    have before := ih (by omega) fun i after before => untouched i after (by omega)
    have none := untouched (c + (d + 1)) (by omega) (Nat.le_refl _)
    have next := runs (c + d) (by omega)
    rw [before, countDown_left] at next
    rw [counted, none]
    exact next

theorem counted_of_latest {c j : Nat} {b : UInt8} (latest : Latest stored c j b) (inside : j ≤ n) :
    counted stored value j = left b.toNat (j - c) := by
  have before := latest.before
  have same : c + (j - c) = j := by omega
  have counts := counted_eq_left runs (c := c) (j - c) (by omega)
    fun i after later => latest.later i after (by omega)
  rw [same] at counts
  rw [counts, counted, latest.stores]

theorem counted_of_never {j : Nat} (never : ∀ i ≤ j, stored i = none) (inside : j ≤ n) :
    counted stored value j = left (value 0) j := by
  have counts := counted_eq_left runs (c := 0) j (by omega) fun i _ later => never i (by omega)
  rw [Nat.zero_add] at counts
  rw [counts, counted, never 0 (Nat.zero_le j)]

theorem value_of_stored {c k : Nat} {b : UInt8} (later : 1 ≤ k) (inside : c + k ≤ n)
    (stores : stored c = some b) (untouched : ∀ i, c < i → i < c + k → stored i = none) :
    value (c + k) = max 0 ((b.toNat : Int) - k) := by
  obtain ⟨d, rfl⟩ := Nat.exists_eq_add_of_le' later
  have counts := counted_eq_left runs (c := c) d (by omega)
    fun i after before => untouched i after (by omega)
  have next := runs (c + d) (by omega)
  have start : counted stored value c = b.toNat := by rw [counted, stores]
  rw [counts, countDown_left, start] at next
  rw [← Nat.add_assoc, next, left]
  split <;> omega

end Runs

section Rings

/- A timer that rings where it is counted down from one. -/
variable {rings : Nat → Prop} (runs : Runs stored value n)
  (rung : ∀ i < n, rings i ↔ counted stored value i = 1)
include runs rung

theorem rings_of_stored {c : Nat} {b : UInt8} (stores : stored c = some b) (some : 1 ≤ b.toNat)
    (inside : c + b.toNat ≤ n)
    (untouched : ∀ i, c < i → i < c + b.toNat → stored i = none) :
    rings (c + b.toNat - 1) ∧ ∀ j, c ≤ j → j < c + b.toNat - 1 → ¬ rings j := by
  have counts (j : Nat) (after : c ≤ j) (before : j < c + b.toNat) :
      rings j ↔ (b.toNat : Int) = (j - c : Nat) + 1 := by
    have latest : Latest stored c j b :=
      ⟨after, stores, fun i later earlier => untouched i later (by omega)⟩
    rw [rung j (by omega), counted_of_latest runs latest (by omega), left_eq_one_iff]
  refine ⟨(counts _ (by omega) (by omega)).2 (by omega), fun j after before rings => ?_⟩
  have exact := (counts j after (by omega)).1 rings
  omega

theorem latest_of_rings {j : Nat} (inside : j < n) (now : rings j) :
    (∃ c b, Latest stored c j b ∧ c + b.toNat = j + 1) ∨
      (∀ i ≤ j, stored i = none) ∧ value 0 = j + 1 := by
  have one := (rung j inside).1 now
  obtain never | ⟨c, b, latest⟩ := exists_latest stored j
  · rw [counted_of_never runs never (Nat.le_of_lt inside), left_eq_one_iff] at one
    exact .inr ⟨never, one⟩
  · rw [counted_of_latest runs latest (Nat.le_of_lt inside), left_eq_one_iff] at one
    have before := latest.before
    exact .inl ⟨c, b, latest, by omega⟩

theorem stored_between {j k : Nat} (inside : k < n) (earlier : j < k) (now : rings j)
    (again : rings k) : ∃ c b, j < c ∧ c ≤ k ∧ stored c = some b ∧ b ≠ 0 := by
  obtain ⟨c, b, latest, due⟩ | ⟨never, due⟩ := latest_of_rings runs rung inside again
  · have before := latest.before
    have positive : b ≠ 0 := by
      rintro rfl
      have zero : (0 : UInt8).toNat = 0 := rfl
      omega
    obtain first | later := Nat.lt_or_ge j c
    · exact ⟨c, b, first, before, latest.stores, positive⟩
    · obtain ⟨d, a, latest', due'⟩ | ⟨never, _⟩ :=
        latest_of_rings runs rung (Nat.lt_trans earlier inside) now
      · obtain rfl := latest.unique latest' (Nat.le_trans latest'.before (Nat.le_of_lt earlier)) later
        cases latest.stores.symm.trans latest'.stores
        omega
      · have none := never c later
        rw [latest.stores] at none
        cases none
  · obtain ⟨d, a, latest', _⟩ | ⟨_, due'⟩ :=
      latest_of_rings runs rung (Nat.lt_trans earlier inside) now
    · have none := never d (Nat.le_trans latest'.before (Nat.le_of_lt earlier))
      rw [latest'.stores] at none
      cases none
    · omega

theorem latest_of_overwritten {c d j : Nat} {b : UInt8} (stores : stored c = some b)
    (later : c < d) (intime : d < c + b.toNat) (overwritten : stored d ≠ none) (inside : j < n)
    (after : c ≤ j) (now : rings j) :
    ∃ e a, c < e ∧ Latest stored e j a ∧ e + a.toNat = j + 1 := by
  obtain ⟨e, a, latest, due⟩ | ⟨never, _⟩ := latest_of_rings runs rung inside now
  · obtain earlier | rfl | afterwards := Nat.lt_trichotomy e c
    · have none := latest.later c earlier after
      rw [stores] at none
      cases none
    · cases stores.symm.trans latest.stores
      exact absurd (latest.later d later (by omega)) overwritten
    · exact ⟨e, a, afterwards, latest, due⟩
  · have none := never c after
    rw [stores] at none
    cases none

theorem latest_of_restarted {d j : Nat} (intime : (d : Int) < value 0)
    (overwritten : stored d ≠ none) (inside : j < n) (now : rings j) :
    ∃ e a, Latest stored e j a ∧ e + a.toNat = j + 1 := by
  obtain latest | ⟨never, due⟩ := latest_of_rings runs rung inside now
  · exact latest
  · exact absurd (never d (by omega)) overwritten

end Rings

end Timer

namespace Session

variable {ρ κ ε : Type} [RandomSource ρ] {around : Surroundings κ ε}
  {m : Session ρ (Recorded κ ε)} {n : Nat}

/-- The byte that cycle `i` stores with an instruction of this kind, if that is what it executes. -/
def stored (around : Surroundings κ ε) (m : Session ρ κ) (op : Operation) (i : Nat) :
    Option UInt8 :=
  match (cycled around m (i + 1)).last with
  | some ins => if ins.operation = op then some ((cycled around m i).state.v.byte ins.x) else none
  | none => none

/-- Cycle `i` makes its host beep. -/
def Rings (around : Surroundings κ ε) (m : Session ρ (Recorded κ ε)) (i : Nat) : Prop :=
  (cycled around.recorded m i).world.beeps < (cycled around.recorded m (i + 1)).world.beeps

theorem Taken.stored {hosted : Bool} {i : Nat} {t : Turn ρ}
    (taken : Taken hosted (cycled around.recorded m i) t (cycled around.recorded m (i + 1)))
    (op : Operation) : Session.stored around.recorded m op i =
      if t.instruction.operation = op then
        some ((cycled around.recorded m i).state.v.byte t.instruction.x) else none := by
  rw [Session.stored, taken.last]

theorem Taken.delay {hosted : Bool} {i : Nat} {t : Turn ρ}
    (taken : Taken hosted (cycled around.recorded m i) t (cycled around.recorded m (i + 1))) :
    t.executed.state.delay = Timer.counted (Session.stored around.recorded m .setDelay)
      (fun j => (cycled around.recorded m j).state.delay) i := by
  rw [State.delay_execute taken.performed, Timer.counted, taken.stored]
  split <;> rfl

theorem Taken.sound {hosted : Bool} {i : Nat} {t : Turn ρ}
    (taken : Taken hosted (cycled around.recorded m i) t (cycled around.recorded m (i + 1))) :
    t.executed.state.sound = Timer.counted (Session.stored around.recorded m .setSound)
      (fun j => (cycled around.recorded m j).state.sound) i := by
  rw [State.sound_execute taken.performed, Timer.counted, taken.stored]
  split <;> rfl

section Completed

variable (completed : Completed around.recorded m n)
include completed

theorem delay_runs : Timer.Runs (stored around.recorded m .setDelay)
    (fun i => (cycled around.recorded m i).state.delay) n := by
  intro i below
  obtain ⟨t, taken⟩ := completed.turn below
  rw [← taken.delay]
  exact congrArg (·.state.delay) taken.after

theorem sound_runs : Timer.Runs (stored around.recorded m .setSound)
    (fun i => (cycled around.recorded m i).state.sound) n := by
  intro i below
  obtain ⟨t, taken⟩ := completed.turn below
  rw [← taken.sound]
  exact congrArg (·.state.sound) taken.after

theorem rings_iff (hosted : around.host.isSome = true) : ∀ i < n, Rings around m i ↔
    Timer.counted (stored around.recorded m .setSound)
      (fun j => (cycled around.recorded m j).state.sound) i = 1 := by
  intro i below
  obtain ⟨t, taken⟩ := completed.turn below
  rw [hosted] at taken
  rw [← taken.sound, Rings, taken.beeps, Turn.rings]
  by_cases expires : t.executed.state.sound = 1
  · simp [expires]
  · simp [expires]

theorem byte_of_read {i : Nat} (below : i < n) {ins : Instruction}
    (last : (cycled around.recorded m (i + 1)).last = some ins)
    (reads : ins.operation = .readDelay) :
    (((cycled around.recorded m (i + 1)).state.v.byte ins.x).toNat : Int) =
      (cycled around.recorded m i).state.delay := by
  obtain ⟨t, taken⟩ := completed.turn below
  obtain rfl := Option.some.inj (taken.last.symm.trans last)
  have after : (cycled around.recorded m (i + 1)).state.v = t.executed.state.v :=
    congrArg (·.state.v) taken.after
  rw [after]
  exact State.byte_execute taken.performed reads

end Completed

/-- Timers over the cycles of a session: what is seen of them, and when and for what the host is
made to beep. -/
theorem timers_over_cycles {m : Session ρ κ} (completed : Completed around.recorded m.recorded n) :
    let reached := cycled around.recorded m.recorded
    let delays := stored around.recorded m.recorded .setDelay
    let sounds := stored around.recorded m.recorded .setSound
    let rings := Rings around m.recorded
    (∀ c k b, 1 ≤ k → c + k ≤ n → delays c = some b →
      (∀ i, c < i → i < c + k → delays i = none) →
        (reached (c + k)).state.delay = max 0 ((b.toNat : Int) - k) ∧
        (c + k < n → ∀ ins, (reached (c + k + 1)).last = some ins → ins.operation = .readDelay →
          (((reached (c + k + 1)).state.v.byte ins.x).toNat : Int) =
            max 0 ((b.toNat : Int) - k))) ∧
    (∀ c k b, 1 ≤ k → c + k ≤ n → sounds c = some b →
      (∀ i, c < i → i < c + k → sounds i = none) →
        (reached (c + k)).state.sound = max 0 ((b.toNat : Int) - k)) ∧
    (around.host.isSome = true →
      (∀ c b, sounds c = some b → 1 ≤ b.toNat → c + b.toNat ≤ n →
        (∀ i, c < i → i < c + b.toNat → sounds i = none) →
          rings (c + b.toNat - 1) ∧ ∀ j, c ≤ j → j < c + b.toNat - 1 → ¬ rings j) ∧
      (∀ j < n, rings j →
        (∃ c b, Timer.Latest sounds c j b ∧ c + b.toNat = j + 1) ∨
          (∀ i ≤ j, sounds i = none) ∧ m.state.sound = j + 1) ∧
      (∀ j k, j < k → k < n → rings j → rings k →
        ∃ c b, j < c ∧ c ≤ k ∧ sounds c = some b ∧ b ≠ 0) ∧
      (∀ c d b, sounds c = some b → c < d → d < c + b.toNat → sounds d ≠ none →
        ∀ j < n, c ≤ j → rings j →
          ∃ e a, c < e ∧ Timer.Latest sounds e j a ∧ e + a.toNat = j + 1) ∧
      (∀ d : Nat, d < m.state.sound → sounds d ≠ none →
        ∀ j < n, rings j → ∃ e a, Timer.Latest sounds e j a ∧ e + a.toNat = j + 1)) := by
  intro reached delays sounds rings
  have delay := delay_runs completed
  have sound := sound_runs completed
  refine ⟨?_, ?_, fun hosted => ?_⟩
  · intro c k b later inside stores untouched
    have seen := Timer.value_of_stored delay later inside stores untouched
    refine ⟨seen, fun below ins last reads => ?_⟩
    exact (byte_of_read completed below last reads).trans seen
  · exact fun c k b => Timer.value_of_stored sound
  · have rung := rings_iff completed hosted
    exact ⟨fun c b => Timer.rings_of_stored sound rung,
      fun j => Timer.latest_of_rings sound rung,
      fun j k earlier inside => Timer.stored_between sound rung inside earlier,
      fun c d b stores later intime overwritten j =>
        Timer.latest_of_overwritten sound rung stores later intime overwritten,
      fun d intime overwritten j => Timer.latest_of_restarted sound rung intime overwritten⟩

def timing : Session Script Headless :=
  ((start (Script.ofArray #[]) Headless.fresh).loadImage
    [0x61, 0x03, 0xF1, 0x15, 0xF1, 0x18, 0xF2, 0x07, 0x12, 0x08] []).2

theorem timing_beeps_once :
    (cycled alone.recorded timing.recorded 3).state.delay = 1 ∧
    (cycled alone.recorded timing.recorded 4).state.sound = 1 ∧
    Rings alone timing.recorded 4 ∧
    ¬ Rings alone timing.recorded 2 ∧ ¬ Rings alone timing.recorded 3 := by
  have completed : Completed alone.recorded timing.recorded 6 := by
    unfold Completed
    decide +kernel
  have delays : stored alone.recorded timing.recorded .setDelay 1 = some 3 ∧
      stored alone.recorded timing.recorded .setDelay 2 = none := by
    decide +kernel
  have sounds : stored alone.recorded timing.recorded .setSound 2 = some 3 ∧
      stored alone.recorded timing.recorded .setSound 3 = none ∧
      stored alone.recorded timing.recorded .setSound 4 = none := by
    decide +kernel
  obtain ⟨delay, sound, beeps⟩ := timers_over_cycles completed
  obtain ⟨rings, _⟩ := beeps rfl
  have seen := (delay 1 2 3 (by decide) (by decide) delays.1 fun i after before => by
    obtain rfl : i = 2 := by omega
    exact delays.2).1
  have counted := sound 2 2 3 (by decide) (by decide) sounds.1 fun i after before => by
    obtain rfl : i = 3 := by omega
    exact sounds.2.1
  obtain ⟨now, earlier⟩ := rings 2 3 sounds.1 (by decide) (by decide) fun i after before => by
    have below : i < 5 := before
    obtain rfl | rfl : i = 3 ∨ i = 4 := by omega
    · exact sounds.2.1
    · exact sounds.2.2
  have three : (3 : UInt8).toNat = 3 := rfl
  have one : max 0 (((3 : Nat) : Int) - (2 : Nat)) = 1 := by decide
  simp only [three, one, Nat.reduceAdd, Nat.reduceSub] at seen counted now
  refine ⟨seen, counted, now, ?_, ?_⟩
  · exact earlier 2 (by decide) (by decide)
  · exact earlier 3 (by decide) (by decide)

end Session

end Chip8
