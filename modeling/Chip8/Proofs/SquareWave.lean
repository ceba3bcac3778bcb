import Chip8.Proofs.Closing
import Mathlib.Data.Rat.Floor
import Mathlib.Tactic.FieldSimp
import Mathlib.Tactic.Linarith
import Mathlib.Tactic.NormNum
import Mathlib.Tactic.Positivity
import Mathlib.Tactic.Ring

/-! The square wave of a tone whose settings are taken as exact rationals. Every wave has its high
half first, so that how many samples are high, and what all of them sum up to, is told by the length
of a wave and the number of samples. -/
namespace Chip8

/-- A rational without its fraction, which is cut off towards zero. -/
def truncated (q : Rat) : Int := if 0 ≤ q then ⌊q⌋ else ⌈q⌉

theorem abs_truncated_le {q : Rat} {n : Int} (small : |q| ≤ n) : |truncated q| ≤ n := by
  obtain ⟨low, high⟩ := abs_le.1 small
  have nonneg : (0 : Rat) ≤ n := (abs_nonneg q).trans small
  unfold truncated
  rw [abs_le]
  split_ifs with positive
  · exact ⟨(neg_nonpos.2 (by exact_mod_cast nonneg)).trans (Int.floor_nonneg.2 positive),
      Int.floor_le_iff.2 (by linarith)⟩
  · exact ⟨Int.le_ceil_iff.2 (by push_cast; linarith),
      Int.ceil_le.2 high⟩

/-- An integer no other is closer to, and the even one of two. -/
structure NearestEven (q : Rat) (n : Int) : Prop where
  near : |q - n| ≤ 1 / 2
  even : |q - n| = 1 / 2 → Even n

theorem NearestEven.of_lt {q : Rat} {n : Int} (near : |q - n| < 1 / 2) : NearestEven q n :=
  ⟨near.le, fun tie => absurd tie near.ne⟩

theorem NearestEven.of_tie {q : Rat} {n : Int} (tie : |q - n| = 1 / 2) (even : Even n) :
    NearestEven q n := ⟨tie.le, fun _ => even⟩

theorem NearestEven.neg {q : Rat} {n : Int} (nearest : NearestEven q n) :
    NearestEven (-q) (-n) := by
  have same : |-q - ((-n : Int) : Rat)| = |q - n| := by
    rw [← abs_neg]
    push_cast
    ring_nf
  exact ⟨same ▸ nearest.near, fun tie => (nearest.even (same ▸ tie)).neg⟩

theorem NearestEven.le {q : Rat} {m n : Int} (one : NearestEven q m) (other : NearestEven q n) :
    n ≤ m := by
  by_contra less
  have step : (m : Rat) + 1 ≤ n := by exact_mod_cast not_le.1 less
  have high := (abs_le.1 one.near).2
  have low := (abs_le.1 other.near).1
  -- One lies half below and the next one half above, so both would have to be even.
  have next : (m : Rat) + 1 = n := by linarith
  have first : Even m := one.even (by rw [abs_of_nonneg] <;> linarith)
  have second : Even n := other.even (by rw [abs_of_nonpos] <;> linarith)
  obtain rfl : m + 1 = n := by exact_mod_cast next
  exact absurd second (Int.not_even_iff_odd.2 first.add_one)

theorem NearestEven.unique {q : Rat} {m n : Int} (one : NearestEven q m) (other : NearestEven q n) :
    m = n := le_antisymm (other.le one) (one.le other)

namespace Binary64

theorem truncate_eq (q : Rat) : truncate q = truncated q := by
  unfold truncate truncated
  split_ifs with nonneg
  · rw [Int.tdiv_eq_ediv_of_nonneg (Rat.num_nonneg.2 nonneg), Rat.floor_def']
  · have negative : 0 ≤ -q.num := by
      have := Rat.num_neg.2 (not_le.1 nonneg)
      omega
    rw [Rat.ceil_def', ← Int.tdiv_eq_ediv_of_nonneg negative, Int.neg_tdiv, neg_neg]

theorem nearestEven_roundDiv (n : Nat) {d : Nat} (positive : 0 < d) :
    NearestEven ((n : Rat) / d) (roundDiv n d : Nat) := by
  have size : (0 : Rat) < d := by exact_mod_cast positive
  have small : ((n % d : Nat) : Rat) < d := by exact_mod_cast Nat.mod_lt n positive
  have divided : (n : Rat) = d * (n / d : Nat) + (n % d : Nat) := by
    exact_mod_cast (Nat.div_add_mod n d).symm
  have part : (n : Rat) / d - (n / d : Nat) = ((n % d : Nat) : Rat) / d := by
    rw [sub_eq_iff_eq_add, div_eq_iff size.ne', add_mul, div_mul_cancel₀ _ size.ne']
    linarith
  have nonneg : (0 : Rat) ≤ ((n % d : Nat) : Rat) / d := by positivity
  have less : ((n % d : Nat) : Rat) / d < 1 := (div_lt_one size).2 small
  unfold roundDiv
  generalize (n : Rat) / d = q at *
  generalize n / d = whole at *
  generalize n % d = rest at *
  dsimp only
  split_ifs with below above even
  · have half : (rest : Rat) / d < 1 / 2 := by
      have : (2 * rest : Rat) < d := by exact_mod_cast below
      rw [div_lt_iff₀ size]
      linarith
    refine .of_lt ?_
    push_cast
    rwa [part, abs_of_nonneg nonneg]
  · have half : 1 / 2 < (rest : Rat) / d := by
      have : (d : Rat) < 2 * rest := by exact_mod_cast above
      rw [lt_div_iff₀ size]
      linarith
    refine .of_lt ?_
    push_cast
    rw [abs_of_nonpos (by linarith)]
    linarith
  all_goals
    have half : (rest : Rat) / d = 1 / 2 := by
      have tie : 2 * rest = d := by omega
      have : (2 * rest : Rat) = d := by exact_mod_cast tie
      rw [div_eq_iff size.ne']
      linarith
  · refine .of_tie ?_ (by exact_mod_cast Nat.even_iff.2 even)
    push_cast
    rw [part, half, abs_of_pos one_half_pos]
  · refine .of_tie ?_ ?_
    · push_cast
      rw [abs_of_nonpos (by linarith)]
      linarith
    · exact_mod_cast (Nat.odd_iff.2 (by omega) : Odd whole).add_one

theorem nearestEven_nearest (q : Rat) : NearestEven q (nearest q) := by
  have size := nearestEven_roundDiv q.num.natAbs q.den_pos
  have whole : (q.num : Rat) / q.den = q := Rat.num_div_den q
  unfold nearest
  dsimp only
  split_ifs with negative
  · have same : (q.num.natAbs : Int) = -q.num := by omega
    rw [← Int.cast_natCast q.num.natAbs, same, Int.cast_neg, neg_div, whole] at size
    simpa using size.neg
  · have same : (q.num.natAbs : Int) = q.num := by omega
    rwa [← Int.cast_natCast q.num.natAbs, same, whole] at size

end Binary64

@[simp] theorem Binary64.rational?_signed (negative : Bool) (q : Rat) :
    (signed negative (finite q)).rational? = some q := by
  unfold signed
  dsimp only
  split_ifs with zero
  · obtain ⟨rfl, _⟩ : q = 0 ∧ negative = true := by simpa using zero
    rfl
  · rfl

theorem Binary64.ne_notNumber {x : Binary64} {q : Rat} (value : x.rational? = some q) :
    x ≠ .notNumber := by
  rintro rfl
  cases value

namespace Number

def rational? : Number → Option Rat
  | .whole i => some i
  | .real x => x.rational?

section Exact

variable {a b : Number} {x y : Binary64} {p q : Rat}

theorem exists_toReal (value : a.rational? = some p) :
    ∃ x, toReal exact a = .ok x ∧ x.rational? = some p := by
  cases a with
  | whole i => exact ⟨.finite i, rfl, value⟩
  | real x => exact ⟨x, rfl, value⟩

theorem rational?_product (one : x.rational? = some p) (other : y.rational? = some q) :
    (product exact x y).rational? = some (p * q) := by
  simp [product, Binary64.ne_notNumber one, Binary64.ne_notNumber other, one, other, exact]

theorem rational?_quotient (one : x.rational? = some p) (other : y.rational? = some q) :
    (quotient exact x y).rational? = some (p / q) := by
  simp [quotient, Binary64.ne_notNumber one, Binary64.ne_notNumber other, one, other, exact]

theorem exists_mul (one : a.rational? = some p) (other : b.rational? = some q) :
    ∃ c, mul exact a b = .ok c ∧ c.rational? = some (p * q) := by
  obtain ⟨x, first, value⟩ := exists_toReal one
  obtain ⟨y, second, value'⟩ := exists_toReal other
  have real : (Number.real (product exact x y)).rational? = some (p * q) :=
    rational?_product value value'
  have mixed : (do return .real (product exact (← toReal exact a) (← toReal exact b))) =
      (.ok (.real (product exact x y)) : Except Fault Number) := by
    simp only [first, second, bind, Except.bind, pure, Except.pure]
  match a, b with
  | .whole i, .whole j =>
    cases one
    cases other
    exact ⟨.whole (i * j), rfl, by simp [rational?]⟩
  | .real _, .real _ | .real _, .whole _ | .whole _, .real _ => exact ⟨_, mixed, real⟩

theorem exists_div (one : a.rational? = some p) (other : b.rational? = some q) (nonzero : q ≠ 0) :
    ∃ x, div exact a b = .ok x ∧ x.rational? = some (p / q) := by
  obtain ⟨x, first, value⟩ := exists_toReal one
  obtain ⟨y, second, value'⟩ := exists_toReal other
  have real := rational?_quotient value value'
  have divisible : y.isZero = false := by simpa [Binary64.isZero, value'] using nonzero
  have mixed : (do
      let x ← toReal exact a
      let y ← toReal exact b
      if y.isZero then .error .realDivisionByZero else .ok (quotient exact x y)) =
      (.ok (quotient exact x y) : Except Fault Binary64) := by
    simp [first, second, divisible, bind, Except.bind]
  match a, b with
  | .whole i, .whole j =>
    cases one
    cases other
    have nonzero : j ≠ 0 := by simpa using nonzero
    exact ⟨.finite (i / j), by simp [div, nonzero, exact], rfl⟩
  | .real _, .real _ | .real _, .whole _ | .whole _, .real _ => exact ⟨_, mixed, real⟩

theorem truncate_of_rational (value : a.rational? = some q) : a.truncate = .ok (truncated q) := by
  cases a with
  | whole i =>
    cases value
    simp [truncate, truncated]
  | real x =>
    cases x with
    | finite r =>
      cases value
      rw [truncate, Binary64.truncate_eq]
    | negativeZero =>
      cases value
      simp [truncate, truncated]
    | infinite | notNumber => cases value

theorem exists_nearest (value : x.rational? = some q) :
    ∃ n, nearest x = .ok n ∧ NearestEven q n := by
  cases x with
  | finite r =>
    cases value
    exact ⟨_, rfl, Binary64.nearestEven_nearest q⟩
  | negativeZero =>
    cases value
    exact ⟨0, rfl, .of_lt (by norm_num)⟩
  | infinite | notNumber => cases value

end Exact

end Number

/-- A wave of so many samples, the first half of every period high and the rest low. -/
def squareWave (height : Int) (period total : Nat) : List Int :=
  (List.range total).map fun i => if i % period < period / 2 then height else -height

/-- How many of its samples are high: those of the whole periods, and those of the last one. -/
def highs (period total : Nat) : Nat :=
  total / period * (period / 2) + min (total % period) (period / 2)

section Wave

variable {height : Int} {period total : Nat}

theorem highs_succ (positive : 0 < period) :
    highs period (total + 1) =
      highs period total + if total % period < period / 2 then 1 else 0 := by
  have small := Nat.mod_lt total positive
  have whole : (total + 1) / period = total / period + (total % period + 1) / period := by
    conv_lhs => rw [← Nat.div_add_mod total period, Nat.add_assoc, Nat.mul_add_div positive]
  have rest : (total + 1) % period = (total % period + 1) % period := (Nat.mod_add_mod ..).symm
  unfold highs
  rw [whole, rest]
  generalize total / period = waves
  generalize total % period = place at *
  obtain inside | full : place + 1 < period ∨ place + 1 = period := by omega
  · rw [Nat.div_eq_of_lt inside, Nat.mod_eq_of_lt inside, Nat.add_zero]
    split_ifs <;> omega
  · rw [full, Nat.div_self positive, Nat.mod_self, Nat.add_mul, Nat.one_mul]
    split_ifs <;> omega

theorem countP_range_mod (positive : 0 < period) :
    (List.range total).countP (fun i => i % period < period / 2) = highs period total := by
  induction total with
  | zero => simp [highs]
  | succ n ih =>
    rw [List.range_succ, List.countP_append, ih, List.countP_singleton, highs_succ positive]
    simp

theorem sum_map_signed {α : Type} (high : α → Bool) (height : Int) (places : List α) :
    (places.map fun a => if high a then height else -height).sum =
      height * (2 * places.countP high - places.length) := by
  induction places with
  | nil => simp
  | cons a rest ih =>
    rw [List.map_cons, List.sum_cons, ih, List.countP_cons, List.length_cons]
    cases high a <;> push_cast <;> simp <;> ring

@[simp] theorem length_squareWave : (squareWave height period total).length = total := by
  simp [squareWave]

theorem getElem?_squareWave {i : Nat} (inside : i < total) :
    (squareWave height period total)[i]? =
      some (if i % period < period / 2 then height else -height) := by
  simp [squareWave, inside]

theorem sum_squareWave (positive : 0 < period) :
    (squareWave height period total).sum = height * (2 * highs period total - total) := by
  have summed := sum_map_signed (fun i => decide (i % period < period / 2)) height
    (List.range total)
  rw [countP_range_mod positive, List.length_range] at summed
  simpa [squareWave] using summed

theorem count_squareWave (positive : 0 < period) (high : 0 < height) :
    (squareWave height period total).count height = highs period total := by
  have apart : -height ≠ height := by omega
  rw [← countP_range_mod positive, squareWave, List.count, List.countP_map]
  refine List.countP_congr fun i _ => ?_
  by_cases early : i % period < period / 2 <;> simp [early, apart]

theorem high_mem_squareWave (long : 2 ≤ period) (whole : period ≤ total) :
    height ∈ squareWave height period total := by
  have first : 0 < period / 2 := by omega
  exact List.mem_map.2 ⟨0, List.mem_range.2 (by omega), if_pos (by simpa using first)⟩

theorem low_mem_squareWave (long : 2 ≤ period) (whole : period ≤ total) :
    -height ∈ squareWave height period total := by
  have inside : period / 2 < period := by omega
  refine List.mem_map.2 ⟨period / 2, List.mem_range.2 (by omega), if_neg ?_⟩
  rw [Nat.mod_eq_of_lt inside]
  exact lt_irrefl _

theorem sum_squareWave_eq_zero (positive : 0 < period) (even : Even period)
    (whole : period ∣ total) : (squareWave height period total).sum = 0 := by
  obtain ⟨half, rfl⟩ := even
  obtain ⟨waves, rfl⟩ := whole
  have doubled : (half + half) / 2 = half := by omega
  rw [sum_squareWave positive, highs, Nat.mul_mod_right, Nat.mul_div_cancel_left _ positive,
    doubled, Nat.zero_min]
  push_cast
  ring

end Wave

namespace Tone

/-- A tone with these rationals as its rate, frequency, duration and volume. -/
structure Measures (t : Tone) (r f d v : Rat) : Prop where
  rate : t.rate.rational? = some r
  frequency : t.frequency.rational? = some f
  duration : t.duration.rational? = some d
  volume : t.volume.rational? = some v
  heard : f ≠ 0
  quiet : |v| ≤ 1

section Samples

variable {t : Tone} {r f d v : Rat} (measures : t.Measures r f d v)
include measures

theorem Measures.amplitude : t.amplitude Number.exact = .ok (truncated (v * 32767)) := by
  have top : (Number.whole 32767).rational? = some 32767 := rfl
  obtain ⟨product, multiplied, value⟩ := Number.exists_mul measures.volume top
  simp [Tone.amplitude, multiplied, Number.truncate_of_rational value, bind, Except.bind]

theorem Measures.abs_amplitude_le : |truncated (v * 32767)| ≤ 32767 := by
  refine abs_truncated_le ?_
  have bounded := mul_le_mul_of_nonneg_right measures.quiet (by norm_num : (0 : Rat) ≤ 32767)
  rw [abs_mul, abs_of_pos (by norm_num : (0 : Rat) < 32767)]
  simpa using bounded

theorem Measures.period :
    ∃ n, NearestEven (r / f) n ∧ t.period Number.exact = .ok (max 2 n) := by
  obtain ⟨x, divided, value⟩ := Number.exists_div measures.rate measures.frequency measures.heard
  obtain ⟨n, rounded, nearest⟩ := Number.exists_nearest value
  exact ⟨n, nearest, by simp [Tone.period, divided, rounded, bind, Except.bind, pure, Except.pure]⟩

theorem Measures.total (period : Int) :
    t.total Number.exact period = .ok (max period (truncated (r * d))) := by
  obtain ⟨product, multiplied, value⟩ := Number.exists_mul measures.rate measures.duration
  simp [Tone.total, multiplied, Number.truncate_of_rational value, bind, Except.bind, pure,
    Except.pure]

omit measures in
theorem mapM_store {height : Int} (small : |height| ≤ 32767) (period total : Nat) :
    (List.range total).mapM (fun i => store (sample height period i)) =
      .ok (squareWave height period total) := by
  obtain ⟨low, high⟩ := abs_le.1 small
  have stored : (fun i => store (sample height period i)) =
      fun i => (pure (if i % period < period / 2 then height else -height) : Except Fault Int) := by
    funext i
    have place : ((i : Int) % period < period / 2) ↔ i % period < period / 2 := by norm_cast
    unfold sample store
    simp only [place]
    by_cases early : i % period < period / 2
    · rw [if_pos early, if_neg (by omega), if_neg (by omega), if_neg (by omega)]
      rfl
    · rw [if_neg early, if_neg (by omega), if_neg (by omega), if_neg (by omega)]
      rfl
  rw [stored, List.mapM_pure]
  rfl

omit measures in
theorem allot_eq (room total : Nat) :
    allot room total =
      if 0x8000000000000000 ≤ total then .error .tooMany
      else if room < total then .error .noRoom
      else .ok total := by
  unfold allot
  norm_cast

theorem Measures.samples :
    ∃ (n : Int) (period total : Nat), NearestEven (r / f) n ∧ (period : Int) = max 2 n ∧
      (total : Int) = max (period : Int) (truncated (r * d)) ∧
      ∀ room, t.samples Number.exact room =
        if 0x8000000000000000 ≤ total then .error .tooMany
        else if room < total then .error .noRoom
        else .ok (squareWave (truncated (v * 32767)) period total) := by
  obtain ⟨n, nearest, known⟩ := measures.period
  obtain ⟨period, long⟩ := Int.eq_ofNat_of_zero_le (a := max 2 n) (by omega)
  have all := measures.total period
  obtain ⟨total, many⟩ :=
    Int.eq_ofNat_of_zero_le (a := max (period : Int) (truncated (r * d))) (by omega)
  refine ⟨n, period, total, nearest, long.symm, many.symm, fun room => ?_⟩
  rw [long] at known
  rw [many] at all
  simp only [Tone.samples, measures.amplitude, known, all, Except.mapError, bind, Except.bind,
    allot_eq]
  split_ifs
  · rfl
  · rfl
  · exact mapM_store measures.abs_amplitude_le period total

/-- With exact arithmetic a tone becomes a square wave of `total` samples, as long as memory has
room for them and a list can have so many: `period` of them make a wave, and none is higher than its
height or lower than minus that. -/
theorem samples_form_square_wave :
    ∃ (n : Int) (period total : Nat), NearestEven (r / f) n ∧ (period : Int) = max 2 n ∧
      (total : Int) = max (period : Int) (truncated (r * d)) ∧
      let height := truncated (v * 32767)
      ∀ room : Nat,
      (0x8000000000000000 ≤ total → t.samples Number.exact room = .error .tooMany) ∧
      (room < total → total < 0x8000000000000000 →
        t.samples Number.exact room = .error .noRoom) ∧
      (total ≤ room → total < 0x8000000000000000 →
        ∃ samples, t.samples Number.exact room = .ok samples ∧ samples.length = total ∧
        (∀ i < total,
          samples[i]? = some (if i % period < period / 2 then height else -height)) ∧
        (∀ i, i + period < total → samples[i + period]? = samples[i]?) ∧
        height ∈ samples ∧ -height ∈ samples ∧ (∀ s ∈ samples, -32767 ≤ s ∧ s ≤ 32767) ∧
        (0 < height → samples.count height = highs period total) ∧
        samples.sum = height * (2 * highs period total - total) ∧
        (Even period → period ∣ total → samples.sum = 0)) := by
  obtain ⟨n, period, total, nearest, wave, all, known⟩ := measures.samples
  have long : 2 ≤ period := by omega
  have whole : period ≤ total := by omega
  have positive : 0 < period := by omega
  have small := measures.abs_amplitude_le
  generalize truncated (v * 32767) = height at *
  refine ⟨n, period, total, nearest, wave, all, fun room => ?_⟩
  have known := known room
  refine ⟨fun many => ?_, fun many fewer => ?_, fun fits fewer => ?_⟩
  · rw [known, if_pos many]
  · rw [known, if_neg (by omega), if_pos many]
  · rw [if_neg (by omega), if_neg (by omega)] at known
    refine ⟨_, known, length_squareWave, fun i inside => getElem?_squareWave inside, ?_,
      high_mem_squareWave long whole, low_mem_squareWave long whole, ?_,
      count_squareWave positive, sum_squareWave positive, sum_squareWave_eq_zero positive⟩
    · intro i inside
      rw [getElem?_squareWave inside, getElem?_squareWave (by omega), Nat.add_mod_right]
    · intro s member
      obtain ⟨low, high⟩ := abs_le.1 small
      obtain ⟨i, _, rfl⟩ := List.mem_map.1 member
      split_ifs <;> omega

end Samples

/-- Seven samples in waves of three and a half, of which four is the even neighbour. -/
def brief : Tone := ⟨.whole 7, .whole 2, .whole 1, .real (.finite (1 / 2))⟩

theorem measures_brief : brief.Measures 7 2 1 (1 / 2) :=
  ⟨rfl, rfl, rfl, rfl, by norm_num, by norm_num [abs_of_pos]⟩

theorem brief_ends_high :
    ∃ samples, brief.samples Number.exact 7 = .ok samples ∧ samples.length = 7 ∧
      samples.count 16383 = 4 ∧ samples.sum = 16383 := by
  obtain ⟨n, period, total, nearest, wave, all, rooms⟩ := samples_form_square_wave measures_brief
  have even : NearestEven (7 / 2) 4 := .of_tie (by norm_num [abs_of_neg]) (by decide)
  have cut : truncated (7 * 1) = 7 := by norm_num [truncated]
  have height : truncated (1 / 2 * 32767) = 16383 := by norm_num [truncated]
  obtain rfl : n = 4 := nearest.unique even
  obtain rfl : period = 4 := by exact_mod_cast wave
  rw [cut] at all
  obtain rfl : total = 7 := by exact_mod_cast all
  obtain ⟨_, _, fits⟩ := rooms 7
  obtain ⟨samples, known, length, _, _, _, _, _, count, sum, _⟩ := fits (by decide) (by decide)
  rw [height] at count sum
  exact ⟨samples, known, length, count (by decide), sum⟩

def endless : Tone := ⟨.whole (2 ^ 63), .whole 1, .whole 1, .whole 1⟩

theorem endless_has_no_samples :
    (endless.Measures (2 ^ 63) 1 1 1 ∧
      ∀ room, endless.samples Number.exact room = .error .tooMany) ∧
    brief.Measures 7 2 1 (1 / 2) ∧ brief.samples Number.exact 6 = .error .noRoom := by
  have measures : endless.Measures (2 ^ 63) 1 1 1 :=
    ⟨by norm_num [endless, Number.rational?], rfl, rfl, rfl, by norm_num, by norm_num⟩
  obtain ⟨_, _, total, _, _, all, known⟩ := measures.samples
  have cut : truncated (2 ^ 63 * 1) = 2 ^ 63 := by norm_num [truncated]
  have long : 0x8000000000000000 ≤ total := by omega
  refine ⟨⟨measures, fun room => by rw [known, if_pos long]⟩, measures_brief, ?_⟩
  decide +kernel

end Tone

end Chip8
