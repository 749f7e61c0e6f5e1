import Safeguard.Config.Validation
import Safeguard.Proofs.Numeric.Duration
import Safeguard.Proofs.Retry.LastAttempt

/-!
# The bound of the waits

A policy bounds its waits, then shifts them by up to a quarter. Whether a wait is still within the
bound is told by `Retry.waits_bounded_iff`: exactly if it is with the largest draw, and, for a bound
of whole milliseconds up to a week, exactly if nothing is shifted or a quarter more is within it.

Every step of the computation is one on values followed by rounding, and rounding keeps the order.
So before the shift a wait is at most the bound as computed (`RetryPolicy.exponentialDelay_eq`), and
a larger draw makes no wait shorter (`shifted_mono`). How far the computed numbers are off is told
by the number of roundings: four for the bound (`capped_le`), seven for the longest shift
(`shifted_one_within`). Up to a week that is less than half a nanosecond, and what is computed is
the exact number of nanoseconds (`RetryPolicy.exponentialDelay_le_maxDelay`,
`applyJitter_one_le_iff`).
-/

namespace Safeguard

open Double

theorem div_lt_of_le_longest {d : ℕ} (le : d ≤ longestDuration) : d / 1000000000 < 2 ^ 64 := by
  rw [longestDuration] at le
  omega

/-! ## Milliseconds -/

/-- A duration in milliseconds, rounded as it is computed. -/
def roundedMillis (d : ℕ) : ℚ := nearest (seconds d * 1000)

theorem roundedMillis_nonneg (d : ℕ) : 0 ≤ roundedMillis d :=
  nearest_nonneg (mul_nonneg (seconds_nonneg d) (by norm_num))

/-- A multiple of a number of seconds is zero or not tiny. -/
theorem sizable_mul (d : ℕ) {c : ℚ} (one_le : 1 ≤ c) :
    (d : ℚ) / 1000000000 * c = 0 ∨ 2 ^ (-40 : ℤ) ≤ (d : ℚ) / 1000000000 * c := by
  rcases sizable_div d with zero | le
  · exact .inl (by rw [zero, zero_mul])
  · exact .inr (le.trans (le_mul_of_one_le_right ((two_zpow_pos _).le.trans le) one_le))

theorem roundedMillis_within (d : ℕ) :
    WithinRoundings 3 ((d : ℚ) / 1000000000 * 1000) (roundedMillis d) :=
  ((seconds_within d).mul_right (by norm_num)).nearest
    (sizable_mul d (by norm_num)) (by norm_num)

/-- A duration in milliseconds is finite, and the double computed for it has the value computed. -/
theorem millis_spec {d : ℕ} (le : d ≤ longestDuration) :
    (ofDuration d * 1000.0).isFinite = true ∧ value (ofDuration d * 1000.0) = roundedMillis d ∧
      |roundedMillis d| ≤ 2 ^ 75 := by
  obtain ⟨finite, value_eq, size⟩ := ofDuration_spec (div_lt_of_le_longest le)
  have product_le : |seconds d * 1000| ≤ 2 ^ 75 := by
    rw [abs_mul]
    norm_num at size ⊢
    linarith
  have product : IsNearest (ofDuration d * 1000.0) (seconds d * 1000) := by
    rw [← value_eq, ← value_thousand]
    refine isNearest_mul finite rfl ?_
    rw [value_eq, value_thousand]
    exact lt_of_le_two_pow product_le (by norm_num)
  exact ⟨product.finite, product.value_eq, abs_nearest_le product_le⟩

/-- Milliseconds become a duration: those below zero the empty one. -/
theorem toDuration?_millis {x : Float} (finite : x.isFinite = true) (size : value x ≤ 2 ^ 80)
    (top : ℕ) :
    (toDuration? (atLeastZero x / 1000.0)).getD top =
      nanosOr top (nearest (max (value x) 0 / 1000)) := by
  have positive := isFinite_atLeastZero finite
  have quotient_le : |max (value x) 0 / 1000| ≤ 2 ^ 80 := by
    have nonneg : 0 ≤ max (value x) 0 := le_max_right _ _
    have le : max (value x) 0 ≤ 2 ^ 80 := max_le size (by norm_num)
    rw [abs_of_nonneg (by positivity)]
    linarith
  have quotient : IsNearest (atLeastZero x / 1000.0) (max (value x) 0 / 1000) := by
    rw [← value_atLeastZero finite, ← value_thousand]
    refine isNearest_div positive rfl (by rw [value_thousand]; norm_num) ?_
    rw [value_atLeastZero finite, value_thousand]
    exact lt_of_le_two_pow quotient_le (by norm_num)
  have nonneg : 0 ≤ value (atLeastZero x / 1000.0) := by
    rw [quotient.value_eq]
    exact nearest_nonneg (div_nonneg (le_max_right _ _) (by norm_num))
  rw [toDuration?_getD quotient.finite nonneg, quotient.value_eq]

/-! ## Before the shift -/

/-- What is not finite is not counted as less than the bound. -/
theorem capped_spec (delay : Float) {bound : Float} (finite : bound.isFinite = true) :
    (if delay.isFinite then lesser delay bound else bound).isFinite = true ∧
      value (if delay.isFinite then lesser delay bound else bound) ≤ value bound := by
  split
  · rename_i delay_finite
    exact ⟨isFinite_lesser delay_finite finite, value_lesser_le delay_finite finite⟩
  · exact ⟨finite, le_rfl⟩

namespace RetryPolicy

variable (p : RetryPolicy)

/-- Before the shift a wait is at most the bound, up to rounding. -/
theorem exponentialDelay_eq (duration : p.maxDelay ≤ longestDuration) (attempt : ℕ) :
    ∃ c, 0 ≤ c ∧ c ≤ roundedMillis p.maxDelay ∧
      p.exponentialDelay attempt = nanosOr p.maxDelay (nearest (c / 1000)) := by
  obtain ⟨finite, value_eq, size⟩ := millis_spec duration
  by_cases zero : attempt = 0
  · refine ⟨0, le_rfl, roundedMillis_nonneg _, ?_⟩
    rw [exponentialDelay, if_pos zero, zero_div, nearest_zero, nanosOr, if_pos (by norm_num),
      zero_mul, ← Int.cast_zero, halfEven_intCast]
    rfl
  · obtain ⟨capped_finite, capped_le⟩ := capped_spec (ofDuration p.baseDelay * 1000.0 *
      power p.multiplier (min (attempt - 1) largestExponent)) finite
    rw [exponentialDelay, if_neg zero]
    dsimp only
    generalize (if (ofDuration p.baseDelay * 1000.0 *
      power p.multiplier (min (attempt - 1) largestExponent)).isFinite then _ else _ : Float) =
        capped at capped_finite capped_le ⊢
    rw [value_eq] at capped_le
    have small : value capped ≤ 2 ^ 80 := by
      have := (le_abs_self _).trans size
      linarith
    exact ⟨max (value capped) 0, le_max_right _ _, max_le capped_le (roundedMillis_nonneg _),
      toDuration?_millis capped_finite small _⟩

theorem exponentialDelay_le_longest (duration : p.maxDelay ≤ longestDuration) (attempt : ℕ) :
    p.exponentialDelay attempt ≤ longestDuration := by
  obtain ⟨c, -, -, eq⟩ := p.exponentialDelay_eq duration attempt
  rw [eq]
  exact nanosOr_le_longest duration (representable_nearest _)

/-- The bound as it is computed, in seconds: four roundings away. -/
theorem capped_le (d : ℕ) {c : ℚ} (le : c ≤ roundedMillis d) :
    nearest (c / 1000) ≤ (d : ℚ) / 1000000000 * (1 + roundoff) ^ 4 := by
  have mono : nearest (c / 1000) ≤ nearest (roundedMillis d * (1 / 1000)) := by
    refine nearest_mono ?_
    linarith
  have computed : WithinRoundings 4 ((d : ℚ) / 1000000000 * 1000 * (1 / 1000))
      (nearest (roundedMillis d * (1 / 1000))) := by
    refine ((roundedMillis_within d).mul_right (by norm_num)).nearest ?_ (by norm_num)
    rw [mul_assoc, mul_one_div_cancel (by norm_num), mul_one]
    exact sizable_div d
  rw [mul_assoc _ (1000 : ℚ), mul_one_div_cancel (by norm_num), mul_one] at computed
  exact mono.trans computed.upper

/-- Before the shift a wait is longer than the bound by rounding only. -/
theorem exponentialDelay_le (duration : p.maxDelay ≤ longestDuration) (attempt : ℕ) :
    (p.exponentialDelay attempt : ℚ) ≤ p.maxDelay * (1 + roundoff) ^ 4 + 1 / 2 := by
  obtain ⟨c, nonneg, le, eq⟩ := p.exponentialDelay_eq duration attempt
  rw [eq]
  have seconds_le := capped_le p.maxDelay le
  have nanos := nanosOr_le duration
    (nearest_nonneg (div_nonneg nonneg (by norm_num : (0 : ℚ) ≤ 1000)))
  linarith

/-- Before the shift a wait is within the bound, if this is not more than a week. -/
theorem exponentialDelay_le_maxDelay (week : p.maxDelay ≤ 604800000000000) (attempt : ℕ) :
    p.exponentialDelay attempt ≤ p.maxDelay := by
  have duration : p.maxDelay ≤ longestDuration := week.trans (by decide)
  have le := p.exponentialDelay_le duration attempt
  have bound : (p.maxDelay : ℚ) ≤ 604800000000000 := by exact_mod_cast week
  have growth : (1 + roundoff) ^ 4 ≤ 1 + 5 * roundoff := by norm_num
  have scaled : (p.maxDelay : ℚ) * (1 + roundoff) ^ 4 ≤ p.maxDelay * (1 + 5 * roundoff) :=
    mul_le_mul_of_nonneg_left growth (Nat.cast_nonneg _)
  have lt : (p.exponentialDelay attempt : ℚ) < p.maxDelay + 1 := by
    rw [roundoff] at scaled
    linarith
  exact Nat.lt_succ_iff.1 (by exact_mod_cast lt)

end RetryPolicy

/-! ## The shift -/

/-- A shifted duration in seconds, rounded as it is computed. -/
def shifted (d : ℕ) (u : ℚ) : ℚ :=
  nearest (max (nearest (roundedMillis d + nearest (nearest (roundedMillis d * (1 / 4)) * u))) 0 /
    1000)

theorem shifted_nonneg (d : ℕ) (u : ℚ) : 0 ≤ shifted d u :=
  nearest_nonneg (div_nonneg (le_max_right _ _) (by norm_num))

/-- A larger draw makes no wait shorter. -/
theorem shifted_mono (d : ℕ) {u v : ℚ} (le : u ≤ v) : shifted d u ≤ shifted d v := by
  have quarter : 0 ≤ nearest (roundedMillis d * (1 / 4)) :=
    nearest_nonneg (mul_nonneg (roundedMillis_nonneg d) (by norm_num))
  have offset := nearest_mono (mul_le_mul_of_nonneg_left le quarter)
  have sum := nearest_mono (add_le_add_right offset (roundedMillis d))
  exact nearest_mono (div_le_div_of_nonneg_right (max_le_max_right 0 sum) (by norm_num))

theorem value_jitterFactor : value jitterFactor = 1 / 4 := by
  rw [value_of_unpack_eq .positive (2 ^ 52) (-54) (by decide) rfl]
  norm_num [unit]

theorem applyJitter_eq {d : ℕ} (le : d ≤ longestDuration) {draw : Float} (low : -1.0 ≤ draw)
    (high : draw ≤ 1.0) :
    applyJitter d draw = nanosOr longestDuration (shifted d (value draw)) := by
  obtain ⟨finite, value_eq, size⟩ := millis_spec le
  have draw_finite := isFinite_of_le_of_le rfl rfl low high
  have draw_le : |value draw| ≤ 1 := by
    rw [le_iff_value rfl draw_finite, value_neg_one] at low
    rw [le_iff_value draw_finite rfl, value_one] at high
    exact abs_le.2 ⟨low, high⟩
  have quarter_le : |roundedMillis d * (1 / 4)| ≤ 2 ^ 75 := by
    rw [abs_mul]
    norm_num at size ⊢
    linarith
  have quarter : IsNearest (ofDuration d * 1000.0 * jitterFactor) (roundedMillis d * (1 / 4)) := by
    rw [← value_eq, ← value_jitterFactor]
    refine isNearest_mul finite rfl ?_
    rw [value_eq, value_jitterFactor]
    exact lt_of_le_two_pow quarter_le (by norm_num)
  have offset_le : |nearest (roundedMillis d * (1 / 4)) * value draw| ≤ 2 ^ 75 := by
    rw [abs_mul]
    calc _ ≤ (2 : ℚ) ^ 75 * 1 :=
          mul_le_mul (abs_nearest_le quarter_le) draw_le (abs_nonneg _) (by positivity)
      _ = 2 ^ 75 := mul_one _
  have offset : IsNearest (ofDuration d * 1000.0 * jitterFactor * draw)
      (nearest (roundedMillis d * (1 / 4)) * value draw) := by
    rw [← quarter.value_eq]
    refine isNearest_mul quarter.finite draw_finite ?_
    rw [quarter.value_eq]
    exact lt_of_le_two_pow offset_le (by norm_num)
  have sum_le : |roundedMillis d + nearest (nearest (roundedMillis d * (1 / 4)) * value draw)| ≤
      2 ^ 76 := by
    refine (abs_add_le _ _).trans ?_
    linarith [abs_nearest_le offset_le]
  have sum : IsNearest (ofDuration d * 1000.0 + ofDuration d * 1000.0 * jitterFactor * draw)
      (roundedMillis d + nearest (nearest (roundedMillis d * (1 / 4)) * value draw)) := by
    rw [← offset.value_eq, ← value_eq]
    refine isNearest_add finite offset.finite ?_
    rw [value_eq, offset.value_eq]
    exact lt_of_le_two_pow sum_le (by norm_num)
  have small : value (ofDuration d * 1000.0 + ofDuration d * 1000.0 * jitterFactor * draw) ≤
      2 ^ 80 := by
    have := (le_abs_self _).trans (sum.abs_value_le sum_le)
    linarith
  rw [applyJitter, toUnit_eq low high, toDuration?_millis sum.finite small, sum.value_eq]
  rfl

/-- The longest shift is computed with seven roundings. -/
theorem shifted_one_within (d : ℕ) :
    WithinRoundings 7 ((d : ℚ) / 1000000000 * (5 / 4)) (shifted d 1) := by
  have millis := roundedMillis_within d
  have quarter := millis.mul_right (by norm_num : (0 : ℚ) ≤ 1 / 4)
  rw [mul_assoc] at quarter
  have rounded_quarter := quarter.nearest (sizable_mul d (by norm_num)) (by norm_num)
  have offset := rounded_quarter.nearest (sizable_mul d (by norm_num)) (by norm_num)
  have sum := (millis.mono (by positivity) (by norm_num)).add offset
  rw [← mul_add] at sum
  have rounded_sum := sum.nearest (sizable_mul d (by norm_num)) (by norm_num)
  have shift := rounded_sum.mul_right (by norm_num : (0 : ℚ) ≤ 1 / 1000)
  rw [mul_assoc] at shift
  have rounded_shift := shift.nearest (sizable_mul d (by norm_num)) (by norm_num)
  have share : ((1000 + 1000 * (1 / 4)) * (1 / 1000) : ℚ) = 5 / 4 := by norm_num
  have nonneg : 0 ≤ nearest (roundedMillis d + nearest (nearest (roundedMillis d * (1 / 4)))) :=
    nearest_nonneg (add_nonneg (roundedMillis_nonneg d) (nearest_nonneg (nearest_nonneg
      (mul_nonneg (roundedMillis_nonneg d) (by norm_num)))))
  rw [share] at rounded_shift
  rwa [shifted, mul_one, max_eq_left nonneg, div_eq_mul_one_div _ (1000 : ℚ)]

/-- With the largest draw a wait is at most a quarter longer, up to rounding. -/
theorem applyJitter_one_le {d : ℕ} (le : d ≤ longestDuration) :
    (applyJitter d 1.0 : ℚ) ≤ d * (5 / 4) * (1 + roundoff) ^ 7 + 1 / 2 := by
  rw [applyJitter_eq le (by decide) (by decide), value_one]
  have nanos := nanosOr_le le_rfl (shifted_nonneg d 1)
  have upper := (shifted_one_within d).upper
  linarith

/-- With the largest draw a wait is at least a quarter longer, up to rounding, if it is not more
than a week. -/
theorem le_applyJitter_one {d : ℕ} (week : d ≤ 604800000000000) :
    (d : ℚ) * (5 / 4) * (1 - roundoff) ^ 7 - 1 / 2 ≤ applyJitter d 1.0 := by
  obtain ⟨lower, upper⟩ := shifted_one_within d
  have bound : (d : ℚ) ≤ 604800000000000 := by exact_mod_cast week
  have growth : (1 + roundoff) ^ 7 ≤ 2 := by norm_num
  have small : shifted d 1 < 2 ^ 64 := by
    have scaled := mul_le_mul_of_nonneg_left growth
      (by positivity : 0 ≤ (d : ℚ) / 1000000000 * (5 / 4))
    linarith
  have near := (abs_le.1 (abs_nanosOr_sub_le longestDuration (shifted_nonneg d 1) small)).1
  rw [applyJitter_eq (week.trans (by decide)) (by decide) (by decide), value_one]
  linarith

/-- Up to a week it can be told exactly whether a quarter more is within a bound. -/
theorem applyJitter_one_le_iff {d bound : ℕ} (le : d ≤ bound) (week : bound ≤ 604800000000000)
    (five : 5 ∣ bound) : applyJitter d 1.0 ≤ bound ↔ 5 * d ≤ 4 * bound := by
  have cast_le : (d : ℚ) ≤ 604800000000000 := by exact_mod_cast le.trans week
  have cast_bound_le : (bound : ℚ) ≤ 604800000000000 := by exact_mod_cast week
  have upper := applyJitter_one_le (le.trans (week.trans (by decide)))
  have lower := le_applyJitter_one (le.trans week)
  constructor
  · intro within
    by_contra beyond
    -- the bound is divisible by 5, so a quarter more is beyond it by one and a quarter
    have more : 4 * bound + 5 ≤ 5 * d := by omega
    have cast_more : 4 * (bound : ℚ) + 5 ≤ 5 * d := by exact_mod_cast more
    have loss : (d : ℚ) * (1 - 7 * roundoff) ≤ d * (1 - roundoff) ^ 7 :=
      mul_le_mul_of_nonneg_left (by norm_num) (Nat.cast_nonneg d)
    have cast_within : (applyJitter d 1.0 : ℚ) ≤ bound := by exact_mod_cast within
    rw [roundoff] at loss
    linarith
  · intro within
    have cast_within : 5 * (d : ℚ) ≤ 4 * bound := by exact_mod_cast within
    have gain : (d : ℚ) * (1 + roundoff) ^ 7 ≤ d * (1 + 37 / 5 * roundoff) :=
      mul_le_mul_of_nonneg_left (by norm_num) (Nat.cast_nonneg d)
    have lt : (applyJitter d 1.0 : ℚ) < bound + 1 := by
      rw [roundoff] at gain
      linarith
    exact Nat.lt_succ_iff.1 (by exact_mod_cast lt)

namespace RetryPolicy

variable (p : RetryPolicy)

/-- Every wait after an attempt is within the bound of the policy, whatever is drawn. -/
def BoundsWait (attempt : ℕ) : Prop :=
  ∀ draw : Float, -1.0 ≤ draw → draw ≤ 1.0 → p.backoff attempt draw ≤ p.maxDelay

variable {p}

/-- A larger draw makes no wait shorter, so the largest one makes the longest wait. -/
theorem backoff_le_backoff_one (duration : p.maxDelay ≤ longestDuration) (attempt : ℕ)
    {draw : Float} (low : -1.0 ≤ draw) (high : draw ≤ 1.0) :
    p.backoff attempt draw ≤ p.backoff attempt 1.0 := by
  have le := p.exponentialDelay_le_longest duration attempt
  have draw_finite := isFinite_of_le_of_le rfl rfl low high
  have draw_le : value draw ≤ 1 := by
    rwa [le_iff_value draw_finite rfl, value_one] at high
  unfold backoff
  dsimp only
  split
  · rw [applyJitter_eq le low high, applyJitter_eq le (by decide) (by decide), value_one]
    exact nanosOr_mono (representable_nearest _) (shifted_mono _ draw_le)
  · exact le_rfl

theorem boundsWait_iff (duration : p.maxDelay ≤ longestDuration) (attempt : ℕ) :
    p.BoundsWait attempt ↔ p.backoff attempt 1.0 ≤ p.maxDelay :=
  ⟨fun bounds => bounds 1.0 (by decide) (by decide),
    fun le _ low high => (backoff_le_backoff_one duration attempt low high).trans le⟩

/-- With the largest draw a wait is at most a quarter longer than before the shift, up to
rounding. -/
theorem backoff_one_le (duration : p.maxDelay ≤ longestDuration) (attempt : ℕ) :
    (p.backoff attempt 1.0 : ℚ) ≤
      p.exponentialDelay attempt * (5 / 4) * (1 + roundoff) ^ 7 + 1 / 2 := by
  unfold backoff
  dsimp only
  split
  · exact applyJitter_one_le (p.exponentialDelay_le_longest duration attempt)
  · have growth : (1 : ℚ) ≤ 5 / 4 * (1 + roundoff) ^ 7 := by norm_num
    have scaled := le_mul_of_one_le_right
      (Nat.cast_nonneg (α := ℚ) (p.exponentialDelay attempt)) growth
    linarith

/-- No wait is longer than the bound by more than a quarter, up to rounding. -/
theorem backoff_le (duration : p.maxDelay ≤ longestDuration) (attempt : ℕ) {draw : Float}
    (low : -1.0 ≤ draw) (high : draw ≤ 1.0) :
    4 * p.backoff attempt draw ≤ 5 * p.maxDelay + p.maxDelay / 2 ^ 47 + 5 := by
  have seven : (1 + roundoff) ^ 7 ≤ 6 / 5 := by norm_num
  have eleven : (1 + roundoff) ^ 4 * (1 + roundoff) ^ 7 ≤ 1 + 1 / (5 * 2 ^ 47) := by norm_num
  have largest : (p.backoff attempt 1.0 : ℚ) * 4 ≤ 5 * p.maxDelay + p.maxDelay / 2 ^ 47 + 5 :=
    calc (p.backoff attempt 1.0 : ℚ) * 4
        ≤ p.exponentialDelay attempt * (5 * (1 + roundoff) ^ 7) + 2 := by
          linarith [backoff_one_le duration attempt]
      _ ≤ (p.maxDelay * (1 + roundoff) ^ 4 + 1 / 2) * (5 * (1 + roundoff) ^ 7) + 2 :=
          add_le_add_left (mul_le_mul_of_nonneg_right (p.exponentialDelay_le duration attempt)
            (by norm_num)) 2
      _ = 5 * (p.maxDelay * ((1 + roundoff) ^ 4 * (1 + roundoff) ^ 7)) +
            5 / 2 * (1 + roundoff) ^ 7 + 2 := by ring
      _ ≤ 5 * (p.maxDelay * (1 + 1 / (5 * 2 ^ 47))) + 5 / 2 * (6 / 5) + 2 := by
          have scaled := mul_le_mul_of_nonneg_left eleven (Nat.cast_nonneg (α := ℚ) p.maxDelay)
          linarith
      _ = 5 * p.maxDelay + p.maxDelay / 2 ^ 47 + 5 := by ring
  have le := backoff_le_backoff_one duration attempt low high
  have whole : p.backoff attempt 1.0 * 4 * 2 ^ 47 ≤
      5 * p.maxDelay * 2 ^ 47 + p.maxDelay + 5 * 2 ^ 47 := by
    have scaled := mul_le_mul_of_nonneg_right largest (by norm_num : (0 : ℚ) ≤ 2 ^ 47)
    rw [add_mul, add_mul, div_mul_cancel₀ _ (by norm_num)] at scaled
    exact_mod_cast scaled
  omega

/-- Up to a week the waits are within the bound if nothing is shifted, or if a quarter more is
within the bound. -/
theorem boundsWait_iff_of_week {millis : UInt64} (whole : p.maxDelay = ofMillis millis)
    (week : millis.toNat ≤ 604800000) (attempt : ℕ) :
    p.BoundsWait attempt ↔
      (p.jitter = true → 5 * p.exponentialDelay attempt ≤ 4 * p.maxDelay) := by
  have bound_le : p.maxDelay ≤ 604800000000000 := by
    rw [whole, ofMillis]
    omega
  have duration : p.maxDelay ≤ longestDuration := bound_le.trans (by decide)
  have delay_le := p.exponentialDelay_le_maxDelay bound_le attempt
  rw [boundsWait_iff duration]
  cases jitter : p.jitter with
  | false =>
    have unshifted : p.backoff attempt 1.0 = p.exponentialDelay attempt := by
      rw [backoff, jitter]
      rfl
    rw [unshifted]
    exact iff_of_true delay_le fun shifted => absurd shifted Bool.false_ne_true
  | true =>
    have shifted : p.backoff attempt 1.0 = applyJitter (p.exponentialDelay attempt) 1.0 := by
      rw [backoff, jitter]
      rfl
    have five : 5 ∣ p.maxDelay := by
      rw [whole, ofMillis]
      exact Dvd.dvd.mul_left (by norm_num) _
    rw [shifted, applyJitter_one_le_iff delay_le bound_le five]
    exact ⟨fun le _ => le, fun le => le rfl⟩

end RetryPolicy

namespace Retry

/-! ## The waits of a run -/

variable {α : Type} (r : Retry)

/-- Between two attempts a run waits once: for the wait of its policy, which it announces. -/
theorem waits_run (script : Script α) (begun : ℕ) :
    let run := r.run script begun
    (Notice.told some run.notices).length + 1 = run.invocations.length ∧
      ∀ k, k + 1 < run.invocations.length → ∃ t error,
        run.invocations[k]? = some t ∧ (script k).reply = .error error ∧
        (Notice.told some run.notices)[k]? =
          some ((script k).finish t, .retryScheduled (k + 1) (r.delay (k + 1)) error) ∧
        run.invocations[k + 1]? = some (due ((script k).finish t) (r.delay (k + 1))) := by
  intro run
  obtain ⟨m, -, -, course⟩ := r.exists_course script begun
  have invocations : run.invocations = (List.range (m + 1)).map (r.begins script begun) := by
    rw [course.invocations, List.range_eq_range', Nat.sub_zero]
  have length : run.invocations.length = m + 1 := by
    rw [invocations, List.length_map, List.length_range]
  have announced : (Notice.told some run.notices).length = m := course.announced_length
  refine ⟨by omega, fun k lt => ?_⟩
  obtain ⟨error, reply, found⟩ := course.announced k (by omega)
  rw [Nat.zero_add] at reply found
  refine ⟨r.begins script begun k, error, ?_, reply, found, ?_⟩
  · rw [invocations, List.getElem?_map, List.getElem?_range (by omega)]
    rfl
  · rw [invocations, List.getElem?_map, List.getElem?_range (by omega)]
    rfl

/-- A wait bounded by a number of milliseconds of 64 bits can be added to what has passed since the
first attempt. -/
theorem not_overflows_of_millis {ε : Type} (r : Retry ε) (script : Script α ε) (begun : ℕ)
    {millis : UInt64} (whole : r.policy.maxDelay = ofMillis millis) {i : ℕ} (low : -1.0 ≤ r.draw i)
    (high : r.draw i ≤ 1.0)
    (passed : r.ends script begun (i - 1) - begun < 2 ^ 63 * 1000000000) :
    ¬r.Overflows script begun i := by
  have millis_lt : millis.toNat < 2 ^ 64 := millis.toNat_lt
  have duration : r.policy.maxDelay ≤ longestDuration := by
    rw [whole, ofMillis, longestDuration]
    omega
  have wait : 4 * r.delay i ≤ _ := RetryPolicy.backoff_le duration i low high
  rw [whole, ofMillis] at wait
  have sum : r.ends script begun (i - 1) - begun + r.delay i ≤ longestDuration := by
    rw [longestDuration]
    omega
  rintro ⟨error, -, overflow⟩
  exact Nat.not_lt.2 sum (verdict_eq_overflow_iff.1 overflow).2.2.2

/-! ## The bound -/

/-- **When waits are within their bound.** Between two attempts a run waits for what its policy
gives for the draw, and for nothing else. After an attempt this is within the bound for every draw
exactly if it is for the largest. With a bound of whole milliseconds up to a week the wait before
the shift is always within it, and what is waited is for every draw exactly if nothing is shifted or
a quarter more is still within it. And no wait is beyond its bound by more than a quarter, up to
rounding. -/
theorem waits_bounded_iff (r : Retry) (duration : r.policy.maxDelay ≤ longestDuration) :
    (∀ (script : Script α) (begun : ℕ),
      let run := r.run script begun
      (Notice.told some run.notices).length + 1 = run.invocations.length ∧
        ∀ k, k + 1 < run.invocations.length → ∃ t error,
          run.invocations[k]? = some t ∧ (script k).reply = .error error ∧
          (Notice.told some run.notices)[k]? = some ((script k).finish t,
            .retryScheduled (k + 1) (r.policy.backoff (k + 1) (r.draw (k + 1))) error) ∧
          run.invocations[k + 1]? = some
            (due ((script k).finish t) (r.policy.backoff (k + 1) (r.draw (k + 1))))) ∧
    (∀ attempt, r.policy.BoundsWait attempt ↔
      r.policy.backoff attempt 1.0 ≤ r.policy.maxDelay) ∧
    (∀ millis, r.policy.maxDelay = ofMillis millis → millis.toNat ≤ 604800000 → ∀ attempt,
      r.policy.exponentialDelay attempt ≤ r.policy.maxDelay ∧
        (r.policy.BoundsWait attempt ↔ (r.policy.jitter = true →
          5 * r.policy.exponentialDelay attempt ≤ 4 * r.policy.maxDelay))) ∧
    ∀ attempt draw, -1.0 ≤ draw → draw ≤ 1.0 →
      4 * r.policy.backoff attempt draw ≤
        5 * r.policy.maxDelay + r.policy.maxDelay / 2 ^ 47 + 5 := by
  refine ⟨fun script begun => r.waits_run script begun,
    RetryPolicy.boundsWait_iff duration, fun millis whole week attempt => ⟨?_, ?_⟩,
    fun attempt draw low high => RetryPolicy.backoff_le duration attempt low high⟩
  · refine r.policy.exponentialDelay_le_maxDelay ?_ attempt
    rw [whole, ofMillis]
    omega
  · exact RetryPolicy.boundsWait_iff_of_week whole week attempt

/-- The default policy shifts its waits. Its first wait of one second is within the bound of half a
minute even when shifted; the sixth is the bound itself, and may be shifted beyond it. -/
theorem waits_bounded_iff_of_default_policy :
    let r : Retry := .ofPolicy {} fun _ => 1.0
    r.policy.maxDelay ≤ longestDuration ∧ r.policy.Valid ∧
      r.policy.BoundsWait 1 ∧ ¬r.policy.BoundsWait 6 := by
  intro r
  obtain ⟨-, -, up_to_week, -⟩ := waits_bounded_iff (α := Unit) r (by decide)
  have bounds := fun attempt => (up_to_week 30000 rfl (by decide) attempt).2
  refine ⟨by decide, by decide, (bounds 1).2 fun _ => by decide +kernel, fun within => ?_⟩
  exact absurd ((bounds 6).1 within rfl) (by decide +kernel)

/-- The bound is one second, as is the first wait, which the largest draw shifts to one and a
quarter seconds. A bound of very many milliseconds is exceeded even without a shift: no double is
equal to it, and the nearest is greater. -/
theorem wait_beyond_bound :
    let shifting : RetryPolicy := { baseDelay := ofMillis 1000, maxDelay := ofMillis 1000 }
    let steady : RetryPolicy :=
      { baseDelay := ofMillis 18446744073709551615, maxDelay := ofMillis 18446744073709551615
        jitter := false }
    let script : Script Unit := fun _ => { reply := .error "timed out" }
    ({ retries := shifting } : Configuration).problems = [] ∧
      shifting.maxDelay = 1000000000 ∧ shifting.backoff 1 1.0 = 1250000000 ∧
      ((Retry.ofPolicy shifting fun _ => 1.0).run script 0).invocations =
        [0, 1250000000, 2500000000] ∧
      ({ retries := steady } : Configuration).problems = [] ∧
      steady.maxDelay = 18446744073709551615000000 ∧
      steady.backoff 1 0.0 = 18446744073709552000000000 := by
  decide +kernel

end Retry

end Safeguard
