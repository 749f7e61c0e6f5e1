import Safeguard.Numeric.Double
import Safeguard.Proofs.Numeric.Arithmetic
import Safeguard.Time.Basic

/-!
# The values of durations

A duration in seconds is a double near the exact number of seconds (`isNearest_ofDuration`), and the
way back takes the nearest whole number of nanoseconds (`toDuration?_eq`). The choices among
doubles on the way are the ones among their values: the lesser of two numbers (`value_lesser_le`),
a number or 0 (`value_atLeastZero`), a number between -1 and 1 (`toUnit_eq`).
-/

namespace Safeguard.Double

open Float.Model Float.Model.UnpackedFloat

/-! ## Numbers that are written out -/

theorem value_of_unpack_eq {x : Float} (sign : Sign) (m : ℕ) (e : ℤ) (positive : 0 < m)
    (h : x.toModel.unpack = .finite sign m e positive) : value x = unit sign * (m * 2 ^ e) := by
  rw [value, h]
  rfl

theorem value_zero : value 0.0 = 0 := rfl

theorem value_one : value 1.0 = 1 := by
  rw [value_of_unpack_eq .positive (2 ^ 52) (-52) (by decide) rfl]
  norm_num [unit]

theorem value_neg_one : value (-1.0) = -1 := by
  rw [value_of_unpack_eq .negative (2 ^ 52) (-52) (by decide) rfl]
  norm_num [unit]

theorem value_thousand : value 1000.0 = 1000 := by
  rw [value_of_unpack_eq .positive (1000 * 2 ^ 43) (-43) (by decide) rfl]
  norm_num [unit]

theorem value_billion : value 1e9 = 1000000000 := by
  rw [value_of_unpack_eq .positive (1000000000 * 2 ^ 23) (-23) (by decide) rfl]
  norm_num [unit]

theorem value_two_pow_64 : value 18446744073709551616.0 = 2 ^ 64 := by
  rw [value_of_unpack_eq .positive (2 ^ 52) 12 (by decide) rfl]
  norm_num [unit]

/-! ## Choices -/

section Choices

variable {x y : Float}

/-- What is not below a finite double is a number, and not the least of all. -/
theorem unpack_of_le {low : Float} (finite : low.isFinite = true) (le : low ≤ x) :
    x.isFinite = true ∨ x.toModel.unpack = .infinity .positive := by
  have canonical := canonical_of_isFinite finite
  rw [le_iff] at le
  obtain ⟨o, compared, isLE⟩ := le
  change x.toModel.unpack.isFinite = true ∨ _
  revert compared canonical
  rcases low.toModel.unpack with _ | _ | _ | ⟨_ | _, _, _, _⟩ <;>
    rcases x.toModel.unpack with ⟨_ | _⟩ | _ | _ | _ <;> intro canonical compared <;>
    first
      | exact .inl rfl
      | exact .inr rfl
      | exact canonical.elim
      | (cases compared <;> cases isLE)

/-- What is not above a finite double is a number, and not the greatest of all. -/
theorem not_infinity_of_le {high : Float} (finite : high.isFinite = true) (le : x ≤ high) :
    x.toModel.unpack ≠ .infinity .positive := by
  have canonical := canonical_of_isFinite finite
  rw [le_iff] at le
  obtain ⟨o, compared, isLE⟩ := le
  intro infinite
  rw [infinite] at compared
  revert compared canonical
  rcases high.toModel.unpack with _ | _ | _ | _ <;> intro canonical compared
  case infinity | notANumber => exact canonical.elim
  case zero | finite =>
    cases compared
    cases isLE

/-- What is between two finite doubles is finite. -/
theorem isFinite_of_le_of_le {low high : Float} (low_finite : low.isFinite = true)
    (high_finite : high.isFinite = true) (low_le : low ≤ x) (le_high : x ≤ high) :
    x.isFinite = true :=
  (unpack_of_le low_finite low_le).resolve_right (not_infinity_of_le high_finite le_high)

theorem lesser_of_isFinite (hx : x.isFinite = true) (hy : y.isFinite = true) :
    lesser x y = if y < x then y else x := by
  rw [lesser, isNaN_eq_false_of_isFinite hx, isNaN_eq_false_of_isFinite hy]
  simp only [Bool.false_eq_true, if_false]

theorem isFinite_lesser (hx : x.isFinite = true) (hy : y.isFinite = true) :
    (lesser x y).isFinite = true := by
  rw [lesser_of_isFinite hx hy]
  split <;> assumption

theorem value_lesser_le (hx : x.isFinite = true) (hy : y.isFinite = true) :
    value (lesser x y) ≤ value y := by
  rw [lesser_of_isFinite hx hy]
  split
  · exact le_rfl
  · rename_i ge
    rw [lt_iff_value hy hx] at ge
    exact not_lt.1 ge

theorem isFinite_atLeastZero (hx : x.isFinite = true) : (atLeastZero x).isFinite = true := by
  unfold atLeastZero
  split
  · exact hx
  · rfl

theorem value_atLeastZero (hx : x.isFinite = true) : value (atLeastZero x) = max (value x) 0 := by
  unfold atLeastZero
  split
  · rename_i pos
    rw [lt_iff_value rfl hx, value_zero] at pos
    exact (max_eq_left pos.le).symm
  · rename_i not_pos
    rw [lt_iff_value rfl hx, value_zero] at not_pos
    exact (max_eq_right (not_lt.1 not_pos)).symm

theorem toUnit_eq (low : -1.0 ≤ x) (high : x ≤ 1.0) : toUnit x = x := by
  have finite := isFinite_of_le_of_le rfl rfl low high
  have not_below : ¬x < -1.0 := by
    rw [lt_iff_value finite rfl, not_lt]
    exact (le_iff_value rfl finite).1 low
  have not_above : ¬1.0 < x := by
    rw [lt_iff_value rfl finite, not_lt]
    exact (le_iff_value finite rfl).1 high
  rw [toUnit, if_neg not_below, if_neg not_above]

end Choices

/-! ## Sizes -/

theorem representable_two_pow (k : ℕ) : Representable (2 ^ k) :=
  ⟨1, k, by norm_num, by omega, by rw [Int.cast_one, one_mul, zpow_natCast]⟩

/-- Rounding does not go beyond a power of two. -/
theorem abs_nearest_le {x : ℚ} {k : ℕ} (le : |x| ≤ 2 ^ k) : |nearest x| ≤ 2 ^ k := by
  have top := (representable_two_pow k).nearest_eq
  have bottom := (representable_two_pow k).neg.nearest_eq
  have upper := nearest_mono (abs_le.1 le).2
  have lower := nearest_mono (abs_le.1 le).1
  rw [top] at upper
  rw [bottom] at lower
  exact abs_le.2 ⟨lower, upper⟩

/-- A number of few digits is far below the largest double. -/
theorem lt_of_le_two_pow {x : ℚ} {k : ℕ} (le : |x| ≤ 2 ^ k) (few : k < 1023) :
    |x| < 2 ^ (1023 : ℤ) := by
  refine le.trans_lt ?_
  rw [← zpow_natCast]
  exact zpow_lt_zpow_right₀ (by norm_num) (by exact_mod_cast few)

/-- The largest double below `2 ^ 64` is an integer. -/
theorem Representable.le_of_lt_two_pow {x : ℚ} (h : Representable x) (lt : x < 2 ^ 64) :
    x ≤ 2 ^ 64 - 1 := by
  obtain ⟨m, e, digits, -, rfl⟩ := h
  rcases le_or_gt e 0 with le | pos
  · have place : (2 : ℚ) ^ e ≤ 1 := zpow_le_one_of_nonpos₀ (by norm_num) le
    calc (m : ℚ) * 2 ^ e ≤ |(m : ℚ)| * 2 ^ e :=
          mul_le_mul_of_nonneg_right (le_abs_self _) (two_zpow_pos e).le
      _ ≤ 2 ^ 53 * 1 := by
          refine mul_le_mul ?_ place (two_zpow_pos e).le (by norm_num)
          exact_mod_cast digits.le
      _ ≤ 2 ^ 64 - 1 := by norm_num
  · obtain ⟨k, rfl⟩ := Int.eq_ofNat_of_zero_le pos.le
    rw [zpow_natCast] at lt ⊢
    have whole : m * 2 ^ k < (2 : ℤ) ^ 64 := by exact_mod_cast lt
    have : m * 2 ^ k ≤ (2 : ℤ) ^ 64 - 1 := by omega
    exact_mod_cast this

/-! ## Durations in seconds -/

/-- A duration in seconds, rounded as it is computed. -/
def seconds (d : ℕ) : ℚ :=
  nearest (nearest (d / 1000000000 : ℕ) + nearest ((d % 1000000000 : ℕ) / 1000000000))

theorem seconds_nonneg (d : ℕ) : 0 ≤ seconds d := by
  refine nearest_nonneg (add_nonneg (nearest_nonneg (Nat.cast_nonneg _)) (nearest_nonneg ?_))
  positivity

/-- A whole number is zero or not tiny. -/
theorem sizable_natCast (n : ℕ) : (n : ℚ) = 0 ∨ 2 ^ (-40 : ℤ) ≤ (n : ℚ) := by
  rcases n.eq_zero_or_pos with rfl | pos
  · exact .inl Nat.cast_zero
  · refine .inr (le_trans ?_ (by exact_mod_cast pos : (1 : ℚ) ≤ n))
    norm_num

/-- A number of nanoseconds is zero or not tiny, in seconds too. -/
theorem sizable_div (n : ℕ) :
    (n : ℚ) / 1000000000 = 0 ∨ 2 ^ (-40 : ℤ) ≤ (n : ℚ) / 1000000000 := by
  rcases n.eq_zero_or_pos with rfl | pos
  · exact .inl (by rw [Nat.cast_zero, zero_div])
  · have one : (1 : ℚ) / 1000000000 ≤ n / 1000000000 :=
      div_le_div_of_nonneg_right (by exact_mod_cast pos) (by norm_num)
    refine .inr (le_trans ?_ one)
    norm_num

/-- A duration in seconds is computed with two roundings. -/
theorem seconds_within (d : ℕ) : WithinRoundings 2 ((d : ℚ) / 1000000000) (seconds d) := by
  have split : (d : ℚ) / 1000000000 =
      (d / 1000000000 : ℕ) + ((d % 1000000000 : ℕ) : ℚ) / 1000000000 := by
    have parts : 1000000000 * ((d / 1000000000 : ℕ) : ℚ) + (d % 1000000000 : ℕ) = d := by
      exact_mod_cast Nat.div_add_mod d 1000000000
    linarith
  have whole := (WithinRoundings.refl ((d / 1000000000 : ℕ) : ℚ)).nearest
    (sizable_natCast _) (by norm_num)
  have rest := (WithinRoundings.refl (((d % 1000000000 : ℕ) : ℚ) / 1000000000)).nearest
    (sizable_div _) (by norm_num)
  have sum := whole.add rest
  rw [← split] at sum
  exact sum.nearest (sizable_div d) (by norm_num)

theorem IsNearest.abs_value_le {z : Float} {x : ℚ} {k : ℕ} (h : IsNearest z x)
    (le : |x| ≤ 2 ^ k) : |value z| ≤ 2 ^ k := by
  rw [h.value_eq]
  exact abs_nearest_le le

/-- A duration in seconds is finite, and the double computed for it has the value computed. -/
theorem ofDuration_spec {d : ℕ} (lt : d / 1000000000 < 2 ^ 64) :
    (ofDuration d).isFinite = true ∧ value (ofDuration d) = seconds d ∧ |seconds d| ≤ 2 ^ 65 := by
  have rest_lt : d % 1000000000 < 1000000000 := Nat.mod_lt d (by norm_num)
  have whole : (UInt64.ofNat (d / 1000000000)).toNat = d / 1000000000 := by
    rw [UInt64.toNat_ofNat', Nat.mod_eq_of_lt lt]
  have rest : (UInt64.ofNat (d % 1000000000)).toNat = d % 1000000000 := by
    rw [UInt64.toNat_ofNat', Nat.mod_eq_of_lt (by omega)]
  have first := isNearest_toFloat (UInt64.ofNat (d / 1000000000))
  have second := isNearest_toFloat (UInt64.ofNat (d % 1000000000))
  have second_value : value (UInt64.ofNat (d % 1000000000)).toFloat = (d % 1000000000 : ℕ) := by
    rw [value_toFloat (by omega), rest]
  have first_le : |((d / 1000000000 : ℕ) : ℚ)| ≤ 2 ^ 64 := by
    rw [Nat.abs_cast]
    exact_mod_cast lt.le
  have quotient_le : |((d % 1000000000 : ℕ) : ℚ) / 1000000000| ≤ 2 ^ 0 := by
    rw [abs_of_nonneg (by positivity), pow_zero, div_le_one (by norm_num)]
    exact_mod_cast rest_lt.le
  have quotient : IsNearest ((UInt64.ofNat (d % 1000000000)).toFloat / 1e9)
      ((d % 1000000000 : ℕ) / 1000000000) := by
    rw [← second_value, ← value_billion]
    refine isNearest_div second.finite rfl (by rw [value_billion]; norm_num) ?_
    rw [second_value, value_billion]
    exact lt_of_le_two_pow quotient_le (by norm_num)
  rw [whole] at first
  have sum_le : |nearest (d / 1000000000 : ℕ) + nearest ((d % 1000000000 : ℕ) / 1000000000)| ≤
      2 ^ 65 := by
    refine (abs_add_le _ _).trans ?_
    linarith [abs_nearest_le first_le, abs_nearest_le quotient_le]
  have sum : IsNearest (ofDuration d)
      (nearest (d / 1000000000 : ℕ) + nearest ((d % 1000000000 : ℕ) / 1000000000)) := by
    rw [← first.value_eq, ← quotient.value_eq]
    refine isNearest_add first.finite quotient.finite ?_
    rw [first.value_eq, quotient.value_eq]
    exact lt_of_le_two_pow sum_le (by norm_num)
  exact ⟨sum.finite, sum.value_eq, abs_nearest_le sum_le⟩

/-! ## Whole nanoseconds -/

theorem divRoundEven_eq (num : ℕ) {den : ℕ} (pos : 0 < den) :
    (divRoundEven num den : ℤ) = halfEven (num / den) := by
  rw [halfEven_of_describes (describes_accuracyOfFraction num pos), divRoundEven,
    accuracyOfFraction]
  norm_cast
  rcases lt_trichotomy (2 * (num % den)) den with less | half | more
  · rw [if_pos less, compare_lt_iff_lt.2 less]
    split <;> rfl
  · rw [if_neg (by omega), if_neg (by omega), if_neg (by omega), compare_eq_iff_eq.2 half]
    rfl
  · rw [if_neg (by omega), if_pos more, if_neg (by omega), compare_gt_iff_gt.2 more]
    rfl

theorem toNat_unpackMantissa (bits : BitVec Format.binary64.numBits) :
    (unpackMantissa bits).toNat = bits.toNat % 2 ^ 52 := by
  simp [unpackMantissa]

theorem toNat_unpackExponent (bits : BitVec Format.binary64.numBits) :
    (unpackExponent bits).toNat = bits.toNat / 2 ^ 52 % 2 ^ 11 := by
  simp [unpackExponent, Nat.shiftRight_eq_div_pow]

theorem abs_unpackedValue_finite (sign : Sign) (m : ℕ) (e : ℤ) (positive : 0 < m) :
    |unpackedValue (.finite sign m e positive)| = m * 2 ^ e := by
  rw [unpackedValue_finite, abs_unit_mul]
  exact abs_of_nonneg (mul_nonneg (Nat.cast_nonneg _) (two_zpow_pos e).le)

/-- The size of a finite number, by the parts in which it is stored. -/
theorem abs_unpackedValue_unpack {bits : BitVec Format.binary64.numBits}
    (finite : (UnpackedFloat.unpack Format.binary64 bits).isFinite = true) :
    |unpackedValue (UnpackedFloat.unpack Format.binary64 bits)| =
      if (unpackExponent bits).toNat = 0 then
        ((unpackMantissa bits).toNat : ℚ) * 2 ^ (-1074 : ℤ)
      else
        (((unpackMantissa bits).toNat + 2 ^ 52 : ℕ) : ℚ) *
          2 ^ (((unpackExponent bits).toNat : ℤ) - 1075) := by
  have not_all := (isFinite_unpack_iff bits).1 finite
  have none_iff : unpackExponent bits = 0#11 ↔ (unpackExponent bits).toNat = 0 :=
    ⟨congrArg BitVec.toNat, fun zero => BitVec.eq_of_toNat_eq zero⟩
  obtain ⟨none, zero, stored⟩ | ⟨none, positive, stored⟩ | ⟨some, positive, stored⟩ :=
    unpack_cases not_all
  · rw [stored, if_pos (none_iff.1 none), zero, unpackedValue_zero, abs_zero]
    simp
  · rw [stored, if_pos (none_iff.1 none), abs_unpackedValue_finite]
  · rw [stored, if_neg (fun none => some (none_iff.2 none)), abs_unpackedValue_finite, Nat.add_comm]

/-- The bits of a finite double give the size of its value. -/
theorem magnitude_spec {x : Float} (finite : x.isFinite = true) :
    ((magnitude x).1 : ℚ) * 2 ^ (magnitude x).2 = |value x| := by
  rw [value, Float.Model.unpack, abs_unpackedValue_unpack finite, toNat_unpackMantissa,
    toNat_unpackExponent]
  have magnitude_eq : magnitude x =
      if x.toModel.toBits.toNat / 2 ^ 52 % 2 ^ 11 = 0 then
        (x.toModel.toBits.toNat % 2 ^ 52, -1074)
      else
        (x.toModel.toBits.toNat % 2 ^ 52 + 2 ^ 52,
          ((x.toModel.toBits.toNat / 2 ^ 52 % 2 ^ 11 : ℕ) : ℤ) - 1075) := rfl
  rw [magnitude_eq, UInt64.toNat_toBitVec]
  split <;> rfl

/-- The way back from seconds takes the nearest whole number of nanoseconds. -/
theorem toDuration?_eq {x : Float} (finite : x.isFinite = true) (nonneg : 0 ≤ value x) :
    toDuration? x =
      if value x < 2 ^ 64 then some (halfEven (value x * 1000000000)).toNat else none := by
  have not_negative : ¬x < 0.0 := by
    rw [lt_iff_value finite rfl, value_zero, not_lt]
    exact nonneg
  have below : x < 18446744073709551616.0 ↔ value x < 2 ^ 64 := by
    rw [lt_iff_value finite rfl, value_two_pow_64]
  rw [toDuration?, if_neg not_negative]
  by_cases lt : value x < 2 ^ 64
  · have size := magnitude_spec finite
    rw [abs_of_nonneg nonneg] at size
    rw [if_pos lt]
    simp only [below.2 lt, decide_true, Bool.not_true, Bool.false_eq_true, if_false]
    rw [← size]
    generalize magnitude x = parts
    obtain ⟨m, e⟩ := parts
    dsimp only
    split
    · rename_i negative
      obtain ⟨k, rfl⟩ : ∃ k : ℕ, e = -k := ⟨(-e).toNat, by omega⟩
      have quotient : (m : ℚ) * 2 ^ (-k : ℤ) * 1000000000 =
          ((m * 1000000000 : ℕ) : ℚ) / ((2 ^ k : ℕ) : ℚ) := by
        rw [zpow_neg, zpow_natCast]
        push_cast
        ring
      have count := divRoundEven_eq (m * 1000000000) (Nat.two_pow_pos k)
      rw [neg_neg, Int.toNat_natCast, quotient, ← count, Int.toNat_natCast]
      rfl
    · rename_i nonneg_exponent
      obtain ⟨k, rfl⟩ := Int.eq_ofNat_of_zero_le (not_lt.1 nonneg_exponent)
      have whole : (m : ℚ) * 2 ^ (k : ℤ) * 1000000000 = ((m * 2 ^ k * 1000000000 : ℕ) : ℤ) := by
        rw [zpow_natCast]
        push_cast
        rfl
      rw [whole, halfEven_intCast, Int.toNat_natCast, Int.toNat_natCast]
      rfl
  · rw [if_neg lt]
    have not_below : ¬x < 18446744073709551616.0 := fun h => lt (below.1 h)
    simp only [not_below, decide_false, Bool.not_false, if_true]

/-- The whole nanoseconds of a number of seconds; `top` for a number beyond all durations. -/
def nanosOr (top : ℕ) (v : ℚ) : ℕ :=
  if v < 2 ^ 64 then (halfEven (v * 1000000000)).toNat else top

theorem toDuration?_getD {x : Float} (finite : x.isFinite = true) (nonneg : 0 ≤ value x)
    (top : ℕ) : (toDuration? x).getD top = nanosOr top (value x) := by
  rw [toDuration?_eq finite nonneg, nanosOr]
  split <;> rfl

section Nanos

variable {top : ℕ} {v w : ℚ}

/-- The nanoseconds of a double are a duration. -/
theorem nanosOr_le_longest (top_le : top ≤ longestDuration) (double : Representable v) :
    nanosOr top v ≤ longestDuration := by
  unfold nanosOr
  split
  · rename_i lt
    have le : v * 1000000000 ≤ ((18446744073709551615 * 1000000000 : ℤ) : ℚ) := by
      have := double.le_of_lt_two_pow lt
      push_cast
      linarith
    have mono := halfEven_mono le
    rw [halfEven_intCast] at mono
    rw [longestDuration]
    omega
  · exact top_le

/-- More seconds are no fewer nanoseconds. -/
theorem nanosOr_mono (double : Representable v) (le : v ≤ w) :
    nanosOr longestDuration v ≤ nanosOr longestDuration w := by
  by_cases lt : w < 2 ^ 64
  · rw [nanosOr, nanosOr, if_pos lt, if_pos (le.trans_lt lt)]
    exact Int.toNat_le_toNat (halfEven_mono (by linarith))
  · have beyond : nanosOr longestDuration w = longestDuration := if_neg lt
    rw [beyond]
    exact nanosOr_le_longest le_rfl double

theorem abs_nanosOr_sub_le (top : ℕ) (nonneg : 0 ≤ v) (lt : v < 2 ^ 64) :
    |(nanosOr top v : ℚ) - v * 1000000000| ≤ 1 / 2 := by
  have count : ((halfEven (v * 1000000000)).toNat : ℤ) = halfEven (v * 1000000000) :=
    Int.toNat_of_nonneg (halfEven_nonneg (by positivity))
  rw [nanosOr, if_pos lt, ← Int.cast_natCast, count]
  exact abs_halfEven_sub_le _

theorem nanosOr_le (top_le : top ≤ longestDuration) (nonneg : 0 ≤ v) :
    (nanosOr top v : ℚ) ≤ v * 1000000000 + 1 / 2 := by
  by_cases lt : v < 2 ^ 64
  · linarith [(abs_le.1 (abs_nanosOr_sub_le top nonneg lt)).2]
  · have longest : (top : ℚ) ≤ longestDuration := by exact_mod_cast top_le
    rw [longestDuration] at longest
    rw [nanosOr, if_neg lt]
    push_cast at longest
    linarith [not_lt.1 lt]

end Nanos

end Safeguard.Double
