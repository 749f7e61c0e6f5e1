import Safeguard.Proofs.Numeric.Value

/-!
# Arithmetic on doubles

A sum, product or quotient of doubles is the one of their values, rounded (`IsNearest`,
`isNearest_add`, `isNearest_mul`, `isNearest_div`, `isNearest_toFloat`), as long as it is not near
the largest double.

The format keeps of the digits it cuts off a mantissa how they compare with one half. `Describes`
says which numbers such a mantissa stands for: cutting off another digit halves the number
(`describes_shiftRight`), and the mantissa is rounded to the nearest integer
(`halfEven_of_describes`). With the exponent of the last place (`targetExponent_eq_ulpExponent`)
this is all there is to rounding (`isRounded_roundWithAccuracy`).
-/

namespace Safeguard.Double

open Float.Model Float.Model.UnpackedFloat

/-! ## Digits that are cut off -/

/-- A number is a mantissa and a part below one, of which the accuracy tells how it compares with
one half. -/
def Describes (m : ℕ) : Accuracy → ℚ → Prop
  | .exact, y => y = m
  | .inexact .lt, y => m < y ∧ y < m + 1 / 2
  | .inexact .eq, y => y = m + 1 / 2
  | .inexact .gt, y => m + 1 / 2 < y ∧ y < m + 1

theorem Describes.bounds {m : ℕ} {a : Accuracy} {y : ℚ} (h : Describes m a y) :
    m ≤ y ∧ y < m + 1 := by
  rcases a with _ | _ | _ | _ <;> simp only [Describes] at h <;>
    constructor <;> linarith

/-- What the two bits kept of the digits cut off say is the nearest integer. -/
theorem halfEven_of_describes {m : ℕ} {a : Accuracy} {y : ℚ} (h : Describes m a y) :
    halfEven y = a.roundToNearestEven m := by
  have floor : ⌊y⌋ = (m : ℤ) := Int.floor_eq_iff.2 (by exact_mod_cast h.bounds)
  have fract : Int.fract y = y - m := by
    rw [Int.fract, floor]
    norm_cast
  rw [halfEven, floor, fract]
  rcases a with _ | _ | _ | _ <;> simp only [Describes] at h
  · rw [if_pos (by linarith)]
    rfl
  · rw [if_pos (by linarith)]
    rfl
  · rw [if_neg (by linarith), if_neg (by linarith)]
    norm_cast
  · rw [if_neg (by linarith), if_pos (by linarith)]
    rfl

theorem accuracy_ofMantissaAndAccuracy (m : ℕ) (a : Accuracy) :
    (ExtendedMantissa.ofMantissaAndAccuracy m a).accuracy = a := by
  rcases a with _ | _ | _ | _ <;> rfl

/-- Without its last digit a mantissa stands for half of the number. -/
theorem describes_shiftRightOne {em : ExtendedMantissa} {y : ℚ}
    (h : Describes em.mantissa em.accuracy y) :
    Describes em.shiftRightOne.mantissa em.shiftRightOne.accuracy (y / 2) := by
  obtain ⟨m, roundBit, stickyBit⟩ := em
  obtain ⟨k, rfl | rfl⟩ := Nat.even_or_odd' m
  · have half : 2 * k / 2 = k := by omega
    have even : (2 * k % 2 != 0) = false := by simp
    simp only [ExtendedMantissa.shiftRightOne, half, even]
    cases roundBit <;> cases stickyBit <;>
      simp only [ExtendedMantissa.accuracy, Describes, Bool.or_true, Bool.or_false] at h ⊢ <;>
      push_cast at h <;> first | linarith | (constructor <;> linarith)
  · have half : (2 * k + 1) / 2 = k := by omega
    have odd : ((2 * k + 1) % 2 != 0) = true := by simp
    simp only [ExtendedMantissa.shiftRightOne, half, odd]
    cases roundBit <;> cases stickyBit <;>
      simp only [ExtendedMantissa.accuracy, Describes, Bool.or_true, Bool.or_false] at h ⊢ <;>
      push_cast at h <;> first | linarith | (constructor <;> linarith)

theorem describes_shiftRight {em : ExtendedMantissa} {y : ℚ}
    (h : Describes em.mantissa em.accuracy y) (k : ℕ) :
    Describes (em >>> k).mantissa (em >>> k).accuracy (y / 2 ^ k) := by
  induction k with
  | zero => rwa [pow_zero, div_one]
  | succ k ih =>
    rw [pow_succ, ← div_div]
    exact describes_shiftRightOne ih

/-- The remainder of a division tells how the digits of the quotient go on. -/
theorem describes_accuracyOfFraction (num : ℕ) {den : ℕ} (pos : 0 < den) :
    Describes (num / den) (accuracyOfFraction (num % den) den) (num / den : ℚ) := by
  have den_pos : (0 : ℚ) < den := by exact_mod_cast pos
  have lt : ((num % den : ℕ) : ℚ) / den < 1 := by
    rw [div_lt_one den_pos]
    exact_mod_cast Nat.mod_lt num pos
  have split : (num : ℚ) / den = (num / den : ℕ) + (num % den : ℕ) / den := by
    rw [eq_comm, ← eq_sub_iff_add_eq', div_eq_iff den_pos.ne', sub_mul,
      div_mul_cancel₀ _ den_pos.ne', eq_sub_iff_add_eq]
    exact_mod_cast (mul_comm den (num / den) ▸ Nat.mod_add_div num den)
  rw [split, accuracyOfFraction]
  split_ifs with zero
  · simp only [Describes, zero, Nat.cast_zero, zero_div, add_zero]
  · have some : 0 < ((num % den : ℕ) : ℚ) / den :=
      div_pos (by exact_mod_cast Nat.pos_of_ne_zero zero) den_pos
    rcases lt_trichotomy (2 * (num % den)) den with less | half | more
    · have below : ((num % den : ℕ) : ℚ) / den < 1 / 2 := by
        rw [div_lt_div_iff₀ den_pos two_pos]
        exact_mod_cast (by omega : num % den * 2 < 1 * den)
      rw [compare_lt_iff_lt.2 less]
      constructor <;> linarith
    · have tie : ((num % den : ℕ) : ℚ) / den = 1 / 2 := by
        rw [div_eq_div_iff den_pos.ne' two_ne_zero]
        exact_mod_cast (by omega : num % den * 2 = 1 * den)
      rw [compare_eq_iff_eq.2 half, tie]
      rfl
    · have above : 1 / 2 < ((num % den : ℕ) : ℚ) / den := by
        rw [div_lt_div_iff₀ two_pos den_pos]
        exact_mod_cast (by omega : 1 * den < num % den * 2)
      rw [compare_gt_iff_gt.2 more]
      constructor <;> linarith

/-! ## The exponent of the last place -/

theorem targetExponent_eq (t : ℤ) :
    Format.binary64.targetExponent t = max (t - 53) (-1074) := rfl

/-- The exponent that the format wants for the leading digits of a number is the one of its last
place. -/
theorem targetExponent_eq_ulpExponent {m : ℕ} {e : ℤ} {x : ℚ} (pos : 0 < x)
    (lower : m ≤ x / 2 ^ e) (upper : x / 2 ^ e < m + 1) (digits : m ≠ 0 ∨ e ≤ ulpExponent x) :
    Format.binary64.targetExponent (totalExponent m e) = ulpExponent x := by
  rw [le_div_iff₀ (two_zpow_pos e)] at lower
  rw [div_lt_iff₀ (two_zpow_pos e)] at upper
  rw [targetExponent_eq, totalExponent]
  rw [ulpExponent, abs_of_pos pos] at digits ⊢
  by_cases zero : m = 0
  · -- no digits at all, so the number is below the last place there is
    have log : Int.log 2 x < e := by
      refine (Int.lt_zpow_iff_log_lt one_lt_two pos).1 ?_
      rw [zero, Nat.cast_zero, zero_add, one_mul] at upper
      exact_mod_cast upper
    have := digits.resolve_left (not_not.2 zero)
    rw [zero, Nat.log2_zero]
    omega
  · have log_le : (m.log2 : ℤ) + e ≤ Int.log 2 x := by
      refine (Int.zpow_le_iff_le_log one_lt_two pos).1 ?_
      refine le_trans ?_ lower
      rw [Nat.cast_two, zpow_add₀ (by norm_num), zpow_natCast]
      exact mul_le_mul_of_nonneg_right (by exact_mod_cast Nat.log2_self_le zero)
        (two_zpow_pos e).le
    have log_lt : Int.log 2 x < (m.log2 : ℤ) + 1 + e := by
      refine (Int.lt_zpow_iff_log_lt one_lt_two pos).1 (upper.trans_le ?_)
      rw [Nat.cast_two, zpow_add₀ (by norm_num)]
      refine mul_le_mul_of_nonneg_right ?_ (two_zpow_pos e).le
      exact_mod_cast Nat.lt_log2_self (n := m)
    omega

/-! ## Rounding -/

/-- A number in its stored form that is a rational number rounded. -/
structure IsRounded (u : UnpackedFloat) (x : ℚ) : Prop where
  canonical : Canonical u
  value_eq : unpackedValue u = nearest x

theorem shiftToExponent_eq {m : ℕ} {e t : ℤ} (le : e ≤ t) (a : Accuracy) :
    shiftToExponent m e a t =
      (ExtendedMantissa.ofMantissaAndAccuracy m a >>> (t - e).toNat, t) := by
  have last : e + ((t - e).toNat : ℤ) = t := by omega
  simp only [shiftToExponent, last]

/-- The mantissa in the last place is the number rounded to it. -/
theorem roundedMantissa_shiftToTargetExponent {m : ℕ} {e : ℤ} {a : Accuracy} {x : ℚ}
    (pos : 0 < x) (h : Describes m a (x / 2 ^ e)) (enough : e ≤ ulpExponent x) :
    ((shiftToTargetExponent Format.binary64 m e a).1.roundedMantissa : ℤ) =
        halfEven (x / 2 ^ ulpExponent x) ∧
      (shiftToTargetExponent Format.binary64 m e a).2 = ulpExponent x := by
  have target := targetExponent_eq_ulpExponent pos h.bounds.1 h.bounds.2 (.inr enough)
  have start : Describes (ExtendedMantissa.ofMantissaAndAccuracy m a).mantissa
      (ExtendedMantissa.ofMantissaAndAccuracy m a).accuracy (x / 2 ^ e) := by
    rwa [mantissa_ofMantissaAndAccuracy, accuracy_ofMantissaAndAccuracy]
  have shifted := describes_shiftRight start (ulpExponent x - e).toNat
  have places : x / 2 ^ e / 2 ^ (ulpExponent x - e).toNat = x / 2 ^ ulpExponent x := by
    rw [div_div, ← zpow_natCast, ← zpow_add₀ (by norm_num)]
    congr 2
    omega
  rw [places] at shifted
  rw [shiftToTargetExponent, target, shiftToExponent_eq enough]
  exact ⟨(halfEven_of_describes shifted).symm, rfl⟩

/-- A mantissa that rounding did not make longer stays as it is. -/
theorem shiftToTargetExponent_of_lt {q : ℕ} {t : ℤ} (lt : q < 2 ^ 53) (least : -1074 ≤ t) :
    shiftToTargetExponent Format.binary64 q t .exact = (⟨q, false, false⟩, t) := by
  have log : q.log2 ≤ 52 := by
    by_cases zero : q = 0
    · simp [zero]
    · exact Nat.le_of_lt_succ ((Nat.log2_lt zero).2 lt)
  have none : (Format.binary64.targetExponent (totalExponent q t) - t).toNat = 0 := by
    rw [targetExponent_eq, totalExponent]
    omega
  simp only [shiftToTargetExponent, shiftToExponent, none, Nat.cast_zero, add_zero]
  rfl

/-- A mantissa that rounding made longer by a digit ends in 0. -/
theorem shiftToTargetExponent_of_eq {t : ℤ} (least : -1074 ≤ t) :
    shiftToTargetExponent Format.binary64 (2 ^ 53) t .exact = (⟨2 ^ 52, false, false⟩, t + 1) := by
  have target : Format.binary64.targetExponent (totalExponent (2 ^ 53) t) = t + 1 := by
    rw [targetExponent_eq, totalExponent, Nat.log2_two_pow]
    omega
  have one : (t + 1 - t).toNat = 1 := by omega
  rw [shiftToTargetExponent, target, shiftToExponent_eq (by omega), one]
  rfl

theorem nearest_unit_mul (sign : Sign) (x : ℚ) :
    nearest (unit sign * x) = unit sign * nearest x := by
  cases sign with
  | negative => rw [unit, neg_one_mul, neg_one_mul, nearest_neg]
  | positive => rw [unit, one_mul, one_mul]

/-- A number that is described is rounded to the nearest double. -/
theorem isRounded_roundWithAccuracy (sign : Sign) {m : ℕ} {e : ℤ} {a : Accuracy} {x : ℚ}
    (pos : 0 < x) (lt : x < 2 ^ (1023 : ℤ)) (h : Describes m a (x / 2 ^ e))
    (enough : e ≤ ulpExponent x) :
    IsRounded (roundWithAccuracy Format.binary64 sign m e a) (unit sign * x) := by
  obtain ⟨mantissa, exponent⟩ := roundedMantissa_shiftToTargetExponent pos h enough
  rcases first : shiftToTargetExponent Format.binary64 m e a with ⟨em, t⟩
  rw [first] at mantissa exponent
  rw [roundWithAccuracy, first]
  dsimp only at mantissa exponent ⊢
  generalize em.roundedMantissa = q at mantissa ⊢
  have least : -1074 ≤ t := exponent ▸ le_max_right _ _
  have most : t ≤ 970 := by
    have log : Int.log 2 x < 1023 :=
      (Int.lt_zpow_iff_log_lt one_lt_two pos).1 (by rwa [Nat.cast_two])
    rw [exponent, ulpExponent, abs_of_pos pos]
    omega
  have upper : q ≤ 2 ^ 53 := by
    have mono := halfEven_mono (div_ulp_lt (x := x)).le
    rw [← mantissa, ← Int.cast_two, ← Int.cast_pow, halfEven_intCast] at mono
    exact_mod_cast mono
  have normal : 2 ^ 52 ≤ q ∨ t = -1074 := by
    refine or_iff_not_imp_right.2 fun ne => ?_
    have mono := halfEven_mono (le_div_ulp pos (by omega))
    rw [← mantissa, ← Int.cast_two, ← Int.cast_pow, halfEven_intCast] at mono
    exact_mod_cast mono
  have value : nearest (unit sign * x) = unit sign * (q * 2 ^ t) := by
    rw [nearest_unit_mul, nearest, ← mantissa, exponent, Int.cast_natCast]
  rcases upper.lt_or_eq with short | rfl
  · rw [shiftToTargetExponent_of_lt short least]
    dsimp only
    by_cases zero : q = 0
    · rw [dif_pos zero]
      refine ⟨trivial, ?_⟩
      rw [value, zero, Nat.cast_zero, zero_mul, mul_zero]
      rfl
    · rw [dif_neg zero]
      exact ⟨⟨short, least, by omega, normal⟩, value.symm⟩
  · rw [shiftToTargetExponent_of_eq least]
    refine ⟨⟨by norm_num, by omega, by omega, .inl le_rfl⟩, ?_⟩
    rw [value]
    change unit sign * (((2 ^ 52 : ℕ) : ℚ) * 2 ^ (t + 1)) = _
    rw [zpow_add_one₀ (by norm_num)]
    push_cast
    ring

/-- An integer in units of any place is rounded to the nearest double. -/
theorem isRounded_round (sign : Sign) {m : ℕ} {e : ℤ} (pos : 0 < m)
    (lt : (m : ℚ) * 2 ^ e < 2 ^ (1023 : ℤ)) :
    IsRounded (round Format.binary64 sign m e) (unit sign * (m * 2 ^ e)) := by
  have value_pos : (0 : ℚ) < m * 2 ^ e := mul_pos (by exact_mod_cast pos) (two_zpow_pos e)
  have same : (m : ℚ) * 2 ^ e / 2 ^ e = m := mul_div_cancel_right₀ _ (two_zpow_pos e).ne'
  have target : Format.binary64.targetExponent (totalExponent m e) = ulpExponent (m * 2 ^ e) :=
    targetExponent_eq_ulpExponent value_pos same.ge (by linarith) (.inl pos.ne')
  rw [UnpackedFloat.round, target, decreaseExponent]
  refine isRounded_roundWithAccuracy sign value_pos lt ?_ (by omega)
  change (m : ℚ) * 2 ^ e / 2 ^ (e - _) = ((m <<< _ : ℕ) : ℚ)
  rw [Nat.shiftLeft_eq, mul_div_assoc, ← zpow_sub₀ (by norm_num), sub_sub_cancel, zpow_natCast]
  push_cast
  rfl

theorem isRounded_zero (sign : Sign) : IsRounded (.zero sign) 0 := ⟨trivial, nearest_zero.symm⟩

/-- A number in its stored form is not rounded at all. -/
theorem isRounded_self {u : UnpackedFloat} (h : Canonical u) : IsRounded u (unpackedValue u) :=
  ⟨h, h.representable.nearest_eq.symm⟩

theorem isRounded_normalize {m : ℤ} {e : ℤ} (zeroSign : Sign)
    (lt : |(m : ℚ) * 2 ^ e| < 2 ^ (1023 : ℤ)) :
    IsRounded (UnpackedFloat.normalize Format.binary64 m e zeroSign) (m * 2 ^ e) := by
  unfold UnpackedFloat.normalize
  rw [abs_mul, abs_of_pos (two_zpow_pos e)] at lt
  split
  · rename_i neg
    rw [Int.compare_eq_lt] at neg
    obtain ⟨n, rfl⟩ : ∃ n : ℕ, m = -n := ⟨(-m).toNat, by omega⟩
    rw [Int.cast_neg, abs_neg, Int.cast_natCast, Nat.abs_cast] at lt
    rw [Int.cast_neg, Int.cast_natCast, neg_mul, ← neg_one_mul ((n : ℚ) * 2 ^ e), neg_neg,
      Int.toNat_natCast]
    exact isRounded_round .negative (by omega) lt
  · rename_i zero
    rw [Int.compare_eq_eq] at zero
    rw [zero, Int.cast_zero, zero_mul]
    exact isRounded_zero zeroSign
  · rename_i pos
    rw [Int.compare_eq_gt] at pos
    obtain ⟨n, rfl⟩ : ∃ n : ℕ, m = n := ⟨m.toNat, by omega⟩
    rw [Int.cast_natCast, Nat.abs_cast] at lt
    rw [Int.cast_natCast, ← one_mul ((n : ℚ) * 2 ^ e), Int.toNat_natCast]
    exact isRounded_round .positive (by omega) lt

/-! ## Operations on numbers in their stored form -/

theorem unit_mul (s t : Sign) : unit (s * t) = unit s * unit t := by
  cases s <;> cases t <;> norm_num [unit]

theorem unit_div (s t : Sign) : unit (s / t) = unit s / unit t := by
  have same : s / t = s * t := by cases s <;> cases t <;> rfl
  rw [same, unit_mul]
  cases s <;> cases t <;> norm_num [unit]

theorem abs_unit_mul (s : Sign) (x : ℚ) : |unit s * x| = |x| := by
  cases s <;> simp [unit]

theorem cast_apply (s : Sign) (n : ℤ) : (s.apply n : ℚ) = unit s * n := by
  cases s <;> simp [unit, Sign.apply]

/-- A mantissa with zeros appended stands for the same number in a lower place. -/
theorem decreaseExponent_value (m : ℕ) {e t : ℤ} (le : t ≤ e) :
    ((decreaseExponent m e t).1 : ℚ) * 2 ^ t = m * 2 ^ e := by
  change ((m <<< (e - t).toNat : ℕ) : ℚ) * 2 ^ t = _
  have places : e = (e - t).toNat + t := by omega
  rw [Nat.shiftLeft_eq, Nat.cast_mul, Nat.cast_pow, Nat.cast_two]
  nth_rewrite 2 [places]
  rw [zpow_add₀ (by norm_num), zpow_natCast, mul_assoc]

theorem isRounded_add {u v : UnpackedFloat} (hu : Canonical u) (hv : Canonical v)
    (lt : |unpackedValue u + unpackedValue v| < 2 ^ (1023 : ℤ)) :
    IsRounded (UnpackedFloat.add Format.binary64 u v) (unpackedValue u + unpackedValue v) := by
  rcases u with _ | _ | s₁ | ⟨s₁, m₁, e₁, pos₁⟩ <;>
    rcases v with _ | _ | s₂ | ⟨s₂, m₂, e₂, pos₂⟩ <;>
    try first | exact hu.elim | exact hv.elim
  case zero.zero =>
    rw [unpackedValue_zero, unpackedValue_zero, add_zero]
    change IsRounded (if s₁ == s₂ then .zero s₁ else .zero .positive) 0
    split <;> exact isRounded_zero _
  case zero.finite =>
    rw [unpackedValue_zero, zero_add]
    exact isRounded_self hv
  case finite.zero =>
    rw [unpackedValue_zero, add_zero]
    exact isRounded_self hu
  case finite.finite =>
    have sum : unpackedValue (.finite s₁ m₁ e₁ pos₁) + unpackedValue (.finite s₂ m₂ e₂ pos₂) =
        ((s₁.apply (decreaseExponent m₁ e₁ (min e₁ e₂)).1 +
          s₂.apply (decreaseExponent m₂ e₂ (min e₁ e₂)).1 : ℤ) : ℚ) * 2 ^ min e₁ e₂ := by
      rw [Int.cast_add, add_mul, cast_apply, cast_apply, Int.cast_natCast, Int.cast_natCast,
        mul_assoc, mul_assoc, decreaseExponent_value m₁ (min_le_left e₁ e₂),
        decreaseExponent_value m₂ (min_le_right e₁ e₂)]
      rfl
    rw [sum] at lt ⊢
    exact isRounded_normalize .positive lt

/-- A product has enough digits for its last place. -/
theorem add_exponent_le {m₁ m₂ : ℕ} {e₁ e₂ : ℤ} (pos₁ : 0 < m₁) (pos₂ : 0 < m₂)
    (normal₁ : 2 ^ 52 ≤ m₁ ∨ e₁ = -1074) (normal₂ : 2 ^ 52 ≤ m₂ ∨ e₂ = -1074) :
    e₁ + e₂ ≤ ulpExponent ((m₁ * m₂ : ℕ) * 2 ^ (e₁ + e₂)) := by
  have value_pos : (0 : ℚ) < (m₁ * m₂ : ℕ) * 2 ^ (e₁ + e₂) :=
    mul_pos (by exact_mod_cast Nat.mul_pos pos₁ pos₂) (two_zpow_pos _)
  have least := le_max_right
    (Int.log 2 |((m₁ * m₂ : ℕ) : ℚ) * 2 ^ (e₁ + e₂)| - 52) (-1074)
  by_cases digits : 2 ^ 52 ≤ m₁ * m₂
  · have log : 52 + (e₁ + e₂) ≤ Int.log 2 |((m₁ * m₂ : ℕ) : ℚ) * 2 ^ (e₁ + e₂)| := by
      rw [abs_of_pos value_pos]
      refine (Int.zpow_le_iff_le_log one_lt_two value_pos).1 ?_
      rw [Nat.cast_two, zpow_add₀ (by norm_num)]
      exact mul_le_mul_of_nonneg_right (by exact_mod_cast digits) (two_zpow_pos _).le
    rw [ulpExponent]
    omega
  · have short₁ : ¬2 ^ 52 ≤ m₁ := fun le => digits (le.trans (Nat.le_mul_of_pos_right m₁ pos₂))
    have short₂ : ¬2 ^ 52 ≤ m₂ := fun le => digits (le.trans (Nat.le_mul_of_pos_left m₂ pos₁))
    have := normal₁.resolve_left short₁
    have := normal₂.resolve_left short₂
    rw [ulpExponent]
    omega

theorem isRounded_mul {u v : UnpackedFloat} (hu : Canonical u) (hv : Canonical v)
    (lt : |unpackedValue u * unpackedValue v| < 2 ^ (1023 : ℤ)) :
    IsRounded (UnpackedFloat.mul Format.binary64 u v) (unpackedValue u * unpackedValue v) := by
  rcases u with _ | _ | s₁ | ⟨s₁, m₁, e₁, pos₁⟩ <;>
    rcases v with _ | _ | s₂ | ⟨s₂, m₂, e₂, pos₂⟩ <;>
    try first | exact hu.elim | exact hv.elim
  case zero.zero | zero.finite =>
    rw [unpackedValue_zero, zero_mul]
    exact isRounded_zero _
  case finite.zero =>
    rw [unpackedValue_zero, mul_zero]
    exact isRounded_zero _
  case finite.finite =>
    have product : unpackedValue (.finite s₁ m₁ e₁ pos₁) * unpackedValue (.finite s₂ m₂ e₂ pos₂) =
        unit (s₁ * s₂) * ((m₁ * m₂ : ℕ) * 2 ^ (e₁ + e₂)) := by
      rw [unpackedValue_finite, unpackedValue_finite, unit_mul, zpow_add₀ (by norm_num)]
      push_cast
      ring
    have value_pos : (0 : ℚ) < (m₁ * m₂ : ℕ) * 2 ^ (e₁ + e₂) :=
      mul_pos (by exact_mod_cast Nat.mul_pos pos₁ pos₂) (two_zpow_pos _)
    rw [product, abs_unit_mul, abs_of_pos value_pos] at lt
    rw [product]
    exact isRounded_roundWithAccuracy (s₁ * s₂) value_pos lt
      (mul_div_cancel_right₀ _ (two_zpow_pos _).ne')
      (add_exponent_le pos₁ pos₂ hu.2.2.2 hv.2.2.2)

theorem two_pow_log2_le {m : ℕ} (pos : 0 < m) (e : ℤ) :
    (2 : ℚ) ^ ((m.log2 : ℤ) + e) ≤ m * 2 ^ e := by
  rw [zpow_add₀ (by norm_num), zpow_natCast]
  exact mul_le_mul_of_nonneg_right (by exact_mod_cast Nat.log2_self_le pos.ne')
    (two_zpow_pos e).le

theorem lt_two_pow_log2 (m : ℕ) (e : ℤ) : (m : ℚ) * 2 ^ e < 2 ^ ((m.log2 : ℤ) + 1 + e) := by
  rw [zpow_add₀ (by norm_num)]
  refine mul_lt_mul_of_pos_right ?_ (two_zpow_pos e)
  exact_mod_cast Nat.lt_log2_self (n := m)

/-- A quotient has enough digits for its last place. -/
theorem targetExponent_le_ulpExponent {m₁ m₂ : ℕ} (e₁ e₂ : ℤ) (pos₁ : 0 < m₁) (pos₂ : 0 < m₂) :
    Format.binary64.targetExponent (totalExponent m₁ e₁ - totalExponent m₂ e₂) ≤
      ulpExponent ((m₁ * 2 ^ e₁) / (m₂ * 2 ^ e₂)) := by
  have value_pos₁ : (0 : ℚ) < m₁ * 2 ^ e₁ := mul_pos (by exact_mod_cast pos₁) (two_zpow_pos _)
  have value_pos₂ : (0 : ℚ) < m₂ * 2 ^ e₂ := mul_pos (by exact_mod_cast pos₂) (two_zpow_pos _)
  have log : (m₁.log2 : ℤ) + e₁ - (m₂.log2 + 1 + e₂) ≤
      Int.log 2 |((m₁ : ℚ) * 2 ^ e₁) / (m₂ * 2 ^ e₂)| := by
    rw [abs_of_pos (div_pos value_pos₁ value_pos₂)]
    refine (Int.zpow_le_iff_le_log one_lt_two (div_pos value_pos₁ value_pos₂)).1 ?_
    rw [Nat.cast_two, zpow_sub₀ (by norm_num)]
    exact div_le_div₀ value_pos₁.le (two_pow_log2_le pos₁ e₁) value_pos₂
      (lt_two_pow_log2 m₂ e₂).le
  rw [targetExponent_eq, totalExponent, totalExponent, ulpExponent]
  omega

/-- The digits of a quotient before a place. -/
theorem div_place {m₁ m₂ : ℕ} {e₁ e₂ t : ℤ} (le : t ≤ e₁ - e₂) :
    ((m₁ : ℚ) * 2 ^ e₁) / (m₂ * 2 ^ e₂) / 2 ^ t = (m₁ <<< (e₁ - e₂ - t).toNat : ℕ) / m₂ := by
  obtain ⟨k, eq⟩ := Int.eq_ofNat_of_zero_le (sub_nonneg.2 le)
  obtain rfl : e₁ = k + (t + e₂) := by omega
  rw [eq, Int.toNat_natCast, Nat.shiftLeft_eq, div_div, mul_assoc, ← zpow_add₀ (by norm_num),
    add_comm e₂ t, zpow_add₀ (by norm_num), ← mul_assoc,
    mul_div_mul_right _ _ (two_zpow_pos _).ne', zpow_natCast]
  push_cast
  rfl

theorem isRounded_div {u v : UnpackedFloat} (hu : Canonical u) (hv : Canonical v)
    (ne : unpackedValue v ≠ 0) (lt : |unpackedValue u / unpackedValue v| < 2 ^ (1023 : ℤ)) :
    IsRounded (UnpackedFloat.div Format.binary64 u v) (unpackedValue u / unpackedValue v) := by
  rcases u with _ | _ | s₁ | ⟨s₁, m₁, e₁, pos₁⟩ <;>
    rcases v with _ | _ | s₂ | ⟨s₂, m₂, e₂, pos₂⟩ <;>
    try first | exact hu.elim | exact hv.elim | exact absurd rfl ne
  case zero.finite =>
    rw [unpackedValue_zero, zero_div]
    exact isRounded_zero _
  case finite.finite =>
    have quotient : unpackedValue (.finite s₁ m₁ e₁ pos₁) / unpackedValue (.finite s₂ m₂ e₂ pos₂) =
        unit (s₁ / s₂) * ((m₁ * 2 ^ e₁) / (m₂ * 2 ^ e₂)) := by
      rw [unpackedValue_finite, unpackedValue_finite, unit_div, mul_div_mul_comm]
    have value_pos : (0 : ℚ) < (m₁ * 2 ^ e₁) / (m₂ * 2 ^ e₂) :=
      div_pos (mul_pos (by exact_mod_cast pos₁) (two_zpow_pos _))
        (mul_pos (by exact_mod_cast pos₂) (two_zpow_pos _))
    rw [quotient, abs_unit_mul, abs_of_pos value_pos] at lt
    rw [quotient]
    unfold UnpackedFloat.div
    simp only [divCore]
    have enough := targetExponent_le_ulpExponent e₁ e₂ pos₁ pos₂
    generalize Format.binary64.targetExponent (totalExponent m₁ e₁ - totalExponent m₂ e₂) = t
      at enough ⊢
    refine isRounded_roundWithAccuracy (s₁ / s₂) value_pos lt ?_ ((min_le_right _ _).trans enough)
    rw [div_place (min_le_left (e₁ - e₂) t)]
    exact describes_accuracyOfFraction _ pos₂

/-! ## Doubles -/

/-- A finite double that is a number rounded. -/
structure IsNearest (z : Float) (x : ℚ) : Prop where
  finite : z.isFinite = true
  value_eq : value z = nearest x

theorem isNearest_of_isRounded {z : Float} {u : UnpackedFloat} {x : ℚ} (h : IsRounded u x)
    (packed : z.toModel = Float.Model.pack u) : IsNearest z x := by
  have unpacked : z.toModel.unpack = u := by
    rw [packed]
    exact unpack_pack h.canonical
  constructor
  · change z.toModel.unpack.isFinite = true
    rw [unpacked]
    exact h.canonical.isFinite
  · rw [value, unpacked, h.value_eq]

section Operations

variable {x y : Float}

theorem isNearest_add (hx : x.isFinite = true) (hy : y.isFinite = true)
    (lt : |value x + value y| < 2 ^ (1023 : ℤ)) : IsNearest (x + y) (value x + value y) :=
  isNearest_of_isRounded
    (isRounded_add (canonical_of_isFinite hx) (canonical_of_isFinite hy) lt) rfl

theorem isNearest_mul (hx : x.isFinite = true) (hy : y.isFinite = true)
    (lt : |value x * value y| < 2 ^ (1023 : ℤ)) : IsNearest (x * y) (value x * value y) :=
  isNearest_of_isRounded
    (isRounded_mul (canonical_of_isFinite hx) (canonical_of_isFinite hy) lt) rfl

theorem isNearest_div (hx : x.isFinite = true) (hy : y.isFinite = true) (ne : value y ≠ 0)
    (lt : |value x / value y| < 2 ^ (1023 : ℤ)) : IsNearest (x / y) (value x / value y) :=
  isNearest_of_isRounded
    (isRounded_div (canonical_of_isFinite hx) (canonical_of_isFinite hy) ne lt) rfl

end Operations

theorem isNearest_toFloat (n : UInt64) : IsNearest n.toFloat n.toNat := by
  have lt : (n.toNat : ℚ) < 2 ^ (1023 : ℤ) :=
    calc (n.toNat : ℚ) < 2 ^ (64 : ℤ) := by exact_mod_cast n.toNat_lt
      _ ≤ 2 ^ (1023 : ℤ) := zpow_le_zpow_right₀ (by norm_num) (by norm_num)
  have rounded : IsRounded (UnpackedFloat.normalize Format.binary64 (n.toNat : ℤ) 0 .positive)
      (((n.toNat : ℤ) : ℚ) * 2 ^ (0 : ℤ)) :=
    isRounded_normalize .positive (by rwa [zpow_zero, mul_one, Int.cast_natCast, Nat.abs_cast])
  rw [zpow_zero, mul_one, Int.cast_natCast] at rounded
  exact isNearest_of_isRounded rounded rfl

/-- A double below `2 ^ 53` that is an integer is that integer. -/
theorem value_toFloat {n : UInt64} (lt : n.toNat < 2 ^ 53) : value n.toFloat = n.toNat := by
  rw [(isNearest_toFloat n).value_eq, (Representable.natCast lt).nearest_eq]

end Safeguard.Double
