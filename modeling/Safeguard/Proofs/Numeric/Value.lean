import Safeguard.Proofs.Numeric.Finite
import Safeguard.Proofs.Numeric.Nearest
import Safeguard.Proofs.Numeric.Order

/-!
# The values of doubles

A finite double has a rational number as its value. It is stored in one way only (`Canonical`,
`canonical_unpack`, `unpack_pack`), so doubles compare as their values do (`lt_iff_value`,
`le_iff_value`), and a value is left as it is by rounding (`Canonical.representable`).
-/

namespace Safeguard.Double

open Float.Model Float.Model.UnpackedFloat

/-! ## Values -/

/-- The sign of a number. -/
def unit : Sign → ℚ
  | .negative => -1
  | .positive => 1

/-- The value of a finite number, and 0 for all others. -/
def unpackedValue : UnpackedFloat → ℚ
  | .finite sign mantissa exponent _ => unit sign * (mantissa * 2 ^ exponent)
  | _ => 0

@[simp] theorem unpackedValue_zero (sign : Sign) : unpackedValue (.zero sign) = 0 := rfl

theorem unpackedValue_finite (sign : Sign) {m : ℕ} (e : ℤ) (positive : 0 < m) :
    unpackedValue (.finite sign m e positive) = unit sign * (m * 2 ^ e) := rfl

/-- The value of a finite double. -/
def value (x : Float) : ℚ := unpackedValue x.toModel.unpack

/-- A finite number in the form in which it is stored. -/
def Canonical : UnpackedFloat → Prop
  | .zero _ => True
  | .finite _ mantissa exponent _ =>
    mantissa < 2 ^ 53 ∧ -1074 ≤ exponent ∧ exponent ≤ 971 ∧
      (2 ^ 52 ≤ mantissa ∨ exponent = -1074)
  | .infinity _ | .notANumber => False

theorem Canonical.isFinite {u : UnpackedFloat} (h : Canonical u) : u.isFinite = true := by
  cases u with
  | zero | finite => rfl
  | infinity | notANumber => exact h.elim

/-! ## Packing -/

@[simp] theorem unpackSign_packComponents {spec : Format} (sign : Sign)
    (exponent : BitVec spec.exponentBits) (mantissa : BitVec spec.mantissaBitsWithoutImplicit) :
    unpackSign (packComponents spec sign exponent mantissa) = sign.toBitVec := by
  ext i hi
  obtain rfl : i = 0 := by omega
  unfold unpackSign
  simp [packComponents, BitVec.getLsbD_append, BitVec.getElem_append]

@[simp] theorem ofBitVec_toBitVec (sign : Sign) : Sign.ofBitVec sign.toBitVec = sign := by
  cases sign <;> rfl

/-- The stored form of a number whose mantissa has all its digits. -/
theorem unpack_packComponents_normal (sign : Sign) {m : ℕ} {e : ℤ} (positive : 0 < m)
    (le : 2 ^ 52 ≤ m) (lt : m < 2 ^ 53) (least : -1074 ≤ e) (most : e ≤ 971) :
    UnpackedFloat.unpack Format.binary64
        (packComponents Format.binary64 sign (BitVec.ofNat 11 (e + 1075).toNat)
          (BitVec.ofNat 52 m)) =
      .finite sign m e positive := by
  have stored : (BitVec.ofNat 11 (e + 1075).toNat).toNat = (e + 1075).toNat := by
    rw [BitVec.toNat_ofNat]
    omega
  have not_all : BitVec.ofNat 11 (e + 1075).toNat ≠ -1#11 := by
    intro all
    have all := congrArg BitVec.toNat all
    rw [stored] at all
    change _ = 2047 at all
    omega
  have not_none : BitVec.ofNat 11 (e + 1075).toNat ≠ 0#11 := by
    intro none
    have none := congrArg BitVec.toNat none
    rw [stored] at none
    change _ = 0 at none
    omega
  have digits : (1#1 ++ BitVec.ofNat 52 m).toNat = m := by
    rw [toNat_one_append, BitVec.toNat_ofNat]
    omega
  have exponent : ((BitVec.ofNat 11 (e + 1075).toNat).toNat : ℤ) - (1023 + 52) = e := by omega
  rw [unpack_eq, unpackExponent_packComponents, if_neg not_all, if_neg not_none,
    UnpackedFloat.finite.injEq, unpackSign_packComponents, ofBitVec_toBitVec,
    unpackMantissa_packComponents]
  exact ⟨rfl, digits, exponent⟩

/-- The stored form of a number below the ones with all their digits. -/
theorem unpack_packComponents_subnormal (sign : Sign) {m : ℕ} (positive : 0 < m)
    (lt : m < 2 ^ 52) :
    UnpackedFloat.unpack Format.binary64
        (packComponents Format.binary64 sign 0#11 (BitVec.ofNat 52 m)) =
      .finite sign m (-1074) positive := by
  have digits : (BitVec.ofNat 52 m).toNat = m := by
    rw [BitVec.toNat_ofNat]
    omega
  have stored : unpackMantissa (packComponents Format.binary64 sign 0#11 (BitVec.ofNat 52 m)) =
      BitVec.ofNat 52 m := unpackMantissa_packComponents
  have not_none : unpackMantissa (packComponents Format.binary64 sign 0#11 (BitVec.ofNat 52 m)) ≠
      0#52 := by
    intro none
    have none := congrArg BitVec.toNat (stored.symm.trans none)
    rw [digits] at none
    change _ = 0 at none
    omega
  rw [unpack_eq, unpackExponent_packComponents, if_neg (by decide), if_pos rfl, dif_neg not_none,
    UnpackedFloat.finite.injEq, unpackSign_packComponents, ofBitVec_toBitVec, stored]
  exact ⟨rfl, digits, rfl⟩

/-- A number in its stored form survives being stored. -/
theorem unpack_pack {u : UnpackedFloat} (h : Canonical u) :
    UnpackedFloat.unpack Format.binary64 (UnpackedFloat.pack Format.binary64 u) = u := by
  cases u with
  | infinity | notANumber => exact h.elim
  | zero sign =>
    change UnpackedFloat.unpack Format.binary64
      (packComponents Format.binary64 sign 0#11 0#52) = _
    rw [unpack_eq, unpackExponent_packComponents, if_neg (by decide), if_pos rfl,
      dif_pos unpackMantissa_packComponents, unpackSign_packComponents, ofBitVec_toBitVec]
  | finite sign m e positive =>
    obtain ⟨lt, least, most, normal⟩ := h
    rw [pack_finite sign positive most, add_assoc]
    by_cases le : 2 ^ 52 ≤ m
    · have log : m.log2 = 52 := (Nat.log2_eq_iff positive.ne').2 ⟨le, lt⟩
      rw [if_pos (by omega)]
      exact unpack_packComponents_normal sign positive le lt least most
    · have log : m.log2 < 52 := (Nat.log2_lt positive.ne').2 (not_le.1 le)
      obtain rfl := normal.resolve_left le
      rw [if_neg (by omega)]
      exact unpack_packComponents_subnormal sign positive (not_le.1 le)

/-- What is read from storage is in its stored form. -/
theorem canonical_unpack {bits : BitVec Format.binary64.numBits}
    (finite : (UnpackedFloat.unpack Format.binary64 bits).isFinite = true) :
    Canonical (UnpackedFloat.unpack Format.binary64 bits) := by
  have inRange := inRange_unpack finite
  have not_all := (isFinite_unpack_iff bits).1 finite
  have mantissa : (unpackMantissa bits).toNat < 2 ^ 52 := (unpackMantissa bits).isLt
  obtain ⟨-, -, stored⟩ | ⟨-, positive, stored⟩ | ⟨some, positive, stored⟩ :=
    unpack_cases not_all
  · rw [stored]
    trivial
  · rw [stored]
    exact ⟨by omega, le_rfl, by norm_num, .inr rfl⟩
  · have pos : 0 < (unpackExponent bits).toNat :=
      Nat.pos_of_ne_zero fun zero => some (BitVec.eq_of_toNat_eq zero)
    rw [stored] at inRange ⊢
    exact ⟨by omega, by omega, inRange, .inl (by omega)⟩

/-! ## Doubles -/

/-- A finite double is in its stored form. -/
theorem canonical_of_isFinite {x : Float} (finite : x.isFinite = true) :
    Canonical x.toModel.unpack :=
  canonical_unpack finite

theorem Canonical.representable {u : UnpackedFloat} (h : Canonical u) :
    Representable (unpackedValue u) := by
  cases u with
  | infinity | notANumber => exact h.elim
  | zero => exact ⟨0, 0, by norm_num, by norm_num, by simp⟩
  | finite sign m e positive =>
    obtain ⟨lt, least, -⟩ := h
    have stored : Representable (m * 2 ^ e) :=
      ⟨m, e, by rw [Nat.abs_cast]; exact_mod_cast lt, least, by simp⟩
    cases sign with
    | negative =>
      rw [unpackedValue_finite, unit, neg_one_mul]
      exact stored.neg
    | positive =>
      rw [unpackedValue_finite, unit, one_mul]
      exact stored

/-! ## Comparison -/

/-- Of two numbers in their stored form the one with the lower exponent is less. -/
theorem digits_lt_of_exponent_lt {m₁ m₂ : ℕ} {e₁ e₂ : ℤ} (lt₁ : m₁ < 2 ^ 53)
    (normal₂ : 2 ^ 52 ≤ m₂) (lt : e₁ < e₂) : (m₁ : ℚ) * 2 ^ e₁ < m₂ * 2 ^ e₂ :=
  calc (m₁ : ℚ) * 2 ^ e₁ < 2 ^ 53 * 2 ^ e₁ :=
        mul_lt_mul_of_pos_right (by exact_mod_cast lt₁) (two_zpow_pos e₁)
    _ = 2 ^ 52 * 2 ^ (e₁ + 1) := by
        rw [zpow_add_one₀ (by norm_num)]
        ring
    _ ≤ 2 ^ 52 * 2 ^ e₂ :=
        mul_le_mul_of_nonneg_left (zpow_le_zpow_right₀ (by norm_num) (by omega)) (by norm_num)
    _ ≤ m₂ * 2 ^ e₂ :=
        mul_le_mul_of_nonneg_right (by exact_mod_cast normal₂) (two_zpow_pos e₂).le

/-- Numbers in their stored form compare digit by digit. -/
theorem compare_digits {m₁ m₂ : ℕ} {e₁ e₂ : ℤ} (lt₁ : m₁ < 2 ^ 53) (lt₂ : m₂ < 2 ^ 53)
    (least₁ : -1074 ≤ e₁) (least₂ : -1074 ≤ e₂) (normal₁ : 2 ^ 52 ≤ m₁ ∨ e₁ = -1074)
    (normal₂ : 2 ^ 52 ≤ m₂ ∨ e₂ = -1074) :
    (compare e₁ e₂).then (compare m₁ m₂) = compare ((m₁ : ℚ) * 2 ^ e₁) (m₂ * 2 ^ e₂) := by
  rcases lt_trichotomy e₁ e₂ with lt | rfl | gt
  · have value_lt := digits_lt_of_exponent_lt lt₁ (normal₂.resolve_right (by omega)) lt
    rw [compare_lt_iff_lt.2 lt, compare_lt_iff_lt.2 value_lt]
    rfl
  · rw [compare_eq_iff_eq.2 rfl]
    change compare m₁ m₂ = _
    rcases lt_trichotomy m₁ m₂ with lt | rfl | gt
    · have value_lt : (m₁ : ℚ) * 2 ^ e₁ < m₂ * 2 ^ e₁ :=
        mul_lt_mul_of_pos_right (by exact_mod_cast lt) (two_zpow_pos e₁)
      rw [compare_lt_iff_lt.2 lt, compare_lt_iff_lt.2 value_lt]
    · rw [compare_eq_iff_eq.2 rfl, compare_eq_iff_eq.2 rfl]
    · have value_lt : (m₂ : ℚ) * 2 ^ e₁ < m₁ * 2 ^ e₁ :=
        mul_lt_mul_of_pos_right (by exact_mod_cast gt) (two_zpow_pos e₁)
      rw [compare_gt_iff_gt.2 gt, compare_gt_iff_gt.2 value_lt]
  · have value_lt := digits_lt_of_exponent_lt lt₂ (normal₁.resolve_right (by omega)) gt
    rw [compare_gt_iff_gt.2 gt, compare_gt_iff_gt.2 value_lt]
    rfl

theorem unpackedValue_positive {m : ℕ} (e : ℤ) (positive : 0 < m) :
    0 < unpackedValue (.finite .positive m e positive) := by
  rw [unpackedValue_finite, unit, one_mul]
  exact mul_pos (by exact_mod_cast positive) (two_zpow_pos e)

theorem unpackedValue_negative {m : ℕ} (e : ℤ) (positive : 0 < m) :
    unpackedValue (.finite .negative m e positive) < 0 := by
  rw [unpackedValue_finite, unit, neg_one_mul, neg_lt_zero]
  exact mul_pos (by exact_mod_cast positive) (two_zpow_pos e)

theorem compare_neg_neg (x y : ℚ) : compare (-x) (-y) = compare y x := by
  rcases lt_trichotomy x y with lt | rfl | gt
  · rw [compare_gt_iff_gt.2 (neg_lt_neg lt), compare_gt_iff_gt.2 lt]
  · rw [compare_eq_iff_eq.2 rfl, compare_eq_iff_eq.2 rfl]
  · rw [compare_lt_iff_lt.2 (neg_lt_neg gt), compare_lt_iff_lt.2 gt]

/-- Numbers in their stored form compare as their values do. -/
theorem compare_eq {u v : UnpackedFloat} (hu : Canonical u) (hv : Canonical v) :
    u.compare v = some (compare (unpackedValue u) (unpackedValue v)) := by
  rcases u with _ | _ | _ | ⟨_ | _, m₁, e₁, pos₁⟩ <;>
    rcases v with _ | _ | _ | ⟨_ | _, m₂, e₂, pos₂⟩ <;>
    try first | exact hu.elim | exact hv.elim
  case zero.zero => exact congrArg some (compare_eq_iff_eq.2 rfl).symm
  case zero.finite.negative =>
    exact congrArg some (compare_gt_iff_gt.2 (unpackedValue_negative e₂ pos₂)).symm
  case zero.finite.positive =>
    exact congrArg some (compare_lt_iff_lt.2 (unpackedValue_positive e₂ pos₂)).symm
  case finite.negative.zero =>
    exact congrArg some (compare_lt_iff_lt.2 (unpackedValue_negative e₁ pos₁)).symm
  case finite.positive.zero =>
    exact congrArg some (compare_gt_iff_gt.2 (unpackedValue_positive e₁ pos₁)).symm
  case finite.negative.finite.positive =>
    exact congrArg some (compare_lt_iff_lt.2
      ((unpackedValue_negative e₁ pos₁).trans (unpackedValue_positive e₂ pos₂))).symm
  case finite.positive.finite.negative =>
    exact congrArg some (compare_gt_iff_gt.2
      ((unpackedValue_negative e₂ pos₂).trans (unpackedValue_positive e₁ pos₁))).symm
  case finite.positive.finite.positive =>
    rw [unpackedValue_finite, unpackedValue_finite, unit, one_mul, one_mul,
      ← compare_digits hu.1 hv.1 hu.2.1 hv.2.1 hu.2.2.2 hv.2.2.2]
    rfl
  case finite.negative.finite.negative =>
    change some (((compare e₁ e₂).then (compare m₁ m₂)).swap) = _
    rw [swap_compare_digits, compare_digits hv.1 hu.1 hv.2.1 hu.2.1 hv.2.2.2 hu.2.2.2,
      unpackedValue_finite, unpackedValue_finite, unit, neg_one_mul, neg_one_mul]
    exact congrArg some (compare_neg_neg _ _).symm

theorem lt_iff_value {x y : Float} (hx : x.isFinite = true) (hy : y.isFinite = true) :
    x < y ↔ value x < value y := by
  rw [lt_iff, compare_eq (canonical_of_isFinite hx) (canonical_of_isFinite hy),
    Option.some_inj, compare_lt_iff_lt]
  rfl

theorem le_iff_value {x y : Float} (hx : x.isFinite = true) (hy : y.isFinite = true) :
    x ≤ y ↔ value x ≤ value y := by
  rw [le_iff, compare_eq (canonical_of_isFinite hx) (canonical_of_isFinite hy)]
  simp only [Option.some_inj, exists_eq_left', ← Ordering.ne_gt_iff_isLE,
    compare_gt_iff_gt, not_lt]
  rfl

end Safeguard.Double
