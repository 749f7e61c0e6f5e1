import Mathlib.Data.Int.Log
import Mathlib.Data.Rat.Floor

/-!
# The nearest integer and the nearest double

Rounding as a function on the rational numbers, apart from any representation. `halfEven` takes the
nearest integer, a tie to the even one. A double of 53 binary digits has its last digit at
`2 ^ ulpExponent x` near a number `x`, and nowhere below `2 ^ -1074`; `nearest x` is `x` rounded to
this place, with no bound on the exponent.

Rounding keeps the order (`nearest_mono`), leaves doubles as they are
(`Representable.nearest_eq`), and is off by at most one part in `2 ^ 53` of a number that is not
tiny (`nearest_mem_of_normal`).
-/

namespace Safeguard.Double

/-! ## The nearest integer -/

/-- The nearest integer, a tie to the even one. -/
def halfEven (x : ℚ) : ℤ :=
  if Int.fract x < 1 / 2 then ⌊x⌋
  else if 1 / 2 < Int.fract x then ⌊x⌋ + 1
  else ⌊x⌋ + ⌊x⌋ % 2

theorem abs_halfEven_sub_le (x : ℚ) : |(halfEven x : ℚ) - x| ≤ 1 / 2 := by
  have split := Int.floor_add_fract x
  have nonneg := Int.fract_nonneg x
  have lt := Int.fract_lt_one x
  unfold halfEven
  rw [abs_le]
  split
  · constructor <;> linarith
  · split
    · push_cast
      constructor <;> linarith
    · have tie : Int.fract x = 1 / 2 := by linarith
      rcases Int.emod_two_eq_zero_or_one ⌊x⌋ with even | odd
      · rw [even]
        push_cast
        constructor <;> linarith
      · rw [odd]
        push_cast
        constructor <;> linarith

theorem floor_le_halfEven (x : ℚ) : ⌊x⌋ ≤ halfEven x := by
  unfold halfEven
  split
  · exact le_rfl
  · split <;> omega

theorem halfEven_le_floor_add_one (x : ℚ) : halfEven x ≤ ⌊x⌋ + 1 := by
  unfold halfEven
  split
  · omega
  · split <;> omega

theorem halfEven_mono {x y : ℚ} (le : x ≤ y) : halfEven x ≤ halfEven y := by
  rcases (Int.floor_le_floor le).lt_or_eq with lt | eq
  · -- with an integer between them, neither crosses it
    have := halfEven_le_floor_add_one x
    have := floor_le_halfEven y
    omega
  · have fract : Int.fract x ≤ Int.fract y := by
      rw [Int.fract, Int.fract, eq]
      linarith
    unfold halfEven
    rw [eq]
    split_ifs <;> first | omega | (exfalso; linarith)

@[simp] theorem halfEven_intCast (n : ℤ) : halfEven n = n := by
  simp [halfEven]

theorem halfEven_nonneg {x : ℚ} (nonneg : 0 ≤ x) : 0 ≤ halfEven x := by
  have mono := halfEven_mono nonneg
  rwa [← Int.cast_zero, halfEven_intCast] at mono

theorem halfEven_neg (x : ℚ) : halfEven (-x) = -halfEven x := by
  by_cases whole : Int.fract x = 0
  · obtain ⟨n, rfl⟩ : ∃ n : ℤ, (n : ℚ) = x := ⟨⌊x⌋, by linarith [Int.floor_add_fract x]⟩
    rw [← Int.cast_neg, halfEven_intCast, halfEven_intCast]
  · have fract := Int.fract_neg whole
    have floor : ⌊-x⌋ = -⌊x⌋ - 1 := by
      have below := Int.floor_add_fract (-x)
      have above := Int.floor_add_fract x
      have : (⌊-x⌋ : ℚ) = -⌊x⌋ - 1 := by linarith
      exact_mod_cast this
    unfold halfEven
    rw [fract, floor]
    split_ifs <;> first | omega | (exfalso; linarith)

/-! ## The nearest double -/

/-- The exponent of the last digit of a double near a number. -/
def ulpExponent (x : ℚ) : ℤ := max (Int.log 2 |x| - 52) (-1074)

/-- The nearest double, as if exponents had no upper bound. -/
def nearest (x : ℚ) : ℚ := halfEven (x / 2 ^ ulpExponent x) * 2 ^ ulpExponent x

theorem two_zpow_pos (e : ℤ) : (0 : ℚ) < 2 ^ e := zpow_pos (by norm_num) e

@[simp] theorem nearest_zero : nearest 0 = 0 := by
  rw [nearest, zero_div, ← Int.cast_zero, halfEven_intCast, Int.cast_zero, zero_mul]

theorem ulpExponent_neg (x : ℚ) : ulpExponent (-x) = ulpExponent x := by
  rw [ulpExponent, ulpExponent, abs_neg]

theorem nearest_neg (x : ℚ) : nearest (-x) = -nearest x := by
  rw [nearest, nearest, ulpExponent_neg, neg_div, halfEven_neg]
  push_cast
  ring

theorem nearest_nonneg {x : ℚ} (nonneg : 0 ≤ x) : 0 ≤ nearest x := by
  have quotient := div_nonneg nonneg (two_zpow_pos (ulpExponent x)).le
  exact mul_nonneg (by exact_mod_cast halfEven_nonneg quotient) (two_zpow_pos _).le

/-- A number has at most 53 digits before the last place. -/
theorem div_ulp_lt {x : ℚ} : x / 2 ^ ulpExponent x < 2 ^ 53 := by
  rw [div_lt_iff₀ (two_zpow_pos _)]
  calc x ≤ |x| := le_abs_self x
    _ < 2 ^ (Int.log 2 |x| + 1) := by
      exact_mod_cast Int.lt_zpow_succ_log_self one_lt_two |x|
    _ ≤ 2 ^ (53 + ulpExponent x) := by
      refine zpow_le_zpow_right₀ (by norm_num) ?_
      have := le_max_left (Int.log 2 |x| - 52) (-1074)
      rw [ulpExponent]
      omega
    _ = 2 ^ 53 * 2 ^ ulpExponent x := by
      rw [zpow_add₀ (by norm_num)]
      norm_cast

/-- A number that is not tiny has exactly 53 digits before the last place. -/
theorem le_div_ulp {x : ℚ} (pos : 0 < x) (normal : -1074 < ulpExponent x) :
    2 ^ 52 ≤ x / 2 ^ ulpExponent x := by
  rw [le_div_iff₀ (two_zpow_pos _)]
  have log : Int.log 2 |x| = 52 + ulpExponent x := by
    rw [ulpExponent] at normal ⊢
    omega
  calc (2 : ℚ) ^ 52 * 2 ^ ulpExponent x = 2 ^ (52 + ulpExponent x) := by
        rw [zpow_add₀ (by norm_num)]
        norm_cast
    _ = 2 ^ Int.log 2 |x| := by rw [log]
    _ ≤ |x| := by exact_mod_cast Int.zpow_log_le_self one_lt_two (abs_pos.2 pos.ne')
    _ = x := abs_of_pos pos

theorem ulpExponent_mono {x y : ℚ} (pos : 0 < x) (le : x ≤ y) : ulpExponent x ≤ ulpExponent y := by
  have log : Int.log 2 |x| ≤ Int.log 2 |y| :=
    Int.log_mono_right (abs_pos.2 pos.ne') (abs_le_abs_of_nonneg pos.le le)
  rw [ulpExponent, ulpExponent]
  omega

/-- Of two positive numbers the greater one is not rounded below the other. -/
theorem nearest_mono_of_pos {x y : ℚ} (pos : 0 < x) (le : x ≤ y) : nearest x ≤ nearest y := by
  rcases (ulpExponent_mono pos le).lt_or_eq with lt | eq
  · -- a power of two lies between them, which both round to at the farthest
    have normal : -1074 < ulpExponent y := lt_of_le_of_lt (le_max_right _ _) lt
    have upper : halfEven (x / 2 ^ ulpExponent x) ≤ 2 ^ 53 := by
      have mono := halfEven_mono (div_ulp_lt (x := x)).le
      rwa [← Int.cast_two, ← Int.cast_pow, halfEven_intCast] at mono
    have lower : 2 ^ 52 ≤ halfEven (y / 2 ^ ulpExponent y) := by
      have mono := halfEven_mono (le_div_ulp (pos.trans_le le) normal)
      rwa [← Int.cast_two, ← Int.cast_pow, halfEven_intCast] at mono
    calc nearest x ≤ 2 ^ 53 * 2 ^ ulpExponent x :=
          mul_le_mul_of_nonneg_right (by exact_mod_cast upper) (two_zpow_pos _).le
      _ = 2 ^ (53 + ulpExponent x) := by
          rw [zpow_add₀ (by norm_num)]
          norm_cast
      _ ≤ 2 ^ (52 + ulpExponent y) := zpow_le_zpow_right₀ (by norm_num) (by omega)
      _ = 2 ^ 52 * 2 ^ ulpExponent y := by
          rw [zpow_add₀ (by norm_num)]
          norm_cast
      _ ≤ nearest y := mul_le_mul_of_nonneg_right (by exact_mod_cast lower) (two_zpow_pos _).le
  · rw [nearest, nearest, eq]
    have quotient := div_le_div_of_nonneg_right le (two_zpow_pos (ulpExponent y)).le
    exact mul_le_mul_of_nonneg_right (by exact_mod_cast halfEven_mono quotient)
      (two_zpow_pos _).le

/-- Rounding keeps the order. -/
theorem nearest_mono {x y : ℚ} (le : x ≤ y) : nearest x ≤ nearest y := by
  rcases lt_trichotomy 0 x with pos | rfl | neg
  · exact nearest_mono_of_pos pos le
  · rw [nearest_zero]
    exact nearest_nonneg le
  · rcases le_or_gt 0 y with nonneg | neg'
    · have below := nearest_nonneg (neg_nonneg.2 neg.le)
      rw [nearest_neg] at below
      exact (neg_nonneg.1 below).trans (nearest_nonneg nonneg)
    · have mirrored := nearest_mono_of_pos (neg_pos.2 neg') (neg_le_neg le)
      rw [nearest_neg, nearest_neg] at mirrored
      exact neg_le_neg_iff.1 mirrored

/-! ## Doubles among the rational numbers -/

/-- A number that a double has, as if exponents had no upper bound. -/
def Representable (x : ℚ) : Prop := ∃ (m e : ℤ), |m| < 2 ^ 53 ∧ -1074 ≤ e ∧ x = m * 2 ^ e

namespace Representable

/-- The last digit of a double is not before the last place. -/
theorem ulpExponent_le {m e : ℤ} (lt : |m| < 2 ^ 53) (le : -1074 ≤ e) (ne : m ≠ 0) :
    ulpExponent (m * 2 ^ e) ≤ e := by
  have abs : |(m : ℚ) * 2 ^ e| = |(m : ℚ)| * 2 ^ e := by
    rw [abs_mul, abs_of_pos (two_zpow_pos e)]
  have bound : |(m : ℚ) * 2 ^ e| < 2 ^ (53 + e) := by
    rw [abs, zpow_add₀ (by norm_num)]
    exact mul_lt_mul_of_pos_right (by exact_mod_cast lt) (two_zpow_pos e)
  have pos : 0 < |(m : ℚ) * 2 ^ e| :=
    abs_pos.2 (mul_ne_zero (by exact_mod_cast ne) (two_zpow_pos e).ne')
  have log : Int.log 2 |(m : ℚ) * 2 ^ e| < 53 + e :=
    (Int.lt_zpow_iff_log_lt one_lt_two pos).1 (by exact_mod_cast bound)
  rw [ulpExponent]
  omega

/-- Rounding leaves a double as it is. -/
theorem nearest_eq {x : ℚ} (h : Representable x) : nearest x = x := by
  obtain ⟨m, e, lt, le, rfl⟩ := h
  by_cases zero : m = 0
  · simp [zero]
  · have ulp_le := ulpExponent_le lt le zero
    -- in units of the last place the number is an integer
    obtain ⟨k, eq⟩ := Int.eq_ofNat_of_zero_le (sub_nonneg.2 ulp_le)
    have whole : (m : ℚ) * 2 ^ e / 2 ^ ulpExponent (m * 2 ^ e) = ((m * 2 ^ k : ℤ) : ℚ) := by
      rw [mul_div_assoc, ← zpow_sub₀ (by norm_num), eq, zpow_natCast]
      push_cast
      rfl
    rw [nearest, whole, halfEven_intCast, ← whole, div_mul_cancel₀ _ (two_zpow_pos _).ne']

theorem neg {x : ℚ} (h : Representable x) : Representable (-x) := by
  obtain ⟨m, e, lt, le, rfl⟩ := h
  exact ⟨-m, e, by rwa [abs_neg], le, by push_cast; ring⟩

theorem natCast {n : ℕ} (lt : n < 2 ^ 53) : Representable n :=
  ⟨n, 0, by rw [Nat.abs_cast]; exact_mod_cast lt, by norm_num, by simp⟩

end Representable

/-- A number that was rounded is a double. -/
theorem representable_nearest (x : ℚ) : Representable (nearest x) := by
  have least : -1074 ≤ ulpExponent x := le_max_right _ _
  have upper : halfEven (x / 2 ^ ulpExponent x) ≤ 2 ^ 53 := by
    have mono := halfEven_mono (div_ulp_lt (x := x)).le
    rwa [← Int.cast_two, ← Int.cast_pow, halfEven_intCast] at mono
  have lower : -halfEven (x / 2 ^ ulpExponent x) ≤ 2 ^ 53 := by
    have mono := halfEven_mono (div_ulp_lt (x := -x)).le
    rwa [ulpExponent_neg, neg_div, halfEven_neg, ← Int.cast_two, ← Int.cast_pow,
      halfEven_intCast] at mono
  rcases (abs_le'.2 ⟨upper, lower⟩).lt_or_eq with short | long
  · exact ⟨_, _, short, least, rfl⟩
  · -- rounding made it longer by a digit, which is 0
    have two : (2 : ℚ) ≠ 0 := two_ne_zero
    rcases (abs_eq (by norm_num)).1 long with eq | eq
    · refine ⟨2 ^ 52, ulpExponent x + 1, by norm_num, by omega, ?_⟩
      rw [nearest, eq, zpow_add_one₀ two]
      push_cast
      ring
    · refine ⟨-2 ^ 52, ulpExponent x + 1, by norm_num, by omega, ?_⟩
      rw [nearest, eq, zpow_add_one₀ two]
      push_cast
      ring

/-! ## Errors -/

/-- The largest error of rounding, as a share of the number. -/
abbrev roundoff : ℚ := 1 / 2 ^ 53

/-- Rounding is off by half a unit of the last place at most. -/
theorem abs_nearest_sub_le (x : ℚ) : |nearest x - x| ≤ 2 ^ ulpExponent x / 2 := by
  have pos := two_zpow_pos (ulpExponent x)
  have near := abs_halfEven_sub_le (x / 2 ^ ulpExponent x)
  have eq : nearest x - x =
      (halfEven (x / 2 ^ ulpExponent x) - x / 2 ^ ulpExponent x) * 2 ^ ulpExponent x := by
    rw [sub_mul, div_mul_cancel₀ _ pos.ne', nearest]
  rw [eq, abs_mul, abs_of_pos pos]
  calc _ ≤ 1 / 2 * (2 : ℚ) ^ ulpExponent x := mul_le_mul_of_nonneg_right near pos.le
    _ = 2 ^ ulpExponent x / 2 := by ring

/-- A number that is not tiny is rounded within one part in `2 ^ 53`. -/
theorem nearest_mem_of_normal {x : ℚ} (normal : 2 ^ (-1022 : ℤ) ≤ x) :
    x * (1 - roundoff) ≤ nearest x ∧ nearest x ≤ x * (1 + roundoff) := by
  have pos : 0 < x := (two_zpow_pos _).trans_le normal
  have log : -1022 ≤ Int.log 2 |x| := by
    rw [abs_of_pos pos]
    exact (Int.zpow_le_iff_le_log one_lt_two pos).1 (by exact_mod_cast normal)
  have ulp : ulpExponent x = Int.log 2 |x| - 52 := max_eq_left (by omega)
  have half : (2 : ℚ) ^ ulpExponent x / 2 ≤ x * roundoff := by
    have power : (2 : ℚ) ^ Int.log 2 |x| ≤ x := by
      rw [abs_of_pos pos]
      exact_mod_cast Int.zpow_log_le_self one_lt_two pos
    have split : (2 : ℚ) ^ ulpExponent x / 2 = 2 ^ Int.log 2 |x| * roundoff := by
      rw [ulp, zpow_sub₀ (by norm_num), roundoff]
      norm_num
      ring
    rw [split]
    exact mul_le_mul_of_nonneg_right power (by norm_num)
  have near := abs_le.1 ((abs_nearest_sub_le x).trans half)
  constructor <;> linarith

/-- A number `y` computed for `x` with so many roundings in a row. -/
structure WithinRoundings (k : ℕ) (x y : ℚ) : Prop where
  lower : x * (1 - roundoff) ^ k ≤ y
  upper : y ≤ x * (1 + roundoff) ^ k

namespace WithinRoundings

variable {k l : ℕ} {x x' y y' : ℚ}

theorem refl (x : ℚ) : WithinRoundings 0 x x := by
  constructor <;> rw [pow_zero, mul_one]

theorem mono (h : WithinRoundings k x y) (nonneg : 0 ≤ x) (le : k ≤ l) :
    WithinRoundings l x y where
  lower := (mul_le_mul_of_nonneg_left
    (pow_le_pow_of_le_one (by norm_num) (by norm_num) le) nonneg).trans h.lower
  upper := h.upper.trans (mul_le_mul_of_nonneg_left
    (pow_le_pow_right₀ (by norm_num) le) nonneg)

theorem add (h : WithinRoundings k x y) (h' : WithinRoundings k x' y') :
    WithinRoundings k (x + x') (y + y') where
  lower := (add_mul _ _ _).trans_le (add_le_add h.lower h'.lower)
  upper := (add_le_add h.upper h'.upper).trans_eq (add_mul _ _ _).symm

theorem mul_right (h : WithinRoundings k x y) {c : ℚ} (nonneg : 0 ≤ c) :
    WithinRoundings k (x * c) (y * c) where
  lower := (mul_right_comm x c _).trans_le (mul_le_mul_of_nonneg_right h.lower nonneg)
  upper := (mul_le_mul_of_nonneg_right h.upper nonneg).trans_eq (mul_right_comm x _ c)

/-- One more rounding, of a number that is not tiny. -/
theorem nearest (h : WithinRoundings k x y) (sizable : x = 0 ∨ 2 ^ (-40 : ℤ) ≤ x) (few : k ≤ 20) :
    WithinRoundings (k + 1) x (Double.nearest y) := by
  rcases sizable with rfl | le
  · have lower := h.lower
    have upper := h.upper
    rw [zero_mul] at lower upper
    obtain rfl : y = 0 := le_antisymm upper lower
    constructor <;> rw [nearest_zero, zero_mul]
  · have half : (1 / 2 : ℚ) ≤ (1 - roundoff) ^ k :=
      calc (1 / 2 : ℚ) ≤ (1 - roundoff) ^ 20 := by norm_num
        _ ≤ (1 - roundoff) ^ k := pow_le_pow_of_le_one (by norm_num) (by norm_num) few
    have normal : (2 : ℚ) ^ (-1022 : ℤ) ≤ y :=
      calc (2 : ℚ) ^ (-1022 : ℤ) ≤ 2 ^ (-41 : ℤ) := zpow_le_zpow_right₀ (by norm_num) (by norm_num)
        _ = 2 ^ (-40 : ℤ) * (1 / 2) := by norm_num
        _ ≤ x * (1 - roundoff) ^ k :=
            mul_le_mul le half (by norm_num) ((two_zpow_pos _).le.trans le)
        _ ≤ y := h.lower
    obtain ⟨lower, upper⟩ := nearest_mem_of_normal normal
    constructor
    · rw [pow_succ, ← mul_assoc]
      exact (mul_le_mul_of_nonneg_right h.lower (by norm_num)).trans lower
    · rw [pow_succ, ← mul_assoc]
      exact upper.trans (mul_le_mul_of_nonneg_right h.upper (by norm_num))

end WithinRoundings

end Safeguard.Double
