/-!
# The order of doubles

Two doubles that are numbers compare: of two numbers, one is less than the other or it is not
(`Double.not_lt_iff`). What is no number compares with nothing (`Double.not_le_of_isNaN`), so it is
in no range.
-/

namespace Safeguard.Double

open Float.Model

/-! ## Comparison -/

theorem swap_compare_digits (e₁ e₂ : Int) (m₁ m₂ : Nat) :
    ((compare e₁ e₂).then (compare m₁ m₂)).swap = (compare e₂ e₁).then (compare m₂ m₁) := by
  rw [Ordering.swap_then, ← Std.OrientedOrd.eq_swap, ← Std.OrientedOrd.eq_swap]

/-- The other way around, a comparison gives the opposite. -/
theorem compare_swap (a b : UnpackedFloat) :
    b.compare a = (a.compare b).map Ordering.swap := by
  rcases a with (_ | _) | _ | (_ | _) | ⟨_ | _, m, e, _⟩ <;>
    rcases b with (_ | _) | _ | (_ | _) | ⟨_ | _, m', e', _⟩ <;> try rfl
  case finite.negative.finite.negative =>
    exact congrArg (fun o => some (Ordering.swap o)) (swap_compare_digits e e' m m').symm
  case finite.positive.finite.positive =>
    exact congrArg some (swap_compare_digits e e' m m').symm

/-- What is no number does not compare. -/
theorem isSome_compare_iff (a b : UnpackedFloat) :
    (a.compare b).isSome = true ↔ a.isNaN = false ∧ b.isNaN = false := by
  rcases a with (_ | _) | _ | (_ | _) | ⟨_ | _, _, _, _⟩ <;>
    rcases b with (_ | _) | _ | (_ | _) | ⟨_ | _, _, _, _⟩ <;>
    first
      | exact iff_of_true rfl ⟨rfl, rfl⟩
      | exact iff_of_false Bool.false_ne_true fun numbers => Bool.true_eq_false.mp numbers.1
      | exact iff_of_false Bool.false_ne_true fun numbers => Bool.true_eq_false.mp numbers.2

/-! ## Doubles -/

theorem lt_iff (x y : Float) :
    x < y ↔ x.toModel.unpack.compare y.toModel.unpack = some .lt := by
  have unfolded : x < y ↔ x.toModel.unpack.lt y.toModel.unpack = true := decide_eq_true_iff
  rw [unfolded, UnpackedFloat.lt, beq_iff_eq]

theorem le_iff (x y : Float) :
    x ≤ y ↔ ∃ o, x.toModel.unpack.compare y.toModel.unpack = some o ∧ o.isLE = true := by
  have unfolded : x ≤ y ↔ x.toModel.unpack.le y.toModel.unpack = true := decide_eq_true_iff
  rw [unfolded, UnpackedFloat.le, Option.any_eq_true]

theorem isNaN_eq_false_of_isFinite {x : Float} (finite : x.isFinite = true) :
    x.isNaN = false := by
  change x.toModel.unpack.isFinite = true at finite
  change x.toModel.unpack.isNaN = false
  revert finite
  cases x.toModel.unpack with
  | notANumber => exact fun finite => absurd finite Bool.false_ne_true
  | zero | finite | infinity => exact fun _ => rfl

/-- A number that is not less than another one is at least as large. -/
theorem not_lt_iff {x y : Float} (x_number : x.isNaN = false) (y_number : y.isNaN = false) :
    ¬x < y ↔ y ≤ x := by
  obtain ⟨o, compared⟩ := Option.isSome_iff_exists.mp
    ((isSome_compare_iff x.toModel.unpack y.toModel.unpack).mpr ⟨x_number, y_number⟩)
  rw [lt_iff, le_iff, compare_swap x.toModel.unpack, compared]
  cases o <;> simp

/-- What is no number is not in any range. -/
theorem not_le_of_isNaN {x y : Float} (no_number : x.isNaN = true) : ¬y ≤ x := by
  intro le
  obtain ⟨o, compared, -⟩ := (le_iff y x).mp le
  have numbers := (isSome_compare_iff _ _).mp (Option.isSome_iff_exists.mpr ⟨o, compared⟩)
  exact absurd (no_number.symm.trans numbers.2) Bool.true_eq_false.mp

end Safeguard.Double
