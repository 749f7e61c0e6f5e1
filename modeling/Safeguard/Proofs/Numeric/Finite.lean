import Mathlib.Algebra.Group.Nat.Defs
import Safeguard.Document.Record

/-!
# Finite doubles

A document may give an integer where a double is asked for, and the nearest double is taken. That
double is always finite (`Double.isFinite_toFloat`), and so is its negative
(`Double.isFinite_neg`): an integer of 64 bits is far below the largest double. Both follow from
the exponent with which a number is packed (`Double.InRange`, `Double.isFinite_unpack_pack`).
-/

namespace Safeguard.Double

open Float.Model Float.Model.UnpackedFloat

/-! ## Packing -/

/-- A number that is packed as a finite double: its exponent is not too large. -/
def InRange : UnpackedFloat → Prop
  | .zero _ => True
  | .finite _ _ exponent _ => exponent ≤ 971
  | .infinity _ | .notANumber => False

/-- A mantissa of 53 digits is a leading 1 and the 52 digits that are stored. -/
theorem toNat_one_append (v : BitVec 52) : (1#1 ++ v).toNat = 2 ^ 52 + v.toNat := by
  rw [BitVec.toNat_append, ← Nat.shiftLeft_add_eq_or_of_lt v.isLt]
  rfl

/-- What is stored, by its parts. -/
theorem unpack_eq (bits : BitVec Format.binary64.numBits) :
    UnpackedFloat.unpack Format.binary64 bits =
      if unpackExponent bits = -BitVec.ofNat Format.binary64.exponentBits 1 then
        if unpackMantissa bits = 0#52 then .infinity (Sign.ofBitVec (unpackSign bits))
        else .notANumber
      else if unpackExponent bits = 0#11 then
        if none : unpackMantissa bits = 0#52 then .zero (Sign.ofBitVec (unpackSign bits))
        else .finite (Sign.ofBitVec (unpackSign bits)) (unpackMantissa bits).toNat
          ((unpackExponent bits).toNat - (1023 + 52) + 1)
          (Nat.pos_of_ne_zero fun zero => none (BitVec.eq_of_toNat_eq zero))
      else .finite (Sign.ofBitVec (unpackSign bits)) (1#1 ++ unpackMantissa bits).toNat
        ((unpackExponent bits).toNat - (1023 + 52))
        (Nat.lt_of_lt_of_eq (by omega) (toNat_one_append (unpackMantissa bits)).symm) := rfl

/-- How a number in range is stored. -/
theorem pack_finite (sign : Sign) {m : Nat} {e : Int} (positive : 0 < m) (e_le : e ≤ 971) :
    UnpackedFloat.pack Format.binary64 (.finite sign m e positive) =
      if m.log2 + 1 = 53 then
        packComponents Format.binary64 sign (BitVec.ofNat 11 (e + 1023 + 52).toNat)
          (BitVec.ofNat 52 m)
      else packComponents Format.binary64 sign 0#11 (BitVec.ofNat 52 m) :=
  if_neg (show ¬2048 ≤ (e + 1023 + 52).toNat + 1 by omega)

/-- What is stored of a finite number is a zero, or some digits after a leading 0, or all digits
after a leading 1. -/
theorem unpack_cases {bits : BitVec Format.binary64.numBits}
    (not_all : unpackExponent bits ≠ -BitVec.ofNat Format.binary64.exponentBits 1) :
    (unpackExponent bits = 0#11 ∧ unpackMantissa bits = 0#52 ∧
      UnpackedFloat.unpack Format.binary64 bits = .zero (Sign.ofBitVec (unpackSign bits))) ∨
    (unpackExponent bits = 0#11 ∧ ∃ positive,
      UnpackedFloat.unpack Format.binary64 bits =
        .finite (Sign.ofBitVec (unpackSign bits)) (unpackMantissa bits).toNat (-1074) positive) ∨
    (unpackExponent bits ≠ 0#11 ∧ ∃ positive,
      UnpackedFloat.unpack Format.binary64 bits =
        .finite (Sign.ofBitVec (unpackSign bits)) (2 ^ 52 + (unpackMantissa bits).toNat)
          ((unpackExponent bits).toNat - 1075) positive) := by
  rw [unpack_eq, if_neg not_all]
  by_cases none : unpackExponent bits = 0#11
  · rw [if_pos none]
    by_cases zero : unpackMantissa bits = 0#52
    · exact .inl ⟨none, zero, dif_pos zero⟩
    · have positive : 0 < (unpackMantissa bits).toNat :=
        Nat.pos_of_ne_zero fun eq => zero (BitVec.eq_of_toNat_eq eq)
      refine .inr (.inl ⟨none, positive, ?_⟩)
      rw [dif_neg zero, UnpackedFloat.finite.injEq, none]
      exact ⟨rfl, rfl, rfl⟩
  · have digits := toNat_one_append (unpackMantissa bits)
    refine .inr (.inr ⟨none, by omega, ?_⟩)
    rw [if_neg none, UnpackedFloat.finite.injEq]
    exact ⟨rfl, digits, by omega⟩

theorem isFinite_unpack_iff (bits : BitVec Format.binary64.numBits) :
    (UnpackedFloat.unpack Format.binary64 bits).isFinite = true ↔
      unpackExponent bits ≠ -BitVec.ofNat Format.binary64.exponentBits 1 := by
  by_cases all : unpackExponent bits = -BitVec.ofNat Format.binary64.exponentBits 1
  · rw [unpack_eq, if_pos all]
    refine iff_of_false ?_ fun ne => ne all
    split <;> exact Bool.false_ne_true
  · refine iff_of_true ?_ all
    obtain ⟨-, -, stored⟩ | ⟨-, positive, stored⟩ | ⟨-, positive, stored⟩ := unpack_cases all <;>
      rw [stored] <;> rfl

/-- A number in range is a finite double. -/
theorem isFinite_unpack_pack {u : UnpackedFloat} (inRange : InRange u) :
    (UnpackedFloat.unpack Format.binary64 (UnpackedFloat.pack Format.binary64 u)).isFinite =
      true := by
  rw [isFinite_unpack_iff]
  cases u with
  | infinity | notANumber => exact inRange.elim
  | zero sign =>
    change unpackExponent (packedZero Format.binary64 sign) ≠ _
    rw [packedZero, unpackExponent_packComponents]
    decide
  | finite sign mantissa exponent positive =>
    have exponent_le : exponent ≤ 971 := inRange
    rw [pack_finite sign positive exponent_le]
    split
    · rw [unpackExponent_packComponents]
      intro eq
      have eq := congrArg BitVec.toNat eq
      rw [BitVec.toNat_ofNat] at eq
      change _ = 2047 at eq
      omega
    · rw [unpackExponent_packComponents]
      decide

/-- A finite double is in range. -/
theorem inRange_unpack {bits : BitVec Format.binary64.numBits}
    (finite : (UnpackedFloat.unpack Format.binary64 bits).isFinite = true) :
    InRange (UnpackedFloat.unpack Format.binary64 bits) := by
  have not_all := (isFinite_unpack_iff bits).1 finite
  have lt : (unpackExponent bits).toNat < 2047 := by
    have le : (unpackExponent bits).toNat < 2048 := (unpackExponent bits).isLt
    refine Nat.lt_of_le_of_ne (Nat.le_of_lt_succ le) fun eq => not_all ?_
    exact BitVec.eq_of_toNat_eq eq
  obtain ⟨-, -, stored⟩ | ⟨-, positive, stored⟩ | ⟨-, positive, stored⟩ := unpack_cases not_all
  · rw [stored]
    trivial
  · rw [stored]
    exact show (-1074 : Int) ≤ 971 by decide
  · rw [stored]
    exact show ((unpackExponent bits).toNat : Int) - 1075 ≤ 971 by omega

theorem isFinite_neg {x : Float} (finite : x.isFinite = true) : (-x).isFinite = true := by
  have inRange := inRange_unpack finite
  refine isFinite_unpack_pack ?_
  change InRange (UnpackedFloat.unpack Format.binary64 x.toModel.toBits.toBitVec).neg
  cases unpacked : UnpackedFloat.unpack Format.binary64 x.toModel.toBits.toBitVec with
  | zero sign => trivial
  | finite sign mantissa exponent positive =>
    rw [unpacked] at inRange
    exact inRange
  | infinity sign | notANumber =>
    rw [unpacked] at inRange
    exact inRange.elim

/-! ## Rounding -/

theorem mantissa_shiftRight_le (m : ExtendedMantissa) (k : Nat) :
    (m >>> k).mantissa ≤ m.mantissa := by
  induction k with
  | zero => exact Nat.le_refl _
  | succ k ih => exact Nat.le_trans (Nat.div_le_self _ 2) ih

theorem roundedMantissa_le (m : ExtendedMantissa) : m.roundedMantissa ≤ m.mantissa + 1 := by
  obtain ⟨mantissa, roundBit, stickyBit⟩ := m
  cases roundBit <;> cases stickyBit <;>
    simp only [ExtendedMantissa.roundedMantissa, ExtendedMantissa.accuracy,
      Accuracy.roundToNearestEven] <;> omega

theorem mantissa_ofMantissaAndAccuracy (m : Nat) (a : Accuracy) :
    (ExtendedMantissa.ofMantissaAndAccuracy m a).mantissa = m := by
  cases a with
  | exact => rfl
  | inexact side => cases side <;> rfl

/-- A shift to the exponent that the format wants makes the mantissa no larger, and the exponent
not much larger. -/
theorem shiftToTargetExponent_le {m k : Nat} {e : Int} (lt : m < 2 ^ k) (accuracy : Accuracy) :
    (shiftToTargetExponent Format.binary64 m e accuracy).1.mantissa ≤ m ∧
      (shiftToTargetExponent Format.binary64 m e accuracy).2 ≤ max e (k + 1 + max e (-1074)) := by
  have log : m.log2 ≤ k := by
    by_cases zero : m = 0
    · simp [zero]
    · exact Nat.le_of_lt ((Nat.log2_lt zero).2 lt)
  have bits : (Format.binary64.mantissaBits : Int) = 53 := rfl
  have least : Format.binary64.minExponent = -1074 := rfl
  refine ⟨?_, ?_⟩
  · exact Nat.le_trans (mantissa_shiftRight_le _ _)
      (Nat.le_of_eq (mantissa_ofMantissaAndAccuracy m accuracy))
  · simp only [shiftToTargetExponent, shiftToExponent, Format.targetExponent, totalExponent, bits,
      least]
    omega

theorem inRange_roundWithAccuracy (sign : Sign) {m k : Nat} {e : Int} (lt : m < 2 ^ k)
    (small : k ≤ 200) (e_le : e ≤ 0) (accuracy : Accuracy) :
    InRange (roundWithAccuracy Format.binary64 sign m e accuracy) := by
  obtain ⟨mantissa_le, exponent_le⟩ := shiftToTargetExponent_le (e := e) lt accuracy
  rcases first : shiftToTargetExponent Format.binary64 m e accuracy with ⟨em, e'⟩
  rw [first] at mantissa_le exponent_le
  have rounded : em.roundedMantissa < 2 ^ (k + 1) := by
    have le := roundedMantissa_le em
    have pos : 0 < 2 ^ k := Nat.two_pow_pos k
    rw [Nat.pow_succ]
    dsimp only at mantissa_le
    omega
  obtain ⟨-, last_le⟩ := shiftToTargetExponent_le (e := e') rounded .exact
  rw [roundWithAccuracy, first]
  dsimp only at exponent_le ⊢
  by_cases zero :
      (shiftToTargetExponent Format.binary64 em.roundedMantissa e' .exact).1.mantissa = 0
  · rw [dif_pos zero]
    trivial
  · rw [dif_neg zero]
    change (shiftToTargetExponent Format.binary64 em.roundedMantissa e' .exact).2 ≤ 971
    omega

/-- A mantissa of few bits is rounded to a number in range. -/
theorem inRange_round (sign : Sign) {m : Nat} (lt : m < 2 ^ 64) :
    InRange (round Format.binary64 sign m 0) := by
  have bits : (Format.binary64.mantissaBits : Int) = 53 := rfl
  have least : Format.binary64.minExponent = -1074 := rfl
  have shift : (0 - Format.binary64.targetExponent (totalExponent m 0)).toNat ≤ 52 := by
    simp only [Format.targetExponent, totalExponent, bits, least]
    omega
  simp only [UnpackedFloat.round, decreaseExponent]
  refine inRange_roundWithAccuracy sign (k := 116) ?_ (by omega) (by omega) .exact
  rw [Nat.shiftLeft_eq, show 116 = 64 + 52 from rfl, Nat.pow_add]
  exact Nat.mul_lt_mul_of_lt_of_le lt (Nat.pow_le_pow_right (by omega) shift) (by omega)

/-- The double nearest to a number of 64 bits is finite. -/
theorem isFinite_toFloat (n : UInt64) : n.toFloat.isFinite = true := by
  refine isFinite_unpack_pack ?_
  have lt : n.toNat < 2 ^ 64 := n.toNat_lt
  change InRange (normalize Format.binary64 (n.toNat : Int) 0 .positive)
  unfold UnpackedFloat.normalize
  split
  · rename_i neg
    rw [Int.compare_eq_lt] at neg
    omega
  · trivial
  · exact inRange_round .positive (by omega)

end Safeguard.Double
