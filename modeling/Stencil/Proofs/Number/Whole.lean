import Mathlib.Algebra.Group.Nat.Defs
import Stencil.Number.Basic

/-! Natural numbers that fit a significand are kept exactly. -/

namespace Stencil.Number

/-- The significand times two to its exponent is a natural number. -/
def HasValue : Number → Nat → Prop
  | finite false significand exponent, value =>
      significand * 2 ^ exponent.toNat = value * 2 ^ (-exponent).toNat
  | _, _ => False

/-- Division by one rounds nothing. -/
theorem divideRounded_one (numerator : Nat) : divideRounded numerator 1 = numerator := by
  simp [divideRounded, Nat.mod_one]

/-- A positive number is brought to a number of places by a shift. -/
theorem shift_bounds {value count : Nat} (positive : value ≠ 0) (within : value.log2 ≤ count) :
    2 ^ count ≤ value * 2 ^ (count - value.log2) ∧
      value * 2 ^ (count - value.log2) < 2 ^ (count + 1) := by
  have lower : 2 ^ value.log2 ≤ value := Nat.log2_self_le positive
  have upper : value < 2 ^ (value.log2 + 1) := Nat.lt_log2_self
  constructor
  · calc 2 ^ count = 2 ^ value.log2 * 2 ^ (count - value.log2) := by
          rw [← Nat.pow_add, Nat.add_sub_of_le within]
      _ ≤ value * 2 ^ (count - value.log2) := Nat.mul_le_mul_right _ lower
  · calc value * 2 ^ (count - value.log2)
        < 2 ^ (value.log2 + 1) * 2 ^ (count - value.log2) :=
          Nat.mul_lt_mul_of_pos_right upper (Nat.two_pow_pos _)
      _ = 2 ^ (count + 1) := by
          rw [← Nat.pow_add]
          congr 1
          omega

/-- Division by two to a negative exponent is a shift. -/
theorem scale_neg (numerator count : Nat) :
    scale numerator 1 (-(count : Int)) = (numerator * 2 ^ count, 1) := by
  simp [scale]

/-- A value below the bound fills the significand under an exponent that is not positive. -/
theorem exponentOf_one {value : Nat} (positive : value ≠ 0) (place : value.log2 ≤ 52) :
    exponentOf value 1 = -((52 - value.log2 : Nat) : Int) := by
  have guessed :
      (value.log2 : Int) - (Nat.log2 1 : Nat) - 53 = -((53 - value.log2 : Nat) : Int) := by
    have one : Nat.log2 1 = 0 := rfl
    omega
  have fills : significandBound * 1 ≤ value * 2 ^ (53 - value.log2) := by
    rw [Nat.mul_one]
    exact (shift_bounds positive (by omega)).1
  simp only [exponentOf, guessed, scale_neg, if_pos fills, minExponent]
  omega

/-- A positive value below the bound is shifted until it fills the significand, and nothing is
rounded. -/
theorem ofNat_of_lt {value : Nat} (positive : value ≠ 0) (small : value < significandBound) :
    ofNat value =
      finite false (value * 2 ^ (52 - value.log2)) (-((52 - value.log2 : Nat) : Int)) := by
  have place : value.log2 ≤ 52 := Nat.le_of_lt_succ ((Nat.log2_lt positive).mpr small)
  have uncarried : value * 2 ^ (52 - value.log2) ≠ significandBound :=
    Nat.ne_of_lt (shift_bounds positive place).2
  have within : ¬ maxExponent < -((52 - value.log2 : Nat) : Int) := by
    rw [maxExponent]
    omega
  simp only [ofNat, ofRatio, if_neg positive, exponentOf_one positive place, scale_neg,
    divideRounded_one, if_neg uncarried, if_neg within]

/-- A natural number that fits a significand is kept exactly. -/
theorem hasValue_ofNat {value : Nat} (small : value < significandBound) :
    (ofNat value).HasValue value := by
  by_cases zero : value = 0
  · have none : ofNat 0 = finite false 0 minExponent := rfl
    rw [zero, none, HasValue, Nat.zero_mul, Nat.zero_mul]
  · rw [ofNat_of_lt zero small]
    rw [HasValue, Int.toNat_neg_natCast, Int.neg_neg, Int.toNat_natCast, Nat.pow_zero, Nat.mul_one]

end Stencil.Number
