import Formulary.Proofs.Decimal.Monotone
import Formulary.Proofs.Number.Arithmetic

/-!
# Results as rounded ratios

Sums, products and quotients of decimals are exact ratios that are rounded
once.  `Key.nearest` is what a ratio is rounded to: the units of the nearest
decimal, or the infinity with the sign of the ratio if no decimal has room.

The sign of an infinite sum is taken from its first operand alone.  It is the
sign of the exact sum nevertheless, since a sum of decimals with different
signs is never too large.
-/

namespace Formulary

namespace Decimal

/-- A sum that is not larger than a decimal has room. -/
theorem exists_nearestSum
    {total : Int}
    {decimal : Decimal}
    (le : total.natAbs ≤ decimal.units.natAbs) :
    ∃ units, nearestSum total = some units := by
  rcases Option.map_eq_some_iff.1 (nearestUnits_size decimal false) with
    ⟨size', found, _⟩
  rw [natAbs_units] at le
  rcases
      exists_nearestSize_le (tenTo_pos maxScale) (tenTo_pos maxScale)
        (Nat.mul_le_mul_right _ le) (Nat.le_refl _) found with
    ⟨size, smaller, _⟩
  exact ⟨_, by rw [nearestSum, nearestUnits, smaller, Option.map_some]⟩

/-- A sum that is too large has the sign of its first operand. -/
theorem decide_neg_of_nearestSum_eq_none
    {left right : Decimal}
    (tooLarge : nearestSum (left.units + right.units) = none) :
    decide (left.units < 0) = decide (left.units + right.units < 0) := by
  rw [decide_eq_decide]
  by_cases smaller :
    (left.units + right.units).natAbs ≤ right.units.natAbs
  · rcases exists_nearestSum smaller with ⟨units, found⟩
    rw [tooLarge] at found
    cases found
  · omega

end Decimal

namespace Number

namespace Key

/-- A number of units other than zero changes its sign. -/
theorem decide_neg_lt_zero
    {units : Int}
    (nonzero : units ≠ 0) :
    decide (-units < 0) = !decide (units < 0) := by
  rw [← decide_not, decide_eq_decide]
  omega

/-- What a ratio is rounded to. -/
def nearest (numerator : Int) (denominator : Nat) : Key :=
  ofResult
    (nearestUnits (decide (numerator < 0)) numerator.natAbs
      denominator)
    (decide (numerator < 0))

theorem nearest_ne_nan
    (numerator : Int)
    (denominator : Nat) :
    nearest numerator denominator ≠ .nan := by
  rw [nearest]
  cases nearestUnits _ _ _ with
  | none => nofun
  | some units => nofun

/-- What is rounded to under the other sign has the other sign. -/
theorem nearest_neg
    (numerator : Int)
    {denominator : Nat}
    (positive : 0 < denominator) :
    nearest (-numerator) denominator = (nearest numerator denominator).neg := by
  by_cases zero : numerator = 0
  · have atZero : nearest 0 denominator = .finite 0 := by
      rw [nearest, Int.natAbs_zero, nearestUnits_zero positive]
      rfl
    rw [zero, Int.neg_zero, atZero, neg, Int.neg_zero]
  · rw [nearest, nearest, Int.natAbs_neg, decide_neg_lt_zero zero,
      nearestUnits, nearestUnits]
    cases nearestSize numerator.natAbs denominator maxScale with
    | none => rfl
    | some size =>
        cases decide (numerator < 0) with
        | false => rfl
        | true => exact congrArg Key.finite (Int.neg_neg _).symm

theorem mul_finite
    (left right : Int) :
    mul (.finite left) (.finite right) =
      nearest (left * right) (tenTo (maxScale + maxScale)) := by
  rw [mul, isNegative, isNegative]
  cases result : Decimal.nearestProduct left right with
  | some units =>
      rw [Decimal.nearestProduct] at result
      rw [nearest, result]
      rfl
  | none =>
      have nonzero : left * right ≠ 0 := by
        intro zero
        rw [Decimal.nearestProduct, zero, Int.natAbs_zero,
          nearestUnits_zero (tenTo_pos _)] at result
        cases result
      rw [Int.mul_ne_zero_iff] at nonzero
      rw [← Decimal.decide_mul_lt_zero nonzero.1 nonzero.2, ← result]
      rfl

theorem div_finite
    (dividend : Int)
    {divisor : Int}
    (nonzero : divisor ≠ 0) :
    div (.finite dividend) (.finite divisor) =
      nearest (dividend * divisor.sign) divisor.natAbs := by
  have size : (dividend * divisor.sign).natAbs = dividend.natAbs := by
    rw [Int.natAbs_mul, Int.natAbs_sign_of_ne_zero nonzero, Nat.mul_one]
  have sign :
      decide (dividend * divisor < 0) =
        decide (dividend * divisor.sign < 0) := by
    rw [← Decimal.decide_mul_neg (dividend * divisor.sign)
        (Int.natAbs_pos.2 nonzero),
      Int.mul_assoc, Int.sign_mul_natAbs]
  have rounded :
      Decimal.nearestRatio dividend divisor =
        nearestUnits (decide (dividend * divisor.sign < 0))
          (dividend * divisor.sign).natAbs divisor.natAbs := by
    rw [Decimal.nearestRatio, sign, size]
  rw [div, if_neg nonzero, isNegative, isNegative, nearest, ← rounded]
  cases result : Decimal.nearestRatio dividend divisor with
  | some units => rfl
  | none =>
      have apart : dividend ≠ 0 := by
        rintro rfl
        rw [Decimal.nearestRatio, Int.natAbs_zero,
          nearestUnits_zero (Int.natAbs_pos.2 nonzero)] at result
        cases result
      rw [← sign, Decimal.decide_mul_lt_zero apart nonzero]

end Key

/-- The sum of two decimals is the exact sum, rounded. -/
theorem key_add_finite
    (left right : Decimal) :
    ((Number.finite left).add (.finite right)).key =
      Key.nearest (left.units + right.units) (tenTo maxScale) := by
  rw [key_add, key, key, Key.add]
  cases result : Decimal.nearestSum (left.units + right.units) with
  | some units =>
      rw [Decimal.nearestSum] at result
      rw [Key.nearest, result]
      rfl
  | none =>
      rw [Decimal.decide_neg_of_nearestSum_eq_none result, ← result]
      rfl

/-- The product of two decimals is the exact product, rounded. -/
theorem key_mul_finite
    (left right : Decimal) :
    ((Number.finite left).mul (.finite right)).key =
      Key.nearest (left.units * right.units) (tenTo (maxScale + maxScale)) := by
  rw [key_mul, key_finite, key_finite, Key.mul_finite]

/-- The quotient of two decimals is the exact quotient, rounded. -/
theorem key_div_finite
    (dividend : Decimal)
    {divisor : Decimal}
    (nonzero : divisor.units ≠ 0) :
    ((Number.finite dividend).div (.finite divisor)).key =
      Key.nearest (dividend.units * divisor.units.sign)
        divisor.units.natAbs := by
  rw [key_div, key_finite, key_finite, Key.div_finite _ nonzero]

end Number

end Formulary
