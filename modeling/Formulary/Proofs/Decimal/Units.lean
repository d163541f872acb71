import Formulary.Decimal.Power
import Formulary.Proofs.Decimal.Nearest

/-!
# Decimal operations by value

The value of a sum, product, quotient or remainder is a function of the
values of the operands: how the operands are written makes no difference.
Each operation has one statement, which gives the units of its result from
the units of the operands.  Changes of the written form keep the units.
-/

namespace Formulary.Decimal

/-! ## Other forms of one value -/

theorem units_normalize
    (decimal : Decimal) :
    decimal.normalize.units = decimal.units := by
  fun_induction normalize decimal with
  | case1 decimal => rfl
  | case2 decimal scale shrunk dropped hypothesis =>
      rw [hypothesis, units_eq_signed, units_eq_signed, size, size, shrunk]
      have exponents : maxScale - scale = maxScale - (scale + 1) + 1 := by
        have within := decimal.scale_le
        omega
      have divided : decimal.mantissa / 10 * 10 = decimal.mantissa :=
        Nat.div_mul_cancel (Nat.dvd_of_mod_eq_zero dropped)
      rw [exponents, tenTo_succ, Nat.mul_comm (tenTo _) 10, ← Nat.mul_assoc,
        divided]
  | case3 decimal => rfl

/-- The units of the decimal with the given parts, if it exists and they are those of another one. -/
theorem units_getD_ofParts?
    {decimal : Decimal}
    {mantissa scale : Nat}
    (same :
      scale ≤ maxScale →
        mantissa * tenTo (maxScale - scale) = decimal.size) :
    ((ofParts? decimal.negative mantissa scale).getD decimal).units =
      decimal.units := by
  rw [ofParts?]
  split
  · rename_i inRange
    rw [Option.getD_some, units_eq_signed, units_eq_signed, ← same inRange.2]
    rfl
  · rfl

theorem units_withScale
    (decimal : Decimal)
    (scale : Nat) :
    (decimal.withScale scale).units = decimal.units := by
  rw [withScale]
  split
  · rename_i above
    apply units_getD_ofParts?
    intro within
    rw [Nat.mul_assoc, ← tenTo_add, size]
    congr 2
    omega
  · split
    · rename_i below exact
      apply units_getD_ofParts?
      intro within
      have exponents :
          maxScale - scale =
            decimal.scale - scale + (maxScale - decimal.scale) := by
        have bound := decimal.scale_le
        omega
      rw [exponents, tenTo_add, ← Nat.mul_assoc,
        Nat.div_mul_cancel (Nat.dvd_of_mod_eq_zero exact), size]
    · rfl

/-! ## The form without trailing zeros -/

/-- There is no trailing zero behind the point. -/
def Reduced (decimal : Decimal) : Prop :=
  decimal.scale = 0 ∨ decimal.mantissa % 10 ≠ 0

theorem reduced_normalize
    (decimal : Decimal) :
    decimal.normalize.Reduced := by
  fun_induction normalize decimal with
  | case1 decimal whole => exact .inl whole
  | case2 decimal scale shrunk dropped hypothesis => exact hypothesis
  | case3 decimal scale shrunk kept => exact .inr kept

section

variable {left right : Decimal}

/-- A decimal without trailing zeros has the least scale of all decimals of its size. -/
theorem Reduced.scale_le_of_size_eq
    (reduced : left.Reduced)
    (same : left.size = right.size) :
    left.scale ≤ right.scale := by
  rcases reduced with whole | kept
  · rw [whole]
    exact Nat.zero_le _
  · apply Nat.le_of_not_lt
    intro longer
    apply kept
    have within := left.scale_le
    have exponents :
        maxScale - right.scale =
          left.scale - right.scale - 1 + 1 + (maxScale - left.scale) := by
      omega
    rw [size, size, exponents, tenTo_add, tenTo_succ, ← Nat.mul_assoc,
      ← Nat.mul_assoc] at same
    rw [Nat.eq_of_mul_eq_mul_right (tenTo_pos _) same, Nat.mul_mod_left]

/-- Decimals of one size without trailing zeros have the same digits. -/
theorem Reduced.eq_of_size_eq
    (reducedLeft : left.Reduced)
    (reducedRight : right.Reduced)
    (same : left.size = right.size) :
    left.scale = right.scale ∧ left.mantissa = right.mantissa := by
  have scale : left.scale = right.scale :=
    Nat.le_antisymm (reducedLeft.scale_le_of_size_eq same)
      (reducedRight.scale_le_of_size_eq same.symm)
  rw [size, size, scale] at same
  exact ⟨scale, Nat.eq_of_mul_eq_mul_right (tenTo_pos _) same⟩

end

/-! ## Sums -/

/-- The units of the decimal nearest to a number of units. -/
def nearestSum (total : Int) : Option Int :=
  nearestUnits (decide (total < 0)) total.natAbs (tenTo maxScale)

/-- The value of a decimal is a nearest one already. -/
theorem nearestSum_units
    (decimal : Decimal) :
    nearestSum decimal.units = some decimal.units := by
  rw [nearestSum, natAbs_units, nearestUnits_size, ← natAbs_units,
    signed_natAbs]

/-- A mantissa at a larger scale stands for the same units. -/
theorem signedMantissaAt_mul_tenTo
    {decimal : Decimal}
    {scale : Nat}
    (above : decimal.scale ≤ scale)
    (within : scale ≤ maxScale) :
    decimal.signedMantissaAt scale * (tenTo (maxScale - scale) : Nat) =
      decimal.units := by
  have exponents :
      maxScale - decimal.scale =
        scale - decimal.scale + (maxScale - scale) := by
    omega
  rw [signedMantissaAt, units, exponents, tenTo_add, Int.natCast_mul,
    Int.mul_assoc]

/-- A factor above zero keeps the sign. -/
theorem decide_mul_neg
    (value : Int)
    {factor : Nat}
    (positive : 0 < factor) :
    decide (value * (factor : Int) < 0) = decide (value < 0) := by
  have above : (0 : Int) < (factor : Int) := Int.natCast_pos.2 positive
  rw [decide_eq_decide]
  constructor
  · intro below
    exact Int.lt_of_mul_lt_mul_right (by rw [Int.zero_mul]; exact below) (Int.le_of_lt above)
  · intro below
    have product := Int.mul_lt_mul_of_pos_right below above
    rw [Int.zero_mul] at product
    exact product

theorem map_units_add?
    (left right : Decimal) :
    (left.add? right).map units = nearestSum (left.units + right.units) := by
  rw [add?]
  split
  · rename_i leftZero
    rw [(units_eq_zero_iff left).2 leftZero, Int.zero_add, nearestSum_units,
      Option.map_some]
  · split
    · rename_i rightZero
      rw [(units_eq_zero_iff right).2 rightZero, Int.add_zero,
        nearestSum_units, Option.map_some]
    · simp only
      have within : max left.scale right.scale ≤ maxScale :=
        Nat.max_le.2 ⟨left.scale_le, right.scale_le⟩
      have total :
          (left.signedMantissaAt (max left.scale right.scale) +
              right.signedMantissaAt (max left.scale right.scale)) *
              (tenTo (maxScale - max left.scale right.scale) : Nat) =
            left.units + right.units := by
        rw [Int.add_mul,
          signedMantissaAt_mul_tenTo (Nat.le_max_left _ _) within,
          signedMantissaAt_mul_tenTo (Nat.le_max_right _ _) within]
      rw [map_units_fit, nearestSum, ← total,
        decide_mul_neg _ (tenTo_pos _)]
      apply nearestUnits_congr (tenTo_pos _) (tenTo_pos _)
      rw [Int.natAbs_mul, Int.natAbs_natCast, Nat.mul_assoc,
        tenTo_sub_mul within]

/-! ## Products -/

/-- The units of the decimal nearest to a product of two numbers of units. -/
def nearestProduct (left right : Int) : Option Int :=
  nearestUnits (decide (left * right < 0)) (left * right).natAbs
    (tenTo (maxScale + maxScale))

/-- A product is below zero if exactly one factor is. -/
theorem decide_mul_lt_zero
    {left right : Int}
    (leftNonzero : left ≠ 0)
    (rightNonzero : right ≠ 0) :
    decide (left * right < 0) = (decide (left < 0) != decide (right < 0)) := by
  rcases Int.lt_or_gt_of_ne leftNonzero with leftBelow | leftAbove
  · rcases Int.lt_or_gt_of_ne rightNonzero with rightBelow | rightAbove
    · have product := Int.mul_pos_of_neg_of_neg leftBelow rightBelow
      simp only [leftBelow, rightBelow, Int.not_lt.2 (Int.le_of_lt product),
        decide_true, decide_false, bne_self_eq_false]
    · have product := Int.mul_neg_of_neg_of_pos leftBelow rightAbove
      simp only [leftBelow, Int.not_lt.2 (Int.le_of_lt rightAbove), product,
        decide_true, decide_false, Bool.bne_false]
  · rcases Int.lt_or_gt_of_ne rightNonzero with rightBelow | rightAbove
    · have product := Int.mul_neg_of_pos_of_neg leftAbove rightBelow
      simp only [rightBelow, Int.not_lt.2 (Int.le_of_lt leftAbove), product,
        decide_true, decide_false, Bool.false_bne]
    · have product := Int.mul_pos leftAbove rightAbove
      simp only [Int.not_lt.2 (Int.le_of_lt leftAbove),
        Int.not_lt.2 (Int.le_of_lt rightAbove),
        Int.not_lt.2 (Int.le_of_lt product), decide_false, bne_self_eq_false]

/-- The sign of a product or a quotient of decimals other than zero. -/
theorem negative_bne_negative
    {left right : Decimal}
    (leftNonzero : left.isZero = false)
    (rightNonzero : right.isZero = false) :
    (left.negative != right.negative) =
      decide (left.units * right.units < 0) := by
  rw [negative_eq_decide leftNonzero, negative_eq_decide rightNonzero,
    decide_mul_lt_zero (units_ne_zero leftNonzero) (units_ne_zero rightNonzero)]

theorem map_units_mul?
    (left right : Decimal) :
    (left.mul? right).map units = nearestProduct left.units right.units := by
  rw [mul?]
  split
  · rename_i someZero
    have product : left.units * right.units = 0 := by
      rw [Int.mul_eq_zero, units_eq_zero_iff, units_eq_zero_iff]
      exact Bool.or_eq_true_iff.1 someZero
    rw [nearestProduct, product, Int.natAbs_zero,
      nearestUnits_zero (tenTo_pos _), Option.map_some, units_zero]
  · rename_i noZero
    rw [Bool.not_eq_true, Bool.or_eq_false_iff] at noZero
    rw [map_units_fit, nearestProduct, negative_bne_negative noZero.1 noZero.2]
    apply nearestUnits_congr (tenTo_pos _) (tenTo_pos _)
    rw [Int.natAbs_mul, natAbs_units, natAbs_units, tenTo_add, tenTo_add,
      Nat.mul_mul_mul_comm left.size, size_mul_tenTo, size_mul_tenTo,
      Nat.mul_mul_mul_comm left.mantissa]

/-! ## Quotients -/

/-- The units of the decimal nearest to a quotient of two numbers of units. -/
def nearestRatio (dividend divisor : Int) : Option Int :=
  nearestUnits (decide (dividend * divisor < 0)) dividend.natAbs
    divisor.natAbs

theorem map_units_div?
    (dividend : Decimal)
    {divisor : Decimal}
    (divisorNonzero : divisor.isZero = false) :
    (dividend.div? divisor).map units =
      nearestRatio dividend.units divisor.units := by
  have positive : 0 < divisor.units.natAbs :=
    Int.natAbs_pos.2 (units_ne_zero divisorNonzero)
  have mantissaPositive : 0 < divisor.mantissa := by
    rw [isZero, beq_eq_false_iff_ne] at divisorNonzero
    exact Nat.pos_of_ne_zero divisorNonzero
  rw [div?]
  split
  · rename_i dividendZero
    rw [nearestRatio, (units_eq_zero_iff dividend).2 dividendZero,
      Int.natAbs_zero, nearestUnits_zero positive, Option.map_some, units_zero]
  · rename_i dividendNonzero
    rw [Bool.not_eq_true] at dividendNonzero
    have nearestValue :
        (nearestQuotient (dividend.negative != divisor.negative) dividend
            divisor).map units =
          nearestRatio dividend.units divisor.units := by
      rw [nearestQuotient, map_units_nearest _ _ _ (Nat.le_refl _),
        nearestRatio, negative_bne_negative dividendNonzero divisorNonzero]
      apply nearestUnits_congr (Nat.mul_pos mantissaPositive (tenTo_pos _)) positive
      rw [natAbs_units, natAbs_units, Nat.mul_assoc,
        Nat.mul_comm (tenTo divisor.scale), size_mul_tenTo,
        Nat.mul_left_comm dividend.size, size_mul_tenTo, Nat.mul_left_comm]
    rw [← nearestValue, Option.map_map]
    apply Option.map_congr
    intro quotient _
    rw [Function.comp_apply]
    split
    · rw [units_withScale]
    · rfl

/-! ## Remainders -/

/-- The size at a scale in range stands for the same units. -/
theorem mantissaAt_mul_tenTo
    (decimal : Decimal)
    {scale : Nat}
    (above : decimal.scale ≤ scale)
    (within : scale ≤ maxScale) :
    decimal.mantissaAt scale * tenTo (maxScale - scale) = decimal.size := by
  have exponents :
      maxScale - decimal.scale =
        scale - decimal.scale + (maxScale - scale) := by
    omega
  rw [mantissaAt, size, exponents, tenTo_add, Nat.mul_assoc]

theorem tmod_signed
    (negative other : Bool)
    (size modulus : Nat) :
    (signed negative size).tmod (signed other modulus) =
      signed negative (size % modulus) := by
  have natural : (size : Int).tmod (modulus : Int) = ((size % modulus : Nat) : Int) :=
    (Int.ofNat_tmod size modulus).symm
  cases negative <;> cases other <;>
    simp only [signed, Bool.false_eq_true, if_false, if_true, Int.neg_tmod,
      Int.tmod_neg, natural]

theorem map_units_rem?
    (dividend divisor : Decimal) :
    (dividend.rem? divisor).map units =
      if divisor.units = 0 then
        none
      else
        some (dividend.units.tmod divisor.units) := by
  rw [rem?]
  split
  · rename_i divisorNonzero
    have within : max dividend.scale divisor.scale ≤ maxScale :=
      Nat.max_le.2 ⟨dividend.scale_le, divisor.scale_le⟩
    have dividendSize :=
      dividend.mantissaAt_mul_tenTo (Nat.le_max_left _ divisor.scale) within
    have divisorSize :=
      divisor.mantissaAt_mul_tenTo (Nat.le_max_right dividend.scale _) within
    have positive := tenTo_pos (maxScale - max dividend.scale divisor.scale)
    rw [if_neg (units_ne_zero divisorNonzero), units_eq_signed dividend,
      units_eq_signed divisor, tmod_signed]
    simp only
    split
    · rename_i vanishes
      have remainder : dividend.size % divisor.size = 0 := by
        rcases vanishes with dividendZero | sameSize
        · rw [← natAbs_units, (units_eq_zero_iff dividend).2 dividendZero,
            Int.natAbs_zero, Nat.zero_mod]
        · rw [← dividendSize, ← divisorSize, sameSize, Nat.mod_self]
      rw [remainder, signed_zero, Option.map_some, units_zero]
    · split
      · rename_i smaller
        have smallerSize : dividend.size < divisor.size := by
          rw [← dividendSize, ← divisorSize]
          exact Nat.mul_lt_mul_of_pos_right smaller positive
        rw [Nat.mod_eq_of_lt smallerSize, Option.map_some, units_eq_signed]
      · rw [Option.map_some, units_eq_signed, ← dividendSize, ← divisorSize,
          Nat.mul_mod_mul_right]
        rfl
  · rename_i divisorZero
    rw [Bool.not_eq_false] at divisorZero
    rw [if_pos ((units_eq_zero_iff divisor).2 divisorZero), Option.map_none]

end Formulary.Decimal
