import Formulary.Proofs.Number.Rounding

/-!
# Symmetry of the operators

Sums and products do not depend on the order of their operands, and a change
of sign passes through every operator.  This holds of all values: rounding,
overflow, the infinities, not-a-number and zeros of either sign keep to it.
-/

namespace Formulary

theorem Decimal.negate_negate
    (decimal : Decimal) :
    decimal.negate.negate = decimal := by
  rw [negate, negate, Bool.not_not]

namespace Number

@[simp]
theorem neg_neg (number : Number) : number.neg.neg = number := by
  cases number with
  | finite decimal => rw [neg, neg, decimal.negate_negate]
  | infinite negative => rw [neg, neg, Bool.not_not]
  | nan => rfl

/-! ## Sums -/

theorem key_add_comm
    (left right : Number) :
    (left.add right).key = (right.add left).key := by
  cases left with
  | finite left =>
      cases right with
      | finite right => rw [key_add_finite, key_add_finite, Int.add_comm]
      | infinite negative => rfl
      | nan => rfl
  | infinite left =>
      cases right with
      | finite right => rfl
      | infinite right => cases left <;> cases right <;> rfl
      | nan => rfl
  | nan => cases right <;> rfl

theorem key_neg_add_neg
    (left right : Number) :
    (left.neg.add right.neg).key = (left.add right).neg.key := by
  cases left with
  | finite left =>
      cases right with
      | finite right =>
          rw [neg, neg, key_add_finite, key_neg, key_add_finite,
            Decimal.units_negate, Decimal.units_negate, ← Int.neg_add,
            Key.nearest_neg _ (tenTo_pos _)]
      | infinite negative => rfl
      | nan => rfl
  | infinite left =>
      cases right with
      | finite right => rfl
      | infinite right => cases left <;> cases right <;> rfl
      | nan => rfl
  | nan => cases right <;> rfl

theorem key_sub_comm
    (left right : Number) :
    (left.sub right).key = (right.sub left).neg.key := by
  calc
    (left.sub right).key = (right.neg.add left).key := key_add_comm _ _
    _ = (right.neg.add left.neg.neg).key := by rw [neg_neg]
    _ = (right.sub left).neg.key := key_neg_add_neg _ _

/-! ## Products, quotients and remainders -/

namespace Key

/-- Another sign of one operand is another sign of an infinite result. -/
theorem infinite_not_bne
    (left right : Bool) :
    Key.infinite ((!left) != right) = (Key.infinite (left != right)).neg := by
  cases left <;> cases right <;> rfl

theorem mul_comm (left right : Key) : left.mul right = right.mul left := by
  cases left with
  | finite left =>
      cases right with
      | finite right => rw [mul_finite, mul_finite, Int.mul_comm]
      | infinite right => simp only [mul, Bool.or_comm, bne_comm]
      | nan => rfl
  | infinite left =>
      cases right with
      | finite right => simp only [mul, Bool.or_comm, bne_comm]
      | infinite right => simp only [mul, Bool.or_comm, bne_comm]
      | nan => rfl
  | nan => cases right <;> rfl

theorem neg_mul (left right : Key) : left.neg.mul right = (left.mul right).neg := by
  cases left with
  | finite left =>
      cases right with
      | finite right =>
          rw [neg, mul_finite, mul_finite, Int.neg_mul,
            nearest_neg _ (tenTo_pos _)]
      | infinite right =>
          by_cases zero : left = 0
          · rw [zero]
            rfl
          · simp only [neg, mul, isZero, isNegative, Int.neg_eq_zero, zero,
              decide_false, Bool.or_false, Bool.false_eq_true, if_false,
              decide_neg_lt_zero zero]
            exact infinite_not_bne _ _
      | nan => rfl
  | infinite left =>
      cases right with
      | finite right =>
          by_cases zero : right = 0
          · rw [zero]
            rfl
          · simp only [neg, mul, isZero, isNegative, zero, decide_false,
              Bool.or_false, Bool.false_eq_true, if_false]
            exact infinite_not_bne _ _
      | infinite right => exact infinite_not_bne _ _
      | nan => rfl
  | nan => cases right <;> rfl

theorem neg_div (left right : Key) : left.neg.div right = (left.div right).neg := by
  cases left with
  | finite left =>
      cases right with
      | finite right =>
          by_cases divisorZero : right = 0
          · by_cases dividendZero : left = 0
            · rw [divisorZero, dividendZero]
              rfl
            · simp only [neg, div, isNegative, divisorZero, dividendZero,
                Int.neg_eq_zero, if_true, if_false,
                decide_neg_lt_zero dividendZero]
          · rw [neg, div_finite _ divisorZero, div_finite _ divisorZero,
              Int.neg_mul, nearest_neg _ (Int.natAbs_pos.2 divisorZero)]
      | infinite right => rfl
      | nan => rfl
  | infinite left =>
      cases right with
      | finite right => exact infinite_not_bne _ _
      | infinite right => rfl
      | nan => rfl
  | nan => cases right <;> rfl

theorem neg_rem (left right : Key) : left.neg.rem right = (left.rem right).neg := by
  cases left with
  | finite left =>
      cases right with
      | finite right =>
          by_cases zero : right = 0
          · simp only [neg, rem, zero, if_true]
          · simp only [neg, rem, zero, if_false, Int.neg_tmod]
      | infinite right => rfl
      | nan => rfl
  | infinite left => cases right <;> rfl
  | nan => cases right <;> rfl

end Key

/-! ## The laws -/

/--
Sums and products are commutative, a change of both signs or of the order of
a difference changes the sign of the result, and so does a change of the sign
of the first operand of a product, a quotient or a remainder.
-/
theorem operators_symmetric (left right : Number) :
    (left.add right == right.add left) = true ∧
    (left.mul right == right.mul left) = true ∧
    (left.neg.add right.neg == (left.add right).neg) = true ∧
    (left.sub right == (right.sub left).neg) = true ∧
    (left.neg.mul right == (left.mul right).neg) = true ∧
    (left.neg.div right == (left.div right).neg) = true ∧
    (left.neg.rem right == (left.rem right).neg) = true := by
  simp only [beq_iff_key]
  refine
    ⟨key_add_comm left right, ?_, key_neg_add_neg left right,
      key_sub_comm left right, ?_, ?_, ?_⟩
  · rw [key_mul, key_mul, Key.mul_comm]
  · rw [key_mul, key_neg, key_neg, key_mul, Key.neg_mul]
  · rw [key_div, key_neg, key_neg, key_div, Key.neg_div]
  · rw [key_rem, key_neg, key_neg, key_rem, Key.neg_rem]

end Number

end Formulary
