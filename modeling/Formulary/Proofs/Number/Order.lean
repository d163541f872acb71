import Formulary.Proofs.Decimal.Value
import Formulary.Proofs.Number.Symmetry

/-!
# The order of values

Values are ordered by size, with the decimals between the two infinities;
not-a-number stands outside of the order.

Rounding keeps the order of exact results, and a result that is too large
becomes the infinity on its side: `le_of_nearest`.  So the operators are
monotone wherever their results are numbers, which `arithmetic_monotone` says
of sums, differences, products and quotients.
-/

namespace Formulary

namespace Decimal

theorem value_le_iff
    (left right : Decimal) :
    left.value ≤ right.value ↔ left.units ≤ right.units := by
  rw [value_eq_units_div, value_eq_units_div,
    div_le_div_iff_of_pos_right (by positivity), Int.cast_le]

end Decimal

namespace Number

/-- Numbers are ordered by value between the infinities; not-a-number is not ordered. -/
inductive AtMost : Number → Number → Prop where
  | bottom
      {right : Number}
      (number : right ≠ .nan) :
      AtMost (.infinite true) right
  | top
      {left : Number}
      (number : left ≠ .nan) :
      AtMost left (.infinite false)
  | finite
      {left right : Decimal}
      (le : left.value ≤ right.value) :
      AtMost (.finite left) (.finite right)

instance : LE Number where
  le := AtMost

instance : LT Number where
  lt left right := left ≤ right ∧ ¬right ≤ left

/-- Only not-a-number has the key of it. -/
theorem key_eq_nan_iff
    (number : Number) :
    number.key = .nan ↔ number = .nan := by
  constructor
  · intro isNaN
    cases number with
    | nan => rfl
    | _ => cases isNaN
  · rintro rfl
    rfl

section

variable {left right left' right' : Number}

theorem ne_nan_left (le : left ≤ right) : left ≠ .nan := by
  cases le with
  | top number => exact number
  | _ => nofun

theorem ne_nan_right (le : left ≤ right) : right ≠ .nan := by
  cases le with
  | bottom number => exact number
  | _ => nofun

theorem bottom_le_of_key
    (bottom : left.key = .infinite true)
    (number : right.key ≠ .nan) :
    left ≤ right := by
  cases left with
  | infinite negative =>
      cases bottom
      exact .bottom (mt (key_eq_nan_iff right).2 number)
  | _ => cases bottom

theorem le_top_of_key
    (number : left.key ≠ .nan)
    (top : right.key = .infinite false) :
    left ≤ right := by
  cases right with
  | infinite negative =>
      cases top
      exact .top (mt (key_eq_nan_iff left).2 number)
  | _ => cases top

theorem le_of_key_finite
    {units units' : Int}
    (leftUnits : left.key = .finite units)
    (rightUnits : right.key = .finite units')
    (le : units ≤ units') :
    left ≤ right := by
  cases left with
  | finite left =>
      cases right with
      | finite right =>
          cases leftUnits
          cases rightUnits
          exact .finite ((left.value_le_iff right).2 le)
      | _ => cases rightUnits
  | _ => cases leftUnits

/-- The order does not depend on how values are written. -/
theorem le_of_keys
    (sameLeft : left'.key = left.key)
    (sameRight : right'.key = right.key)
    (le : left ≤ right) :
    left' ≤ right' := by
  have number : left'.key ≠ .nan := by
    rw [sameLeft, Ne, key_eq_nan_iff]
    exact ne_nan_left le
  have number' : right'.key ≠ .nan := by
    rw [sameRight, Ne, key_eq_nan_iff]
    exact ne_nan_right le
  cases le with
  | bottom _ => exact bottom_le_of_key sameLeft number'
  | top _ => exact le_top_of_key number sameRight
  | @finite left right le =>
      exact le_of_key_finite sameLeft sameRight ((left.value_le_iff right).1 le)

theorem neg_ne_nan
    (number : left ≠ .nan) :
    left.neg ≠ .nan := by
  intro isNaN
  apply number
  rw [← left.neg_neg, isNaN, neg]

/-- The other signs have the other order. -/
theorem neg_le_neg_of_le (le : left ≤ right) : right.neg ≤ left.neg := by
  cases le with
  | bottom number => exact .top (neg_ne_nan number)
  | top number => exact .bottom (neg_ne_nan number)
  | finite le =>
      apply AtMost.finite
      rw [Decimal.value_negate, Decimal.value_negate]
      exact neg_le_neg le

end

/-! ## Rounded ratios -/

namespace Key

/-- A ratio is rounded to the size of its sign, or is too large on its side. -/
theorem nearest_cases
    (numerator : Int)
    (denominator : Nat) :
    (nearestSize numerator.natAbs denominator maxScale = none ∧
        nearest numerator denominator =
          .infinite (decide (numerator < 0))) ∨
      ∃ size,
        nearestSize numerator.natAbs denominator maxScale = some size ∧
          nearest numerator denominator =
            .finite (signed (decide (numerator < 0)) size) := by
  rw [nearest, nearestUnits]
  cases nearestSize numerator.natAbs denominator maxScale with
  | none => exact .inl ⟨rfl, rfl⟩
  | some size => exact .inr ⟨size, rfl, rfl⟩

end Key

section

variable {left right : Number}
variable {numerator numerator' : Int} {denominator denominator' : Nat}

theorem ne_nan_of_nearest
    (nearest : left.key = Key.nearest numerator denominator) :
    left ≠ .nan := by
  rw [Ne, ← key_eq_nan_iff, nearest]
  exact Key.nearest_ne_nan _ _

/-- Ratios that are not below zero are rounded in their order. -/
theorem le_of_nearest_of_nonneg
    (positive : 0 < denominator)
    (positive' : 0 < denominator')
    (leftNearest : left.key = Key.nearest numerator denominator)
    (rightNearest : right.key = Key.nearest numerator' denominator')
    (natural : 0 ≤ numerator)
    (le : numerator * denominator' ≤ numerator' * denominator) :
    left ≤ right := by
  have natural' : 0 ≤ numerator' := by
    have product : 0 ≤ numerator' * denominator :=
      le_trans (mul_nonneg natural (Int.natCast_nonneg _)) le
    exact nonneg_of_mul_nonneg_left product (Int.natCast_pos.2 positive)
  have sign : decide (numerator < 0) = false :=
    decide_eq_false (Int.not_lt.2 natural)
  have sign' : decide (numerator' < 0) = false :=
    decide_eq_false (Int.not_lt.2 natural')
  have sizes :
      numerator.natAbs * denominator' ≤ numerator'.natAbs * denominator := by
    zify
    rw [abs_of_nonneg natural, abs_of_nonneg natural']
    exact le
  rcases Key.nearest_cases numerator' denominator' with
    ⟨_, tooLarge⟩ | ⟨size', found', rounded'⟩
  · apply le_top_of_key
    · rw [leftNearest]
      exact Key.nearest_ne_nan _ _
    · rw [rightNearest, tooLarge, sign']
  · rcases
        exists_nearestSize_le positive positive' sizes (Nat.le_refl _)
          found' with
      ⟨size, found, smaller⟩
    rcases Key.nearest_cases numerator denominator with
      ⟨missing, _⟩ | ⟨other, same, rounded⟩
    · rw [found] at missing
      cases missing
    · rw [found, Option.some.injEq] at same
      rw [rounded, sign, ← same] at leftNearest
      rw [rounded', sign'] at rightNearest
      exact
        le_of_key_finite leftNearest rightNearest (Int.ofNat_le.2 smaller)

/-- The larger ratio is rounded to the larger value. -/
theorem le_of_nearest
    (positive : 0 < denominator)
    (positive' : 0 < denominator')
    (leftNearest : left.key = Key.nearest numerator denominator)
    (rightNearest : right.key = Key.nearest numerator' denominator')
    (le : numerator * denominator' ≤ numerator' * denominator) :
    left ≤ right := by
  rcases lt_or_ge numerator 0 with below | natural
  · rcases lt_or_ge numerator' 0 with below' | natural'
    · -- Below zero the order is that of the sizes, turned round.
      rw [← left.neg_neg, ← right.neg_neg]
      apply neg_le_neg_of_le
      apply le_of_nearest_of_nonneg positive' positive
      · rw [key_neg, rightNearest, Key.nearest_neg _ positive']
      · rw [key_neg, leftNearest, Key.nearest_neg _ positive]
      · omega
      · rw [Int.neg_mul, Int.neg_mul]
        exact neg_le_neg le
    · -- Zero lies between the two ratios.
      rcases Key.nearest_cases numerator denominator with
        ⟨_, tooSmall⟩ | ⟨size, _, rounded⟩
      · apply bottom_le_of_key
        · rw [leftNearest, tooSmall, decide_eq_true below]
        · rw [rightNearest]
          exact Key.nearest_ne_nan _ _
      · rcases Key.nearest_cases numerator' denominator' with
          ⟨_, tooLarge⟩ | ⟨size', _, rounded'⟩
        · apply le_top_of_key
          · rw [leftNearest]
            exact Key.nearest_ne_nan _ _
          · rw [rightNearest, tooLarge, decide_eq_false (Int.not_lt.2 natural')]
        · apply
            le_of_key_finite (leftNearest.trans rounded)
              (rightNearest.trans rounded')
          rw [decide_eq_true below, decide_eq_false (Int.not_lt.2 natural'),
            signed, signed, if_pos rfl, if_neg Bool.false_ne_true]
          omega
  · exact
      le_of_nearest_of_nonneg positive positive' leftNearest rightNearest
        natural le

end

/-! ## Monotone operators -/

section

variable {left right : Number}

/-- A sum with an infinity is that infinity, if it is a number. -/
theorem add_infinite
    {negative : Bool}
    (number : left.add (.infinite negative) ≠ .nan) :
    left.add (.infinite negative) = .infinite negative := by
  cases left with
  | finite decimal => rfl
  | infinite other =>
      rw [add] at number ⊢
      split at number
      · rename_i same
        rw [if_pos same, same]
      · exact absurd rfl number
  | nan => exact absurd rfl number

theorem add_le_add_right
    (le : left ≤ right)
    (other : Number)
    (leftSum : left.add other ≠ .nan)
    (rightSum : right.add other ≠ .nan) :
    left.add other ≤ right.add other := by
  cases other with
  | finite addend =>
      cases le with
      | bottom number => exact .bottom rightSum
      | top number => exact .top leftSum
      | @finite left right le =>
          apply
            le_of_nearest (tenTo_pos _) (tenTo_pos _)
              (key_add_finite left addend) (key_add_finite right addend)
          rw [Decimal.value_le_iff] at le
          exact
            mul_le_mul_of_nonneg_right (add_le_add_left le _)
              (Int.natCast_nonneg _)
  | infinite negative =>
      rw [add_infinite leftSum, add_infinite rightSum]
      cases negative with
      | true => exact .bottom nofun
      | false => exact .top nofun
  | nan => cases left <;> exact absurd rfl leftSum

/-- A larger value that is subtracted leaves less. -/
theorem sub_le_sub_left
    (le : left ≤ right)
    (other : Number)
    (leftDifference : other.sub left ≠ .nan)
    (rightDifference : other.sub right ≠ .nan) :
    other.sub right ≤ other.sub left := by
  have turned (number : Number) :
      (other.sub number).key = (number.neg.add other).key :=
    key_add_comm other number.neg
  have isNumber
      {number : Number}
      (difference : other.sub number ≠ .nan) :
      number.neg.add other ≠ .nan := by
    rwa [Ne, ← key_eq_nan_iff, ← turned, key_eq_nan_iff]
  apply le_of_keys (turned right) (turned left)
  exact
    add_le_add_right (neg_le_neg_of_le le) other (isNumber rightDifference)
      (isNumber leftDifference)

end

/-! ## Factors and divisors -/

section

variable {left right other : Number}

theorem zero_le_finite_iff
    (decimal : Decimal) :
    zero ≤ .finite decimal ↔ 0 ≤ decimal.units := by
  have value := Decimal.zero.value_le_iff decimal
  rw [Decimal.units_zero] at value
  constructor
  · intro le
    cases le with
    | finite le => exact value.1 le
  · intro le
    exact .finite (value.2 le)

theorem zero_lt_finite_iff
    (decimal : Decimal) :
    zero < .finite decimal ↔ 0 < decimal.units := by
  have value := decimal.value_le_iff Decimal.zero
  rw [Decimal.units_zero] at value
  constructor
  · rintro ⟨_, above⟩
    by_contra below
    exact above (.finite (value.2 (not_lt.1 below)))
  · intro above
    refine ⟨(zero_le_finite_iff decimal).2 above.le, ?_⟩
    intro le
    cases le with
    | finite le => exact not_lt.2 (value.1 le) above

theorem isNegative_of_zero_le
    (natural : zero ≤ other) :
    other.isNegative = false := by
  cases natural with
  | top number => rfl
  | @finite _ decimal le =>
      rw [isNegative, decimal.negative_and_nonzero]
      apply decide_eq_false
      exact not_lt.2 ((zero_le_finite_iff decimal).1 (.finite le))

/-- An infinity times a factor that is not below zero is that infinity, if it is a number. -/
theorem infinite_mul
    {negative : Bool}
    (natural : zero ≤ other)
    (number : (infinite negative).mul other ≠ .nan) :
    (infinite negative).mul other = .infinite negative := by
  have kept :
      ((infinite negative).isNegative != other.isNegative) = negative := by
    rw [isNegative_of_zero_le natural, Bool.bne_false]
    rfl
  cases other with
  | nan => exact absurd rfl number
  | _ =>
      simp only [mul, kept] at number ⊢
      split
      · rename_i isZero
        rw [if_pos isZero] at number
        exact absurd rfl number
      · rfl

/-- A decimal times the positive infinity is the infinity of its sign, if it is a number. -/
theorem finite_mul_infinite
    {decimal : Decimal}
    (number : (finite decimal).mul (.infinite false) ≠ .nan) :
    (finite decimal).mul (.infinite false) =
        .infinite (decide (decimal.units < 0)) ∧
      decimal.units ≠ 0 := by
  have sign := decimal.negative_and_nonzero
  cases zero : decimal.isZero with
  | true =>
      simp only [mul, isZero, zero, Bool.true_or, if_true] at number
      exact absurd rfl number
  | false =>
      rw [zero] at sign
      simp only [mul, isZero, isNegative, zero, Bool.or_false,
        Bool.false_eq_true, if_false, sign, Bool.bne_false]
      exact ⟨trivial, Decimal.units_ne_zero zero⟩

theorem mul_le_mul_right
    (le : left ≤ right)
    (natural : zero ≤ other)
    (leftProduct : left.mul other ≠ .nan)
    (rightProduct : right.mul other ≠ .nan) :
    left.mul other ≤ right.mul other := by
  cases le with
  | bottom number =>
      rw [infinite_mul natural leftProduct]
      exact .bottom rightProduct
  | top number =>
      rw [infinite_mul natural rightProduct]
      exact .top leftProduct
  | @finite left right le =>
      rw [Decimal.value_le_iff] at le
      cases natural with
      | @finite _ factor natural =>
          apply
            le_of_nearest (tenTo_pos _) (tenTo_pos _)
              (key_mul_finite left factor) (key_mul_finite right factor)
          have factorNatural := (zero_le_finite_iff factor).1 (.finite natural)
          exact
            mul_le_mul_of_nonneg_right
              (mul_le_mul_of_nonneg_right le factorNatural)
              (Int.natCast_nonneg _)
      | top number =>
          rcases finite_mul_infinite leftProduct with ⟨leftSign, leftNonzero⟩
          rcases finite_mul_infinite rightProduct with ⟨rightSign, _⟩
          rw [leftSign, rightSign]
          by_cases below : left.units < 0
          · rw [decide_eq_true below]
            exact .bottom nofun
          · have above : ¬right.units < 0 := by omega
            rw [decide_eq_false above]
            exact .top nofun

theorem div_le_div_right
    (le : left ≤ right)
    (above : zero < other)
    (leftQuotient : left.div other ≠ .nan)
    (rightQuotient : right.div other ≠ .nan) :
    left.div other ≤ right.div other := by
  have sign := isNegative_of_zero_le above.1
  cases other with
  | finite divisor =>
      have positive := (zero_lt_finite_iff divisor).1 above
      have kept (negative : Bool) :
          (infinite negative).div (.finite divisor) = .infinite negative := by
        simp only [div, sign, Bool.bne_false]
        rfl
      cases le with
      | bottom number =>
          rw [kept]
          exact .bottom rightQuotient
      | top number =>
          rw [kept]
          exact .top leftQuotient
      | @finite left right le =>
          rw [Decimal.value_le_iff] at le
          have size := Int.natAbs_pos.2 positive.ne'
          apply
            le_of_nearest size size (key_div_finite left positive.ne')
              (key_div_finite right positive.ne')
          rw [Int.sign_eq_one_of_pos positive, Int.mul_one, Int.mul_one]
          exact mul_le_mul_of_nonneg_right le (Int.natCast_nonneg _)
  | infinite negative =>
      cases le with
      | bottom number => exact absurd rfl leftQuotient
      | top number => exact absurd rfl rightQuotient
      | finite le => exact .finite (le_refl _)
  | nan =>
      cases left <;> exact absurd rfl leftQuotient

end

/-! ## The laws -/

/--
The arithmetic operators keep the order of their operands, as far as their
results are numbers: sums and differences with any value, products with a
value that is not below zero and quotients by a value above zero.
-/
theorem arithmetic_monotone
    {left right : Number}
    (le : left ≤ right)
    (other : Number) :
    (left.add other ≠ .nan → right.add other ≠ .nan →
      left.add other ≤ right.add other) ∧
    (left.sub other ≠ .nan → right.sub other ≠ .nan →
      left.sub other ≤ right.sub other) ∧
    (other.sub right ≠ .nan → other.sub left ≠ .nan →
      other.sub right ≤ other.sub left) ∧
    (zero ≤ other → left.mul other ≠ .nan → right.mul other ≠ .nan →
      left.mul other ≤ right.mul other) ∧
    (zero < other → left.div other ≠ .nan → right.div other ≠ .nan →
      left.div other ≤ right.div other) := by
  refine ⟨?_, ?_, ?_, ?_, ?_⟩
  · exact add_le_add_right le other
  · exact add_le_add_right le other.neg
  · intro rightDifference leftDifference
    exact sub_le_sub_left le other leftDifference rightDifference
  · intro natural
    exact mul_le_mul_right le natural
  · intro above
    exact div_le_div_right le above

/-- The order is kept where the larger sum and the larger quotient are too large. -/
theorem arithmetic_monotone_past_overflow :
    let left : Decimal :=
      ⟨false, 79228162514264337593543950335, 1, by decide, by decide⟩
    let right : Decimal :=
      ⟨false, 79228162514264337593543950335, 0, by decide, by decide⟩
    let half : Decimal := ⟨false, 5, 1, by decide, by decide⟩
    Number.finite left ≤ .finite right ∧ zero < .finite half ∧
    (finite right).add (.finite half) = .infinite false ∧
    (finite right).div (.finite half) = .infinite false ∧
    (finite left).add (.finite half) ≤ (finite right).add (.finite half) ∧
    (finite left).sub (.finite half) ≤ (finite right).sub (.finite half) ∧
    (finite half).sub (.finite right) ≤ (finite half).sub (.finite left) ∧
    (finite left).mul (.finite half) ≤ (finite right).mul (.finite half) ∧
    (finite left).div (.finite half) ≤ (finite right).div (.finite half) := by
  intro left right half
  have le : Number.finite left ≤ .finite right :=
    .finite ((left.value_le_iff right).2 (by decide))
  have above : zero < .finite half := (zero_lt_finite_iff half).2 (by decide)
  have nonzero : half.units ≠ 0 := by decide
  have largeSum : (finite right).add (.finite half) = .infinite false := by
    simp only [right, half]
    rfl
  have largeQuotient :
      (finite right).div (.finite half) = .infinite false := by
    simp only [right, half]
    rfl
  rcases arithmetic_monotone le (.finite half) with
    ⟨sum, difference, turned, product, quotient⟩
  refine ⟨le, above, largeSum, largeQuotient, sum ?_ ?_, difference ?_ ?_, turned ?_ ?_,
    product above.1 ?_ ?_, quotient above ?_ ?_⟩
  · exact ne_nan_of_nearest (key_add_finite left half)
  · exact ne_nan_of_nearest (key_add_finite right half)
  · exact ne_nan_of_nearest (key_add_finite left half.negate)
  · exact ne_nan_of_nearest (key_add_finite right half.negate)
  · exact ne_nan_of_nearest (key_add_finite half right.negate)
  · exact ne_nan_of_nearest (key_add_finite half left.negate)
  · exact ne_nan_of_nearest (key_mul_finite left half)
  · exact ne_nan_of_nearest (key_mul_finite right half)
  · exact ne_nan_of_nearest (key_div_finite left nonzero)
  · exact ne_nan_of_nearest (key_div_finite right nonzero)

end Number

end Formulary
