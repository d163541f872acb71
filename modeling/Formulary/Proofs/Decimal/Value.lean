import Mathlib.Data.Rat.Floor
import Formulary.Proofs.Decimal.Units

/-!
# Decimals as rational numbers

`Decimal.value` is the rational number that a decimal stands for.  A rational
number is `Representable` if it is that of a decimal, which takes a mantissa
below `2 ^ 96` and at most twenty-eight fraction digits.

Sums, products and quotients of decimals are rounded to what is representable.
So a result that is representable already is returned as it is, whatever the
scales of the operands are.  A remainder is always exact.
-/

namespace Formulary

theorem cast_tenTo (exponent : Nat) :
    ((tenTo exponent : Nat) : ℚ) = 10 ^ exponent :=
  Nat.cast_pow 10 exponent

/-- The whole part of a rational number: it is rounded towards zero. -/
def truncate (number : ℚ) : ℤ :=
  if 0 ≤ number then ⌊number⌋ else ⌈number⌉

theorem truncate_neg (number : ℚ) : truncate (-number) = -truncate number := by
  rw [truncate, truncate]
  rcases lt_trichotomy number 0 with below | zero | above
  · rw [if_pos (neg_nonneg.2 below.le), if_neg (not_le.2 below),
      Int.floor_neg]
  · subst zero
    simp
  · rw [if_neg (not_le.2 (neg_neg_of_pos above)), if_pos above.le,
      Int.ceil_neg]

/-- The truncated quotient of two integers is the whole part of their ratio. -/
theorem truncate_div (dividend divisor : ℤ) :
    truncate (dividend / divisor) = dividend.tdiv divisor := by
  have natural (size modulus : ℕ) :
      truncate (size / modulus) = (size : ℤ).tdiv modulus := by
    rw [truncate, if_pos (by positivity), Rat.floor_natCast_div_natCast]
    exact (Int.ofNat_tdiv size modulus).symm
  rcases Int.eq_nat_or_neg dividend with ⟨size, rfl | rfl⟩ <;>
    rcases Int.eq_nat_or_neg divisor with ⟨modulus, rfl | rfl⟩ <;>
    push_cast <;>
    simp only [neg_div, div_neg, truncate_neg, natural, Int.neg_tdiv,
      Int.tdiv_neg]

/-- The rational number that a decimal of bounded precision stands for. -/
def Representable (exact : ℚ) : Prop :=
  ∃ (mantissa : ℤ) (scale : ℕ),
    mantissa.natAbs < mantissaBound ∧ scale ≤ maxScale ∧
      exact = mantissa / 10 ^ scale

namespace Decimal

/-! ## The value of a decimal -/

/-- The rational number that a decimal stands for. -/
def value (decimal : Decimal) : ℚ :=
  decimal.signedMantissa / 10 ^ decimal.scale

/-- The value counted in units. -/
theorem value_mul_tenTo
    (decimal : Decimal) :
    decimal.value * 10 ^ maxScale = decimal.units := by
  have split : (10 : ℚ) ^ maxScale =
      10 ^ (maxScale - decimal.scale) * 10 ^ decimal.scale := by
    rw [← pow_add, Nat.sub_add_cancel decimal.scale_le]
  have positive : (10 : ℚ) ^ decimal.scale ≠ 0 := by positivity
  rw [value, units, split, Int.cast_mul, Int.cast_natCast, cast_tenTo]
  field_simp

theorem value_eq_units_div
    (decimal : Decimal) :
    decimal.value = decimal.units / 10 ^ maxScale := by
  rw [← value_mul_tenTo, mul_div_cancel_right₀]
  positivity

section

variable {left right result : Decimal}

/-- Decimals have equal values if they have equally many units. -/
theorem value_inj : left.value = right.value ↔ left.units = right.units := by
  rw [value_eq_units_div, value_eq_units_div,
    div_left_inj' (by positivity), Int.cast_inj]

theorem value_eq_add_iff :
    result.value = left.value + right.value ↔
      result.units = left.units + right.units := by
  rw [value_eq_units_div, value_eq_units_div left, value_eq_units_div right,
    ← add_div, div_left_inj' (by positivity)]
  exact_mod_cast Iff.rfl

theorem value_eq_mul_iff :
    result.value = left.value * right.value ↔
      left.units * right.units = result.units * (tenTo maxScale : Nat) := by
  rw [value_eq_units_div, value_eq_units_div left, value_eq_units_div right,
    div_mul_div_comm, div_eq_div_iff (by positivity) (by positivity),
    ← mul_assoc, mul_left_inj' (by positivity), eq_comm, ← cast_tenTo]
  exact_mod_cast Iff.rfl

theorem value_eq_div_iff
    (nonzero : right.units ≠ 0) :
    result.value = left.value / right.value ↔
      left.units * (tenTo maxScale : Nat) = result.units * right.units := by
  have divisor : (right.units : ℚ) ≠ 0 := Int.cast_ne_zero.2 nonzero
  rw [value_eq_units_div, value_eq_units_div left, value_eq_units_div right,
    div_div_div_cancel_right₀ (by positivity),
    div_eq_div_iff (by positivity) divisor, eq_comm, ← cast_tenTo]
  exact_mod_cast Iff.rfl

end

theorem value_eq_zero_iff
    (decimal : Decimal) :
    decimal.value = 0 ↔ decimal.isZero = true := by
  rw [← units_eq_zero_iff, value_eq_units_div,
    div_eq_zero_iff, or_iff_left (by positivity), Int.cast_eq_zero]

theorem isZero_of_value_ne_zero
    {decimal : Decimal}
    (nonzero : decimal.value ≠ 0) :
    decimal.isZero = false := by
  rw [Ne, value_eq_zero_iff, Bool.not_eq_true] at nonzero
  exact nonzero

theorem value_lt_zero_iff
    (decimal : Decimal) :
    decimal.value < 0 ↔ decimal.units < 0 := by
  rw [value_eq_units_div, div_lt_iff₀ (by positivity), zero_mul,
    Int.cast_lt_zero]

theorem zero_lt_value_iff
    (decimal : Decimal) :
    0 < decimal.value ↔ 0 < decimal.units := by
  rw [value_eq_units_div, div_pos_iff_of_pos_right (by positivity),
    Int.cast_pos]

@[simp]
theorem value_negate
    (decimal : Decimal) :
    decimal.negate.value = -decimal.value := by
  rw [value_eq_units_div, units_negate, Int.cast_neg, neg_div,
    ← value_eq_units_div]

@[simp]
theorem value_one : one.value = 1 := by
  show ((1 : ℤ) : ℚ) / 10 ^ 0 = 1
  simp

@[simp]
theorem value_normalize
    (decimal : Decimal) :
    decimal.normalize.value = decimal.value :=
  value_inj.2 decimal.units_normalize

theorem natAbs_signedMantissa
    (decimal : Decimal) :
    decimal.signedMantissa.natAbs = decimal.mantissa := by
  rw [signedMantissa]
  split <;> omega

/-- The mantissa of a whole number has a zero for each digit behind the point. -/
theorem signedMantissa_of_value
    {decimal : Decimal}
    {whole : Int}
    (isWhole : decimal.value = whole) :
    decimal.signedMantissa = whole * (tenTo decimal.scale : Nat) := by
  rw [value, div_eq_iff (by positivity), ← cast_tenTo] at isWhole
  exact_mod_cast isWhole

/-- The representable numbers are those of decimals. -/
theorem representable_iff
    (exact : ℚ) :
    Representable exact ↔ ∃ decimal : Decimal, decimal.value = exact := by
  constructor
  · rintro ⟨mantissa, scale, inRange, within, rfl⟩
    refine ⟨⟨decide (mantissa < 0), mantissa.natAbs, scale, inRange, within⟩, ?_⟩
    rw [value]
    exact
      congrArg (fun signed : ℤ => (signed : ℚ) / 10 ^ scale)
        (signed_natAbs mantissa)
  · rintro ⟨decimal, rfl⟩
    refine ⟨decimal.signedMantissa, decimal.scale, ?_, decimal.scale_le, rfl⟩
    rw [natAbs_signedMantissa]
    exact decimal.mantissa_lt

/-! ## Exact results -/

/-- A ratio that is that of a decimal is not rounded. -/
theorem nearestUnits_of_size
    {negative : Bool}
    {numerator denominator : Nat}
    {decimal : Decimal}
    (positive : 0 < denominator)
    (exact : numerator * tenTo maxScale = decimal.size * denominator) :
    nearestUnits negative numerator denominator =
      some (signed negative decimal.size) := by
  rw [nearestUnits_congr positive (tenTo_pos maxScale) exact,
    nearestUnits_size]

/-- The units of a decimal by a sign that they have. -/
theorem signed_size
    {decimal : Decimal}
    {negative : Bool}
    (sign : negative = decide (decimal.units < 0)) :
    signed negative decimal.size = decimal.units := by
  rw [sign, ← natAbs_units, signed_natAbs]

/-- A product that is a decimal is not rounded. -/
theorem nearestProduct_of_units
    {left right : Int}
    {decimal : Decimal}
    (exact : left * right = decimal.units * (tenTo maxScale : Nat)) :
    nearestProduct left right = some decimal.units := by
  rw [nearestProduct, nearestUnits_of_size (tenTo_pos _), signed_size]
  · rw [exact, decide_mul_neg _ (tenTo_pos _)]
  · rw [exact, Int.natAbs_mul, Int.natAbs_natCast, natAbs_units, tenTo_add,
      Nat.mul_assoc]

/-- A quotient that is a decimal is not rounded. -/
theorem nearestRatio_of_units
    {dividend divisor : Int}
    {decimal : Decimal}
    (nonzero : divisor ≠ 0)
    (exact :
      dividend * (tenTo maxScale : Nat) = decimal.units * divisor) :
    nearestRatio dividend divisor = some decimal.units := by
  have sizes := congrArg Int.natAbs exact
  rw [Int.natAbs_mul, Int.natAbs_mul, Int.natAbs_natCast, natAbs_units] at sizes
  have square :
      dividend * divisor * (tenTo maxScale : Nat) =
        decimal.units * ((divisor.natAbs * divisor.natAbs : Nat) : Int) := by
    rw [Int.mul_right_comm, exact, Int.mul_assoc, Int.natAbs_mul_self]
  have size : 0 < divisor.natAbs := Int.natAbs_pos.2 nonzero
  rw [nearestRatio, nearestUnits_of_size size sizes, signed_size]
  rw [← decide_mul_neg _ (tenTo_pos maxScale), square,
    decide_mul_neg _ (Nat.mul_pos size size)]

/-- The decimal of a result that has units. -/
theorem exists_of_map_units
    {result : Option Decimal}
    {decimal : Decimal}
    (same : result.map units = some decimal.units) :
    ∃ found, result = some found ∧ found.value = decimal.value := by
  rcases Option.map_eq_some_iff.1 same with ⟨found, isResult, sameUnits⟩
  exact ⟨found, isResult, value_inj.2 sameUnits⟩

section

variable {left right : Decimal}

/-- A sum that is representable is exact. -/
theorem add?_of_representable
    (representable : Representable (left.value + right.value)) :
    ∃ sum, left.add? right = some sum ∧
      sum.value = left.value + right.value := by
  rcases (representable_iff _).1 representable with ⟨decimal, exact⟩
  rw [← exact]
  apply exists_of_map_units
  rw [map_units_add?, ← value_eq_add_iff.1 exact, nearestSum_units]

/-- A product that is representable is exact. -/
theorem mul?_of_representable
    (representable : Representable (left.value * right.value)) :
    ∃ product, left.mul? right = some product ∧
      product.value = left.value * right.value := by
  rcases (representable_iff _).1 representable with ⟨decimal, exact⟩
  rw [← exact]
  apply exists_of_map_units
  rw [map_units_mul?, nearestProduct_of_units (value_eq_mul_iff.1 exact)]

/-- A quotient that is representable is exact. -/
theorem div?_of_representable
    (nonzero : right.isZero = false)
    (representable : Representable (left.value / right.value)) :
    ∃ quotient, left.div? right = some quotient ∧
      quotient.value = left.value / right.value := by
  rcases (representable_iff _).1 representable with ⟨decimal, exact⟩
  have divisor := units_ne_zero nonzero
  rw [← exact]
  apply exists_of_map_units
  rw [map_units_div? left nonzero,
    nearestRatio_of_units divisor ((value_eq_div_iff divisor).1 exact)]

end

/-- A remainder is what the truncated quotient leaves. -/
theorem rem?_value
    (left : Decimal)
    {right : Decimal}
    (nonzero : right.isZero = false) :
    ∃ remainder, left.rem? right = some remainder ∧
      remainder.value =
        left.value - right.value * truncate (left.value / right.value) := by
  have divisor := units_ne_zero nonzero
  have units := map_units_rem? left right
  rw [if_neg divisor] at units
  rcases Option.map_eq_some_iff.1 units with ⟨remainder, found, exact⟩
  refine ⟨remainder, found, ?_⟩
  have whole :
      truncate (left.value / right.value) = left.units.tdiv right.units := by
    rw [value_eq_units_div left, value_eq_units_div right,
      div_div_div_cancel_right₀ (by positivity), truncate_div]
  rw [whole, value_eq_units_div remainder, exact, Int.tmod_def,
    value_eq_units_div left, value_eq_units_div right]
  push_cast
  ring

end Decimal

end Formulary
