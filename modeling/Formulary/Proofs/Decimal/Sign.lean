import Formulary.Proofs.Decimal.Squaring
import Formulary.Proofs.Decimal.Units

/-!
# Signs of products, quotients and powers

Products and quotients of decimals are rounded under the sign of the exact
result, and so is a power by repeated squaring: however often a step is
rounded, the power is zero or has the sign of the exact one, as
`Decimal.HasSign` says.  `hasSign_of_power?` is the statement for every
natural exponent, whether the products are those of decimals or of the wide
decimals that large exponents take.
-/

namespace Formulary

/-- The sign of a power of a number with the given sign. -/
def powerSign (negative : Bool) (exponent : Nat) : Bool :=
  negative && exponent % 2 == 1

@[simp]
theorem powerSign_zero (negative : Bool) : powerSign negative 0 = false :=
  Bool.and_false negative

@[simp]
theorem powerSign_one (negative : Bool) : powerSign negative 1 = negative :=
  Bool.and_true negative

/-- The sign of a product of two powers. -/
theorem powerSign_add
    (negative : Bool)
    (first second : Nat) :
    powerSign negative (first + second) =
      (powerSign negative first != powerSign negative second) := by
  rw [powerSign, powerSign, powerSign, Nat.add_mod]
  cases negative with
  | false => rfl
  | true =>
      rcases Nat.mod_two_eq_zero_or_one first with even | odd <;>
        rcases Nat.mod_two_eq_zero_or_one second with even' | odd' <;>
        simp only [*] <;> rfl

namespace Decimal

/-! ## Signs of single steps -/

theorem negative_of_nearest
    {negative : Bool}
    {numerator denominator top : Nat}
    {decimal : Decimal}
    (found : nearest negative numerator denominator top = some decimal) :
    decimal.negative = negative := by
  induction top with
  | zero =>
      rw [nearest] at found
      exact negative_of_ofParts? found
  | succ top hypothesis =>
      rw [nearest] at found
      split at found
      · rename_i built
        cases found
        exact negative_of_ofParts? built
      · exact hypothesis found

/-- A product is zero or has the sign of the exact one. -/
theorem negative_of_mul?
    {left right product : Decimal}
    (found : left.mul? right = some product) :
    product.isZero = true ∨
      left.isZero = false ∧ right.isZero = false ∧
        product.negative = (left.negative != right.negative) := by
  rw [mul?] at found
  split at found
  · cases found
    exact .inl rfl
  · rename_i noZero
    rw [Bool.not_eq_true, Bool.or_eq_false_iff] at noZero
    exact .inr ⟨noZero.1, noZero.2, negative_of_nearest found⟩

theorem negative_normalize
    (decimal : Decimal) :
    decimal.normalize.negative = decimal.negative := by
  fun_induction normalize decimal with
  | case1 decimal => rfl
  | case2 decimal scale shrunk dropped hypothesis => exact hypothesis
  | case3 decimal => rfl

theorem isZero_normalize
    (decimal : Decimal) :
    decimal.normalize.isZero = decimal.isZero := by
  rw [Bool.eq_iff_iff, ← units_eq_zero_iff, ← units_eq_zero_iff,
    units_normalize]

theorem negative_getD_ofParts?
    (decimal : Decimal)
    (mantissa scale : Nat) :
    ((ofParts? decimal.negative mantissa scale).getD decimal).negative =
      decimal.negative := by
  cases built : ofParts? decimal.negative mantissa scale with
  | none => rfl
  | some form => exact negative_of_ofParts? built

theorem negative_withScale
    (decimal : Decimal)
    (scale : Nat) :
    (decimal.withScale scale).negative = decimal.negative := by
  rw [withScale]
  split
  · exact negative_getD_ofParts? decimal _ _
  · split
    · exact negative_getD_ofParts? decimal _ _
    · rfl

/-- The decimal is zero or has the sign. -/
def HasSign (negative : Bool) (decimal : Decimal) : Prop :=
  decimal.isZero = true ∨ decimal.negative = negative

/-- A quotient is zero or has the sign of the exact one. -/
theorem hasSign_of_div?
    {dividend divisor quotient : Decimal}
    (found : dividend.div? divisor = some quotient) :
    quotient.HasSign (dividend.negative != divisor.negative) := by
  rw [div?] at found
  split at found
  · cases found
    exact .inl rfl
  · rcases Option.map_eq_some_iff.1 found with ⟨nearest, isNearest, rfl⟩
    right
    split
    · rw [negative_withScale]
      exact negative_of_nearest isNearest
    · exact negative_of_nearest isNearest

/-! ## Signs of powers -/

theorem HasSign.units_nonneg
    {decimal : Decimal}
    (sign : decimal.HasSign false) :
    0 ≤ decimal.units := by
  rcases sign with zero | natural
  · exact Int.le_of_eq ((units_eq_zero_iff decimal).2 zero).symm
  · rw [units_eq_signed, natural, signed, if_neg Bool.false_ne_true]
    exact Int.natCast_nonneg _

theorem HasSign.units_nonpos
    {decimal : Decimal}
    (sign : decimal.HasSign true) :
    decimal.units ≤ 0 := by
  rcases sign with zero | negative
  · exact Int.le_of_eq ((units_eq_zero_iff decimal).2 zero)
  · rw [units_eq_signed, negative, signed, if_pos rfl]
    exact Int.neg_nonpos_of_nonneg (Int.natCast_nonneg _)

theorem HasSign.normalize
    {negative : Bool}
    {decimal : Decimal}
    (sign : decimal.HasSign negative) :
    decimal.normalize.HasSign negative := by
  rw [HasSign, isZero_normalize, negative_normalize]
  exact sign

/-- Products of powers have the sign of the power that they stand for. -/
theorem HasSign.mul?
    {negative : Bool}
    {first second : Nat}
    {left right product : Decimal}
    (leftSign : left.HasSign (powerSign negative first))
    (rightSign : right.HasSign (powerSign negative second))
    (found : left.mul? right = some product) :
    product.HasSign (powerSign negative (first + second)) := by
  rcases negative_of_mul? found with zero | ⟨leftNonzero, rightNonzero, sign⟩
  · exact .inl zero
  · rcases leftSign with zero | leftSign
    · cases zero.symm.trans leftNonzero
    · rcases rightSign with zero | rightSign
      · cases zero.symm.trans rightNonzero
      · exact .inr (by rw [sign, leftSign, rightSign, powerSign_add])

theorem hasSign_of_powerByProducts?
    {base power : Decimal}
    {exponent : Nat}
    (found : base.powerByProducts? exponent = some power) :
    power.HasSign (powerSign base.negative exponent) := by
  refine
    power_of_repeatedSquares
      (fun exponent => HasSign (powerSign base.negative exponent))
      ?_ ?_ ?_ found
  · intro first second left right product leftSign rightSign isProduct
    exact leftSign.mul? rightSign isProduct
  · exact .inr (powerSign_zero _).symm
  · exact .inr (powerSign_one _).symm

/-! ## Signs of wide powers -/

/-- The wide decimal is a zero without a sign, or has the sign. -/
def Wide.HasSign (negative : Bool) (wide : Wide) : Prop :=
  wide = ⟨false, 0, 0⟩ ∨ wide.negative = negative

theorem Wide.HasSign.mul?
    {negative : Bool}
    {first second : Nat}
    {left right product : Wide}
    (leftSign : left.HasSign (powerSign negative first))
    (rightSign : right.HasSign (powerSign negative second))
    (found : left.mul? right = some product) :
    product.HasSign (powerSign negative (first + second)) := by
  rw [Wide.mul?_eq] at found
  split at found
  · cases found
    exact .inl rfl
  · rename_i noZero
    rw [not_or] at noZero
    have leftNegative : left.negative = powerSign negative first :=
      leftSign.resolve_left fun zero => noZero.1 (by rw [zero])
    have rightNegative : right.negative = powerSign negative second :=
      rightSign.resolve_left fun zero => noZero.2 (by rw [zero])
    rcases Option.map_eq_some_iff.1 found with ⟨parts, _, rfl⟩
    exact .inr (by rw [leftNegative, rightNegative, powerSign_add])

theorem Wide.HasSign.toDecimal?
    {negative : Bool}
    {wide : Wide}
    {decimal : Decimal}
    (sign : wide.HasSign negative)
    (found : wide.toDecimal? = some decimal) :
    decimal.HasSign negative := by
  rcases sign with rfl | sign
  · cases found
    exact .inl rfl
  · rw [Wide.toDecimal?_eq] at found
    rcases Option.bind_eq_some_iff.1 found with ⟨parts, _, built⟩
    exact .inr ((negative_of_ofParts? built).trans sign)

theorem hasSign_of_powerByWideProducts?
    {base power : Decimal}
    {exponent : Nat}
    (found : base.powerByWideProducts? exponent = some power) :
    power.HasSign (powerSign base.negative exponent) := by
  rcases Option.bind_eq_some_iff.1 found with ⟨wide, isWide, rounded⟩
  have sign : wide.HasSign (powerSign base.negative exponent) := by
    refine
      power_of_repeatedSquares
        (fun exponent => Wide.HasSign (powerSign base.negative exponent))
        ?_ ?_ ?_ isWide
    · intro first second left right product leftSign rightSign isProduct
      exact leftSign.mul? rightSign isProduct
    · exact .inr (powerSign_zero _).symm
    · exact .inr (powerSign_one _).symm
  exact sign.toDecimal? rounded

/-- A power is zero or has the sign of the exact one, however it is rounded. -/
theorem hasSign_of_power?
    {base power : Decimal}
    (nonzero : base.isZero = false)
    {exponent : Nat}
    (found : base.power? exponent = some power) :
    power.HasSign (powerSign base.negative exponent) := by
  rw [power?, nonzero] at found
  split at found
  · rename_i atZero
    cases found
    rw [atZero, powerSign_zero]
    exact .inr rfl
  · rw [if_neg Bool.false_ne_true] at found
    split at found
    · rename_i isOne
      cases found
      rw [negative_eq_decide nonzero, (beq_iff_units _ _).1 isOne]
      exact .inr rfl
    · split at found
      · rename_i atOne
        cases found
        rw [atOne, powerSign_one]
        exact .inr rfl
      · split at found
        · rename_i atTwo
          rw [atTwo]
          have sign : base.HasSign (powerSign base.negative 1) :=
            .inr (powerSign_one _).symm
          exact sign.mul? sign found
        · split at found
          all_goals
            rcases Option.map_eq_some_iff.1 found with ⟨product, isProduct, rfl⟩
          · exact (hasSign_of_powerByProducts? isProduct).normalize
          · exact (hasSign_of_powerByWideProducts? isProduct).normalize

end Decimal

end Formulary
