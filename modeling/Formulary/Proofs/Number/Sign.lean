import Formulary.Proofs.Decimal.Sign
import Formulary.Proofs.Number.Power
import Mathlib.Algebra.Order.Field.Power

/-!
# Signs of whole powers

A whole power of a decimal has the sign of the exact power through every
rounding, and so has the infinity that it overflows to.  There is one
exception.  A power with a negative exponent is a reciprocal, and a power that
has vanished has no sign left: its reciprocal is the positive infinity.
`pow_sign` states the exact condition.
-/

namespace Formulary

/-- The exact power of a decimal is below zero if the sign of the power is a minus sign. -/
theorem zpow_lt_zero_iff
    {base : Decimal}
    (nonzero : base.value ≠ 0)
    (exponent : Int) :
    base.value ^ exponent < 0 ↔
      powerSign base.negative exponent.natAbs = true := by
  have parity : exponent.natAbs % 2 = 1 ↔ Odd exponent := by
    rw [Int.odd_iff]
    omega
  have sign : base.negative = true ↔ base.value < 0 := by
    rw [Decimal.negative_eq_decide (Decimal.isZero_of_value_ne_zero nonzero),
      decide_eq_true_iff, Decimal.value_lt_zero_iff]
  rw [powerSign, Bool.and_eq_true_iff, beq_iff_eq, parity, sign]
  constructor
  · intro below
    have odd : Odd exponent := by
      by_contra even
      exact (not_lt.2 (Even.zpow_nonneg (Int.not_odd_iff_even.1 even) _)) below
    exact ⟨(Odd.zpow_neg_iff odd).1 below, odd⟩
  · rintro ⟨below, odd⟩
    exact (Odd.zpow_neg_iff odd).2 below

namespace Number

/-- A decimal below zero, or the negative infinity. -/
def IsNegative : Number → Prop
  | .finite decimal => decimal.value < 0
  | .infinite negative => negative = true
  | .nan => False

/-- A decimal above zero, or the positive infinity. -/
def IsPositive : Number → Prop
  | .finite decimal => 0 < decimal.value
  | .infinite negative => negative = false
  | .nan => False

/-- The value is zero or has the sign; not-a-number is neither. -/
def HasSign (negative : Bool) : Number → Prop
  | .finite decimal => decimal.HasSign negative
  | .infinite sign => sign = negative
  | .nan => False

theorem HasSign.ne_nan
    {negative : Bool}
    {number : Number}
    (sign : number.HasSign negative) :
    number ≠ .nan := by
  rintro rfl
  exact sign

/-- What has no minus sign is not below zero. -/
theorem HasSign.not_isNegative
    {number : Number}
    (sign : number.HasSign false) :
    ¬number.IsNegative := by
  cases number with
  | finite decimal =>
      rw [IsNegative, Decimal.value_lt_zero_iff, Int.not_lt]
      exact Decimal.HasSign.units_nonneg sign
  | infinite negative =>
      cases sign
      exact Bool.false_ne_true
  | nan => exact id

/-- What has a minus sign is not above zero. -/
theorem HasSign.not_isPositive
    {number : Number}
    (sign : number.HasSign true) :
    ¬number.IsPositive := by
  cases number with
  | finite decimal =>
      rw [IsPositive, Decimal.zero_lt_value_iff, Int.not_lt]
      exact Decimal.HasSign.units_nonpos sign
  | infinite negative =>
      cases sign
      exact Bool.false_ne_true.symm
  | nan => exact id

/-! ## Natural powers and reciprocals -/

/-- A natural power keeps the sign, also where it overflows or vanishes. -/
theorem hasSign_naturalPower
    {base : Decimal}
    (nonzero : base.isZero = false)
    (exponent : Nat) :
    (naturalPower base exponent).HasSign (powerSign base.negative exponent) := by
  rw [naturalPower]
  cases found : base.power? exponent with
  | some power => exact Decimal.hasSign_of_power? nonzero found
  | none =>
      simp only
      split
      · exact .inl rfl
      · rfl

/-- The reciprocal of a value other than zero keeps the sign. -/
theorem HasSign.one_div
    {negative : Bool}
    {number : Number}
    (sign : number.HasSign negative)
    (nonzero : number.isZero = false) :
    (one.div number).HasSign negative := by
  cases number with
  | finite divisor =>
      rw [isZero] at nonzero
      have divisorSign : divisor.negative = negative :=
        sign.resolve_left (Bool.eq_false_iff.1 nonzero)
      have quotientSign :
          (one.isNegative != (Number.finite divisor).isNegative) = negative := by
        show (false != (divisor.negative && !divisor.isZero)) = negative
        rw [nonzero, divisorSign]
        cases negative <;> rfl
      rw [one, div, if_neg (Bool.eq_false_iff.1 nonzero), ← one, quotientSign]
      cases found : Decimal.one.div? divisor with
      | none => rfl
      | some quotient =>
          have kept := Decimal.hasSign_of_div? found
          rw [divisorSign] at kept
          cases negative <;> exact kept
  | infinite sign => exact .inl rfl
  | nan => exact sign

/-- The reciprocal of zero is the positive infinity. -/
theorem one_div_of_isZero
    {number : Number}
    (zero : number.isZero = true) :
    one.div number = .infinite false := by
  cases number with
  | finite divisor =>
      rw [isZero] at zero
      rw [one, div, if_pos zero]
      rfl
  | infinite negative => cases zero
  | nan => cases zero

/-! ## Whole powers -/

section

variable {base exponent : Decimal} {whole : Int}

/-- A whole power keeps the sign, unless it is the reciprocal of a power that has vanished. -/
theorem hasSign_pow
    (nonzero : base.isZero = false)
    (isWhole : exponent.value = whole)
    (wholeNonzero : whole ≠ 0)
    (small : whole.natAbs < 2 ^ 63)
    (kept : 0 < whole ∨ (naturalPower base whole.natAbs).isZero = false) :
    ((Number.finite base).pow (.finite exponent)).HasSign
      (powerSign base.negative whole.natAbs) := by
  have natural := hasSign_naturalPower nonzero whole.natAbs
  rw [pow_of_value base isWhole wholeNonzero small]
  split
  · exact natural.one_div (kept.resolve_left (by omega))
  · exact natural

/-- The power with the opposite exponent, if that one is natural. -/
theorem pow_negate_of_value
    (base : Decimal)
    (isWhole : exponent.value = whole)
    (below : whole < 0)
    (small : whole.natAbs < 2 ^ 63) :
    (Number.finite base).pow (.finite exponent.negate) =
      naturalPower base whole.natAbs := by
  have opposite : exponent.negate.value = ((-whole : Int) : ℚ) := by
    rw [Decimal.value_negate, isWhole, Int.cast_neg]
  rw [pow_of_value base opposite (by omega) (by omega), if_neg (by omega),
    Int.natAbs_neg]

/--
Whole powers of decimals other than zero are never not-a-number, and never
below zero where the exact power is above.  Where the exact power is below
zero, the power is above if and only if it is the reciprocal of a power that
has vanished.
-/
theorem pow_sign
    (nonzero : base.value ≠ 0)
    (isWhole : exponent.value = whole)
    (wholeNonzero : whole ≠ 0)
    (small : whole.natAbs < 2 ^ 63) :
    (Number.finite base).pow (.finite exponent) ≠ .nan ∧
      (0 < base.value ^ whole →
        ¬((Number.finite base).pow (.finite exponent)).IsNegative) ∧
      (base.value ^ whole < 0 →
        (((Number.finite base).pow (.finite exponent)).IsPositive ↔
          whole < 0 ∧
            ((Number.finite base).pow (.finite exponent.negate)).isZero = true)) := by
  have sign := zpow_lt_zero_iff nonzero whole
  have notZero := Decimal.isZero_of_value_ne_zero nonzero
  -- The sign is lost in one place only: where the quotient divides by a power that is zero.
  by_cases vanished :
      whole < 0 ∧ (naturalPower base whole.natAbs).isZero = true
  · have infinite :
        (Number.finite base).pow (.finite exponent) = .infinite false := by
      rw [pow_of_value base isWhole wholeNonzero small, if_pos vanished.1]
      exact one_div_of_isZero vanished.2
    rw [infinite, pow_negate_of_value base isWhole vanished.1 small]
    exact ⟨nofun, fun _ => Bool.false_ne_true, fun _ => ⟨fun _ => vanished, fun _ => rfl⟩⟩
  · have kept : 0 < whole ∨ (naturalPower base whole.natAbs).isZero = false := by
      rw [not_and_or, Bool.not_eq_true] at vanished
      exact vanished.imp_left (by omega)
    have hasSign := hasSign_pow notZero isWhole wholeNonzero small kept
    refine ⟨hasSign.ne_nan, ?_, ?_⟩
    · intro above
      have natural : powerSign base.negative whole.natAbs = false :=
        Bool.eq_false_iff.2 fun negative => lt_asymm above (sign.2 negative)
      rw [natural] at hasSign
      exact hasSign.not_isNegative
    · intro below
      rw [sign.1 below] at hasSign
      constructor
      · intro positive
        exact absurd positive hasSign.not_isPositive
      · rintro ⟨negative, zero⟩
        rw [pow_negate_of_value base isWhole negative small] at zero
        exact absurd ⟨negative, zero⟩ vanished

end

/-- The reciprocal of the cube of `-2` has the sign of the exact one. -/
theorem pow_sign_minus_two :
    let base : Decimal := ⟨true, 2, 0, by decide, by decide⟩
    let exponent : Decimal := ⟨true, 3, 0, by decide, by decide⟩
    base.value ^ (-3 : Int) < 0 ∧
      (Number.finite base).pow (.finite exponent) ≠ .nan ∧
      ¬((Number.finite base).pow (.finite exponent)).IsPositive := by
  intro base exponent
  have value : base.value = -2 := by
    norm_num [base, Decimal.value, Decimal.signedMantissa]
  have isWhole : exponent.value = ((-3 : Int) : ℚ) := by
    norm_num [exponent, Decimal.value, Decimal.signedMantissa]
  have below : base.value ^ (-3 : Int) < 0 := by
    rw [value]
    norm_num
  have signs :=
    pow_sign (by rw [value]; norm_num) isWhole (by decide) (by decide)
  have kept :
      ((Number.finite base).pow (.finite exponent.negate)).isZero = false := by
    decide +kernel
  refine ⟨below, signs.1, ?_⟩
  rw [signs.2.2 below, kept]
  exact fun vanished => Bool.false_ne_true vanished.2

/-- The cube of `-0.0000000003` vanishes, so that its reciprocal is the positive infinity. -/
theorem isPositive_pow_of_vanished_cube :
    let base : Decimal := ⟨true, 3, 10, by decide, by decide⟩
    let exponent : Decimal := ⟨true, 3, 0, by decide, by decide⟩
    base.value ≠ 0 ∧ exponent.value = ((-3 : Int) : ℚ) ∧
      base.value ^ (-3 : Int) < 0 ∧
      ((Number.finite base).pow (.finite exponent)).IsPositive := by
  intro base exponent
  have value : base.value = -3 / 10 ^ 10 := by
    norm_num [base, Decimal.value, Decimal.signedMantissa]
  have isWhole : exponent.value = ((-3 : Int) : ℚ) := by
    norm_num [exponent, Decimal.value, Decimal.signedMantissa]
  have vanished : (naturalPower base 3).isZero = true := by
    decide +kernel
  have infinite :
      (Number.finite base).pow (.finite exponent) = .infinite false := by
    rw [pow_of_value base isWhole (by decide) (by decide)]
    exact one_div_of_isZero vanished
  rw [infinite, value]
  exact ⟨by norm_num, isWhole, by norm_num, rfl⟩

end Number

end Formulary
