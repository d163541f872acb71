import Formulary.Number.Power
import Formulary.Proofs.Decimal.Squaring
import Formulary.Proofs.Decimal.Value
import Formulary.Proofs.Number.Arithmetic

/-!
# Powers by value

Whole powers below `1024` multiply decimals, so that the value of the power
depends on the value of the base alone.  Larger powers multiply wide decimals,
whose last digits may depend on the scale that the base is written with.  The
exponent itself is read by its value.
-/

namespace Formulary

namespace Decimal

variable {base base' : Decimal}

theorem isZero_congr
    (same : base.units = base'.units) :
    base.isZero = base'.isZero := by
  rw [Bool.eq_iff_iff, ← units_eq_zero_iff, ← units_eq_zero_iff, same]

theorem map_units_mul?_congr
    {left left' right right' : Decimal}
    (sameLeft : left.units = left'.units)
    (sameRight : right.units = right'.units) :
    (left.mul? right).map units = (left'.mul? right').map units := by
  rw [map_units_mul?, map_units_mul?, sameLeft, sameRight]

/-- The fractional decimals are those with fewer units than one. -/
theorem isFractional_iff
    (decimal : Decimal) :
    decimal.isFractional = true ↔ decimal.size < tenTo maxScale := by
  rw [isFractional, decide_eq_true_iff, size,
    ← tenTo_sub_mul decimal.scale_le, Nat.mul_comm decimal.mantissa]
  exact (Nat.mul_lt_mul_left (tenTo_pos _)).symm

/-- A power below `1024` has its value by that of the base. -/
theorem map_units_power?_congr
    (same : base.units = base'.units)
    {exponent : Nat}
    (small : exponent < 1024) :
    (base.power? exponent).map units = (base'.power? exponent).map units := by
  have sameOne : (base == one) = (base' == one) := by
    rw [Bool.eq_iff_iff, beq_iff_units, beq_iff_units, same]
  have products :
      (base.powerByProducts? exponent).map units =
        (base'.powerByProducts? exponent).map units :=
    repeatedSquares_congr
      (fun _ _ _ _ sameLeft sameRight =>
        map_units_mul?_congr sameLeft sameRight)
      exponent rfl same
  rw [power?, power?, isZero_congr same, sameOne]
  split
  · rfl
  · split
    · rfl
    · split
      · rfl
      · split
        · rw [Option.map_some, Option.map_some, same]
        · split
          · exact map_units_mul?_congr same same
          · have normalized : units ∘ normalize = units := by
              funext decimal
              exact decimal.units_normalize
            rw [Option.map_map, Option.map_map, normalized]
            exact products

theorem isFractional_congr
    (same : base.units = base'.units) :
    base.isFractional = base'.isFractional := by
  rw [Bool.eq_iff_iff, isFractional_iff, isFractional_iff, ← natAbs_units,
    ← natAbs_units, same]

/-- Powers of zero are not too large. -/
theorem isZero_of_power?_eq_none
    {exponent : Nat}
    (tooLarge : base.power? exponent = none) :
    base.isZero = false := by
  rw [power?] at tooLarge
  split at tooLarge
  · cases tooLarge
  · split at tooLarge
    · cases tooLarge
    · rename_i nonzero
      exact Bool.eq_false_iff.2 nonzero

end Decimal

namespace Number

/-- The power with a natural exponent has its value by that of the base, if the power of decimals has. -/
theorem key_naturalPower_congr
    {base base' : Decimal}
    {exponent : Nat}
    (same : base.units = base'.units)
    (powers :
      (base.power? exponent).map Decimal.units =
        (base'.power? exponent).map Decimal.units) :
    (naturalPower base exponent).key = (naturalPower base' exponent).key := by
  rw [naturalPower, naturalPower]
  cases power : base.power? exponent with
  | some value =>
      cases power' : base'.power? exponent with
      | some value' =>
          rw [power, power', Option.map_some, Option.map_some,
            Option.some.injEq] at powers
          rw [key_finite, key_finite, powers]
      | none =>
          rw [power, power'] at powers
          cases powers
  | none =>
      cases power' : base'.power? exponent with
      | some value' =>
          rw [power, power'] at powers
          cases powers
      | none =>
          rw [Decimal.isFractional_congr same,
            Decimal.negative_eq_decide (Decimal.isZero_of_power?_eq_none power),
            Decimal.negative_eq_decide (Decimal.isZero_of_power?_eq_none power'),
            same]

/-- Numerically equal bases have numerically equal powers with the exponent. -/
def ScaleFree (exponent : Number) : Prop :=
  ∀ left right : Number, (left == right) = true →
    (left.pow exponent == right.pow exponent) = true

theorem isFinite_congr
    {left right : Number}
    (same : left.key = right.key) :
    left.isFinite = right.isFinite ∧ left.isNaN = right.isNaN := by
  cases left <;> cases right <;> first | exact ⟨rfl, rfl⟩ | cases same

/-- The power with a whole exponent below `1024` has its value by that of the base. -/
theorem key_wholePower_congr
    {left right : Number}
    {whole : Int}
    (same : left.key = right.key)
    (small : whole.natAbs < 1024) :
    (left.wholePower whole).key = (right.wholePower whole).key := by
  cases left with
  | finite base =>
      cases right with
      | finite base' =>
          rw [key_finite, key_finite, Key.finite.injEq] at same
          have powers :=
            key_naturalPower_congr same
              (Decimal.map_units_power?_congr same small)
          rw [wholePower, wholePower]
          split
          · rw [key_div, key_div, powers]
          · exact powers
      | infinite negative => cases same
      | nan => cases same
  | infinite negative =>
      cases right with
      | finite base' => cases same
      | infinite negative' =>
          rw [key_infinite, key_infinite, Key.infinite.injEq] at same
          rw [same]
      | nan => cases same
  | nan =>
      cases right with
      | finite base' => cases same
      | infinite negative' => cases same
      | nan => rfl

/-- Whole exponents below `1024` are scale free. -/
theorem scaleFree_of_lt
    {exponent : Number}
    {whole : Int}
    (isWhole : exponent.wholeExponent? = some whole)
    (small : whole.natAbs < 1024) :
    ScaleFree exponent := by
  intro left right equal
  rw [beq_iff_key] at equal ⊢
  rcases isFinite_congr equal with ⟨sameFinite, sameNaN⟩
  rw [pow, pow, isWhole, sameNaN, sameFinite]
  split
  · rfl
  · simp only
    split
    · rfl
    · split
      · rename_i least
        have large : whole.natAbs = 9223372036854775808 := by
          rw [least.2]
          rfl
        omega
      · exact key_wholePower_congr equal small

/-! ## Whole exponents -/

/-- A whole number of at most sixty-four bits is read as an exponent, however it is written. -/
theorem wholeExponent?_of_value
    {exponent : Decimal}
    {whole : Int}
    (isWhole : exponent.value = whole)
    (small : whole.natAbs < 2 ^ 63) :
    (Number.finite exponent).wholeExponent? = some whole := by
  have mantissa := Decimal.signedMantissa_of_value isWhole
  have positive := tenTo_pos exponent.scale
  have size : exponent.mantissa = whole.natAbs * tenTo exponent.scale := by
    have sizes := congrArg Int.natAbs mantissa
    rw [Int.natAbs_mul, Int.natAbs_natCast,
      Decimal.natAbs_signedMantissa] at sizes
    exact sizes
  have noFraction : exponent.mantissa % tenTo exponent.scale = 0 := by
    rw [size, Nat.mul_mod_left]
  have divided : exponent.wholePart * tenTo exponent.scale = exponent.mantissa :=
    Nat.div_mul_cancel (Nat.dvd_of_mod_eq_zero noFraction)
  have value :
      (if exponent.negative then -(exponent.wholePart : Int)
        else exponent.wholePart) = whole := by
    apply Int.eq_of_mul_eq_mul_right (Int.natCast_pos.2 positive).ne'
    rw [← mantissa, Decimal.signedMantissa, ite_mul, Int.neg_mul,
      ← Int.natCast_mul, divided]
  rw [wholeExponent?]
  simp only [value]
  rw [if_pos]
  refine ⟨beq_iff_eq.2 noFraction, ?_⟩
  simp only [leastExponent]
  omega

/-- The power of a decimal with a whole exponent other than zero. -/
theorem pow_of_value
    (base : Decimal)
    {exponent : Decimal}
    {whole : Int}
    (isWhole : exponent.value = whole)
    (nonzero : whole ≠ 0)
    (small : whole.natAbs < 2 ^ 63) :
    (Number.finite base).pow (.finite exponent) =
      if whole < 0 then one.div (naturalPower base whole.natAbs)
      else naturalPower base whole.natAbs := by
  have inRange : ¬((Number.finite base).isFinite ∧ whole = leastExponent) := by
    rintro ⟨_, rfl⟩
    exact absurd small (by decide)
  rw [pow, wholeExponent?_of_value isWhole small]
  exact
    (if_neg Bool.false_ne_true).trans
      ((if_neg nonzero).trans (if_neg inRange))

end Number

end Formulary
