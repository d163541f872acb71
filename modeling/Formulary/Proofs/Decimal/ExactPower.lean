import Formulary.Proofs.Decimal.Sign
import Formulary.Proofs.Decimal.Value
import Mathlib.Data.Nat.Prime.Basic

/-!
# Exact powers

A power that is representable is not rounded.  The steps of repeated squaring
are smaller powers of the same base, and these are representable as well:
without trailing zeros the scale and the mantissa of a power are the multiple
and the power of those of its base (`representable_pow_of_le`).

Powers from `1024` on are representable for the bases zero, one and minus one
only.  The last of these may be written with trailing zeros, and then its
powers are taken by wide decimals which are powers of ten at their scale.
-/

namespace Formulary

/-! ## Powers without trailing zeros -/

/-- A number whose power is a multiple of ten is one. -/
theorem ten_dvd_of_ten_dvd_pow
    {mantissa exponent : Nat}
    (divides : 10 ∣ mantissa ^ exponent) :
    10 ∣ mantissa := by
  have two : 2 ∣ mantissa :=
    Nat.prime_two.dvd_of_dvd_pow (Nat.dvd_trans (by decide) divides)
  have five : 5 ∣ mantissa :=
    Nat.prime_five.dvd_of_dvd_pow (Nat.dvd_trans (by decide) divides)
  omega

/--
The power of a form without trailing zeros has none either, so that no form of
the power has fewer digits behind the point or a smaller mantissa.
-/
theorem pow_le_of_reduced
    {mantissa scale exponent mantissa' scale' : Nat}
    (reduced : scale = 0 ∨ mantissa % 10 ≠ 0)
    (same :
      mantissa ^ exponent * tenTo scale' =
        mantissa' * tenTo (scale * exponent)) :
    scale * exponent ≤ scale' ∧ mantissa ^ exponent ≤ mantissa' := by
  have within : scale * exponent ≤ scale' := by
    rcases reduced with whole | kept
    · rw [whole, Nat.zero_mul]
      exact Nat.zero_le _
    · apply Nat.le_of_not_lt
      intro longer
      apply kept
      have exponents :
          scale * exponent = scale * exponent - scale' - 1 + 1 + scale' := by
        omega
      rw [exponents, tenTo_add, tenTo_succ, ← Nat.mul_assoc,
        ← Nat.mul_assoc] at same
      have power := Nat.eq_of_mul_eq_mul_right (tenTo_pos _) same
      exact
        Nat.mod_eq_zero_of_dvd
          (ten_dvd_of_ten_dvd_pow (power ▸ Nat.dvd_mul_left 10 _))
  refine ⟨within, ?_⟩
  rw [← tenTo_sub_mul within, ← Nat.mul_assoc] at same
  have power := Nat.eq_of_mul_eq_mul_right (tenTo_pos _) same
  rw [← power]
  exact Nat.le_mul_of_pos_right _ (tenTo_pos _)

namespace Decimal

section

variable {base : Decimal} {exponent : Nat}

/-- The bounds that a representable power puts on its base. -/
theorem Reduced.pow_bounds
    (reduced : base.Reduced)
    (representable : Representable (base.value ^ exponent)) :
    base.scale * exponent ≤ maxScale ∧
      base.mantissa ^ exponent < mantissaBound := by
  rcases representable with ⟨mantissa, scale, inRange, within, exact⟩
  rw [value, div_pow, ← pow_mul,
    div_eq_div_iff (by positivity) (by positivity), ← cast_tenTo,
    ← cast_tenTo] at exact
  have same :
      base.signedMantissa ^ exponent * (tenTo scale : Nat) =
        mantissa * (tenTo (base.scale * exponent) : Nat) := by
    exact_mod_cast exact
  have sizes := congrArg Int.natAbs same
  rw [Int.natAbs_mul, Int.natAbs_mul, Int.natAbs_pow, Int.natAbs_natCast,
    Int.natAbs_natCast, natAbs_signedMantissa] at sizes
  have bounds := pow_le_of_reduced reduced sizes
  exact ⟨Nat.le_trans bounds.1 within, Nat.lt_of_le_of_lt bounds.2 inRange⟩

/-- Where a power is representable, all smaller ones are. -/
theorem representable_pow_of_le
    (representable : Representable (base.value ^ exponent))
    {smaller : Nat}
    (below : smaller ≤ exponent) :
    Representable (base.value ^ smaller) := by
  rw [← value_normalize] at representable ⊢
  have bounds := base.reduced_normalize.pow_bounds representable
  refine
    ⟨base.normalize.signedMantissa ^ smaller, base.normalize.scale * smaller,
      ?_, Nat.le_trans (Nat.mul_le_mul_left _ below) bounds.1, ?_⟩
  · rw [Int.natAbs_pow, natAbs_signedMantissa]
    rcases Nat.eq_zero_or_pos base.normalize.mantissa with zero | positive
    · rw [zero]
      exact Nat.lt_of_le_of_lt (Nat.pow_le_pow_left (Nat.zero_le 1) smaller)
        (by rw [Nat.one_pow]; decide)
    · exact
        Nat.lt_of_le_of_lt (Nat.pow_le_pow_right positive below) bounds.2
  · rw [value, div_pow, Int.cast_pow, ← pow_mul]

/-! ## Products of decimals -/

/-- A representable power by products of decimals is exact. -/
theorem powerByProducts?_of_representable
    (representable : Representable (base.value ^ exponent)) :
    ∃ power, base.powerByProducts? exponent = some power ∧
      power.value = base.value ^ exponent := by
  refine
    exists_repeatedSquares
      (fun exponent (power : Decimal) => power.value = base.value ^ exponent)
      ?_ ?_ ?_
  · intro first second left right within isLeft isRight
    have smaller := representable_pow_of_le representable within
    rw [pow_add, ← isLeft, ← isRight] at smaller ⊢
    exact mul?_of_representable smaller
  · rw [value_one, pow_zero]
  · rw [pow_one]

end

/-! ## Powers of ten in wide decimals -/

theorem tenTo_div
    {exponent digits : Nat}
    (within : digits ≤ exponent) :
    tenTo exponent / tenTo digits = tenTo (exponent - digits) := by
  rw [← tenTo_sub_mul within, Nat.mul_div_cancel _ (tenTo_pos digits)]

theorem tenTo_mod
    {exponent digits : Nat}
    (within : digits ≤ exponent) :
    tenTo exponent % tenTo digits = 0 := by
  rw [← tenTo_sub_mul within, Nat.mul_mod_left]

/-- A power of ten at its scale stays one when digits go, and nothing remains of it. -/
theorem shrink_tenTo
    {words : Nat}
    (room : 0 < words)
    {scale excess : Nat}
    (positive : 0 < excess)
    (within : excess ≤ scale) :
    ∃ rest, shrink words (tenTo scale) scale excess = some (tenTo rest, 0, rest) ∧
      rest + excess ≤ scale ∧ tenTo rest < twoTo (32 * words) := by
  induction scale using Nat.strongRecOn generalizing excess with
  | ind scale hypothesis =>
      have group : min excess 9 ≤ scale := Nat.le_trans (Nat.min_le_left _ _) within
      have digits : 0 < min excess 9 := Nat.lt_min.2 ⟨positive, by decide⟩
      rw [shrink, if_pos ⟨positive, within⟩]
      simp only
      rw [tenTo_div group, tenTo_mod group]
      split
      · rename_i left
        rcases
            hypothesis (scale - min excess 9) (by omega)
              (Nat.pos_of_ne_zero left) (by omega) with
          ⟨rest, shrunk, gone, fits⟩
        exact ⟨rest, shrunk, by omega, fits⟩
      · rename_i finished
        split
        · rename_i fits
          exact ⟨scale - min excess 9, rfl, by omega, fits⟩
        · rename_i wide
          -- A power of ten that still has no room is not one, so a digit is left to drop.
          have digit : 1 ≤ scale - min excess 9 := by
            apply Nat.pos_of_ne_zero
            intro none
            rw [none, tenTo_zero] at wide
            exact wide (Nat.one_lt_two_pow (by omega))
          rcases
              hypothesis (scale - min excess 9) (by omega) Nat.one_pos digit with
            ⟨rest, shrunk, gone, fits⟩
          exact ⟨rest, shrunk, by omega, fits⟩

theorem bitLength_tenTo_le
    {exponent : Nat}
    (positive : 0 < exponent) :
    bitLength (tenTo exponent) ≤ 4 * exponent := by
  have nonzero : tenTo exponent ≠ 0 := (tenTo_pos exponent).ne'
  have below : tenTo exponent < 2 ^ (4 * exponent) := by
    rw [Nat.pow_mul]
    exact Nat.pow_lt_pow_left (by decide) positive.ne'
  rw [bitLength, if_neg nonzero]
  exact (Nat.log2_lt nonzero).2 below

/-- No more digits have to go than a power of ten has zeros. -/
theorem excessDigits_tenTo_le
    {words scale : Nat}
    (room : 3 ≤ words)
    (within : scale ≤ 114) :
    excessDigits words (tenTo scale) scale ≤ scale := by
  rw [excessDigits]
  apply Nat.max_le.2
  refine ⟨?_, Nat.sub_le _ _⟩
  split
  · exact Nat.zero_le _
  · rename_i wide
    have positive : 0 < scale := by
      apply Nat.pos_of_ne_zero
      intro none
      rw [none, tenTo_zero] at wide
      exact wide (Nat.one_lt_two_pow (by omega))
    have bits := bitLength_tenTo_le positive
    omega

/-- A power of ten at its scale is reduced to one, within the scale that has room. -/
theorem reduce_tenTo
    {words scale : Nat}
    (room : 3 ≤ words)
    (within : scale ≤ 114) :
    ∃ rest, reduce words (tenTo scale) scale = some (tenTo rest, rest) ∧
      rest ≤ widthScale words ∧ tenTo rest < twoTo (32 * words) := by
  have excessLe := excessDigits_tenTo_le room within
  have byScale :
      scale - widthScale words ≤ excessDigits words (tenTo scale) scale :=
    Nat.le_max_right _ _
  have byWidth :
      ¬tenTo scale < twoTo (32 * words) →
        0 < excessDigits words (tenTo scale) scale := by
    intro wide
    rw [excessDigits]
    rw [if_neg wide]
    exact Nat.lt_of_lt_of_le (Nat.succ_pos _) (Nat.le_max_left _ _)
  rw [reduce]
  simp only
  generalize excessDigits words (tenTo scale) scale = excess at *
  split
  · rename_i none
    refine ⟨scale, rfl, by omega, ?_⟩
    by_contra wide
    exact absurd (byWidth wide) (by omega)
  · rename_i some
    rcases
        shrink_tenTo (Nat.lt_of_lt_of_le (by decide) room)
          (Nat.pos_of_ne_zero some) excessLe with
      ⟨rest, shrunk, gone, fits⟩
    refine ⟨rest, ?_, by omega, fits⟩
    rw [shrunk]
    exact if_pos fits

/-- The size is one, written with at most fifty-seven zeros behind the point. -/
def Wide.IsUnit (wide : Wide) : Prop :=
  wide.mantissa = tenTo wide.scale ∧ wide.scale ≤ 57

theorem Wide.IsUnit.mul?
    {left right : Wide}
    (leftUnit : left.IsUnit)
    (rightUnit : right.IsUnit) :
    ∃ product, left.mul? right = some product ∧ product.IsUnit := by
  rcases leftUnit with ⟨leftMantissa, leftScale⟩
  rcases rightUnit with ⟨rightMantissa, rightScale⟩
  have leftPositive := tenTo_pos left.scale
  have rightPositive := tenTo_pos right.scale
  rw [mul?_eq, leftMantissa, rightMantissa, if_neg (by omega), ← tenTo_add]
  split
  · rename_i small
    have within : left.scale + right.scale ≤ 57 := by
      by_contra above
      have large : tenTo 58 ≤ tenTo (left.scale + right.scale) :=
        Nat.pow_le_pow_right (by decide) (by omega)
      exact absurd (Nat.lt_of_le_of_lt large small) (by decide)
    rw [roundGroups, if_neg (by omega)]
    exact ⟨_, rfl, rfl, within⟩
  · rcases
        reduce_tenTo (by decide : 3 ≤ 6)
          (by omega : left.scale + right.scale ≤ 114) with
      ⟨rest, reduced, within, -⟩
    rw [reduced]
    exact ⟨_, rfl, rfl, within⟩

theorem Wide.IsUnit.toDecimal?
    {wide : Wide}
    (isUnit : wide.IsUnit) :
    ∃ decimal, wide.toDecimal? = some decimal ∧
      decimal.mantissa = tenTo decimal.scale := by
  rcases isUnit with ⟨mantissa, scale⟩
  rw [toDecimal?_eq, mantissa]
  split
  · rename_i inRange
    exact ⟨⟨wide.negative, _, _, inRange.1, inRange.2⟩, dif_pos inRange, rfl⟩
  · rcases reduce_tenTo (Nat.le_refl 3) (by omega : wide.scale ≤ 114) with
      ⟨rest, reduced, within, fits⟩
    have inRange : tenTo rest < mantissaBound ∧ rest ≤ maxScale :=
      ⟨fits, within⟩
    rw [reduced]
    exact ⟨⟨wide.negative, _, _, inRange.1, inRange.2⟩, dif_pos inRange, rfl⟩

/-! ## Large exponents -/

section

variable {base : Decimal} {exponent : Nat}

/-- The large powers that are representable are those of zero, one and minus one. -/
theorem value_of_large_exponent
    (large : 1024 ≤ exponent)
    (representable : Representable (base.value ^ exponent)) :
    base.value = 0 ∨ base.value = 1 ∨ base.value = -1 := by
  rw [← value_normalize] at representable ⊢
  -- A digit behind the point, or a second unit, would be multiplied beyond the bounds.
  have bounds := base.reduced_normalize.pow_bounds representable
  have scale : base.normalize.scale = 0 := by
    by_contra digits
    have product : exponent ≤ base.normalize.scale * exponent :=
      Nat.le_mul_of_pos_left _ (Nat.pos_of_ne_zero digits)
    have fraction : exponent ≤ 28 := Nat.le_trans product bounds.1
    omega
  have mantissa : base.normalize.mantissa < 2 := by
    by_contra two
    have power : 2 ^ exponent ≤ base.normalize.mantissa ^ exponent :=
      Nat.pow_le_pow_left (Nat.le_of_not_lt two) exponent
    have huge : 2 ^ 96 ≤ 2 ^ exponent :=
      Nat.pow_le_pow_right (by decide) (by omega)
    exact absurd bounds.2 (Nat.not_lt.2 (Nat.le_trans huge power))
  have size := base.normalize.natAbs_signedMantissa
  have cases : base.normalize.signedMantissa = 0 ∨
      base.normalize.signedMantissa = 1 ∨
        base.normalize.signedMantissa = -1 := by
    omega
  rw [value, scale, pow_zero, div_one]
  exact_mod_cast cases

/-- A decimal whose mantissa is a power of ten at its scale is one or minus one. -/
theorem value_of_tenTo
    {decimal : Decimal}
    (isUnit : decimal.mantissa = tenTo decimal.scale) :
    decimal.value = if decimal.negative then -1 else 1 := by
  have positive : (10 : ℚ) ^ decimal.scale ≠ 0 := by positivity
  rw [value, signedMantissa, isUnit]
  split
  · rw [Int.cast_neg, Int.cast_natCast, cast_tenTo, neg_div, div_self positive]
  · rw [Int.cast_natCast, cast_tenTo, div_self positive]

/-- The powers of minus one by wide decimals are exact, whatever zeros it is written with. -/
theorem powerByWideProducts?_of_minus_one
    (isMinusOne : base.value = -1)
    (exponent : Nat) :
    ∃ power, base.powerByWideProducts? exponent = some power ∧
      power.value = (-1) ^ exponent := by
  have signed : base.value = ((-1 : Int) : ℚ) := by
    rw [isMinusOne, Int.cast_neg, Int.cast_one]
  have mantissa := signedMantissa_of_value signed
  have size : base.mantissa = tenTo base.scale := by
    rw [← natAbs_signedMantissa, mantissa, Int.natAbs_mul, Int.natAbs_natCast]
    exact Nat.one_mul _
  have negative : base.negative = true := by
    by_contra natural
    have value := value_of_tenTo size
    rw [if_neg natural, isMinusOne] at value
    norm_num at value
  have within : base.scale ≤ 57 := Nat.le_trans base.scale_le (by decide)
  have units :
      ∃ wide,
        repeatedSquares Wide.mul? exponent ⟨false, 1, 0⟩
            ⟨base.negative, base.mantissa, base.scale⟩ = some wide ∧
          wide.IsUnit :=
    exists_repeatedSquares (fun _ => Wide.IsUnit)
      (fun _ _ _ _ _ leftUnit rightUnit => leftUnit.mul? rightUnit)
      ⟨rfl, by decide⟩ ⟨size, within⟩
  rcases units with ⟨wide, isWide, isUnit⟩
  rcases isUnit.toDecimal? with ⟨power, isPower, powerSize⟩
  have found : base.powerByWideProducts? exponent = some power := by
    rw [powerByWideProducts?, isWide]
    exact isPower
  refine ⟨power, found, ?_⟩
  have nonzero : ¬power.isZero = true := by
    rw [isZero, beq_iff_eq, powerSize]
    exact (tenTo_pos _).ne'
  have sign :=
    (hasSign_of_powerByWideProducts? found).resolve_left nonzero
  rw [value_of_tenTo powerSize, sign, negative, neg_one_pow_eq_pow_mod_two]
  rcases Nat.mod_two_eq_zero_or_one exponent with even | odd
  · rw [powerSign, even]
    simp
  · rw [powerSign, odd]
    simp

/-- A power that is representable is exact. -/
theorem power?_of_representable
    (representable : Representable (base.value ^ exponent)) :
    ∃ power, base.power? exponent = some power ∧
      power.value = base.value ^ exponent := by
  rw [power?]
  split
  · rename_i atZero
    exact ⟨one, rfl, by rw [atZero, value_one, pow_zero]⟩
  · rename_i positive
    split
    · rename_i baseZero
      refine ⟨zero, rfl, ?_⟩
      rw [(value_eq_zero_iff base).2 baseZero, zero_pow positive,
        value_eq_zero_iff]
      rfl
    · rename_i baseNonzero
      split
      · rename_i baseOne
        have isOne : base.value = 1 := by
          rw [← value_one, value_inj]
          exact (beq_iff_units _ _).1 baseOne
        exact ⟨one, rfl, by rw [isOne, value_one, one_pow]⟩
      · rename_i baseNotOne
        split
        · rename_i atOne
          exact ⟨base, rfl, by rw [atOne, pow_one]⟩
        · split
          · rename_i atTwo
            rw [atTwo, pow_two] at representable ⊢
            exact mul?_of_representable representable
          · split
            · rcases powerByProducts?_of_representable representable with
                ⟨power, found, exact⟩
              exact ⟨power.normalize, by rw [found]; rfl, by rw [value_normalize, exact]⟩
            · rename_i large
              have isMinusOne : base.value = -1 := by
                rcases
                    value_of_large_exponent (Nat.le_of_not_lt large)
                      representable with
                  zero | one | minusOne
                · exact absurd ((value_eq_zero_iff base).1 zero) baseNonzero
                · rw [← value_one, value_inj, ← beq_iff_units] at one
                  exact absurd one baseNotOne
                · exact minusOne
              rcases powerByWideProducts?_of_minus_one isMinusOne exponent with
                ⟨power, found, exact⟩
              rw [isMinusOne]
              exact ⟨power.normalize, by rw [found]; rfl, by rw [value_normalize, exact]⟩

end

end Decimal

end Formulary
