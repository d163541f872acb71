import Formulary.Decimal.Rounding

/-!
# Rounding by value

`Decimal.nearest` rounds an exact ratio.  Its value depends on the ratio
alone, and not on the two numbers that it is written with, nor on the scale to
try first, as long as the ratio is exact at that scale.

`nearestUnits` is the value of the decimal that a ratio rounds to, counted in
units of `10 ^ -28`.  The operations of decimals are stated by it.
-/

namespace Formulary

/-! ## Quotients of natural numbers -/

/-- A common factor makes no difference to a rounded quotient. -/
theorem divideHalfEven_mul_left
    {factor : Nat}
    (positive : 0 < factor)
    (numerator denominator : Nat) :
    divideHalfEven (factor * numerator) (factor * denominator) =
      divideHalfEven numerator denominator := by
  simp only [divideHalfEven]
  rw [Nat.mul_div_mul_left _ _ positive, Nat.mul_mod_mul_left,
    Nat.mul_left_comm 2 factor]
  simp only [Nat.mul_lt_mul_left positive]

/-- Equal ratios have the same rounded quotient. -/
theorem divideHalfEven_congr
    {numerator denominator numerator' denominator' : Nat}
    (positive : 0 < denominator)
    (positive' : 0 < denominator')
    (same : numerator * denominator' = numerator' * denominator) :
    divideHalfEven numerator denominator =
      divideHalfEven numerator' denominator' := by
  rw [← divideHalfEven_mul_left positive' numerator denominator,
    Nat.mul_comm denominator' numerator, same, Nat.mul_comm numerator',
    Nat.mul_comm denominator' denominator,
    divideHalfEven_mul_left positive]

/-- An exact quotient is not rounded. -/
theorem divideHalfEven_mul_right
    {denominator : Nat}
    (positive : 0 < denominator)
    (quotient : Nat) :
    divideHalfEven (quotient * denominator) denominator = quotient := by
  simp only [divideHalfEven]
  rw [Nat.mul_div_cancel _ positive, Nat.mul_mod_left, Nat.mul_zero,
    if_pos positive]

/-! ## Rounding a ratio -/

/-- An integer of a given size, negated when `negative` holds. -/
def signed (negative : Bool) (size : Nat) : Int :=
  if negative then -(size : Int) else (size : Int)

@[simp]
theorem signed_zero (negative : Bool) : signed negative 0 = 0 := by
  cases negative <;> rfl

/-- An integer is its size with its sign. -/
theorem signed_natAbs (value : Int) :
    signed (decide (value < 0)) value.natAbs = value := by
  by_cases below : value < 0
  · simp only [signed, below, decide_true, if_true]
    omega
  · simp only [signed, below, decide_false, Bool.false_eq_true, if_false]
    omega

/--
The size of the decimal nearest to a ratio, in units of `10 ^ -28`, at the
largest scale not above `top` whose mantissa is in range.
-/
def nearestSize (numerator denominator : Nat) : (top : Nat) → Option Nat
  | 0 =>
      let mantissa := divideHalfEven numerator denominator
      if mantissa < mantissaBound then
        some (mantissa * tenTo maxScale)
      else
        none
  | top + 1 =>
      let mantissa :=
        divideHalfEven (numerator * tenTo (top + 1)) denominator
      if mantissa < mantissaBound then
        some (mantissa * tenTo (maxScale - (top + 1)))
      else
        nearestSize numerator denominator top

/-- Where the mantissa is in range at the first scale, that scale is taken. -/
theorem nearestSize_of_lt
    {numerator denominator top : Nat}
    (inRange :
      divideHalfEven (numerator * tenTo top) denominator < mantissaBound) :
    nearestSize numerator denominator top =
      some
        (divideHalfEven (numerator * tenTo top) denominator *
          tenTo (maxScale - top)) := by
  cases top with
  | zero =>
      rw [tenTo_zero, Nat.mul_one] at inRange ⊢
      rw [nearestSize]
      simp only [inRange, if_true, Nat.sub_zero]
  | succ top =>
      rw [nearestSize]
      simp only [inRange, if_true]

/-- Equal ratios round to the same size. -/
theorem nearestSize_congr
    {numerator denominator numerator' denominator' : Nat}
    (positive : 0 < denominator)
    (positive' : 0 < denominator')
    (same : numerator * denominator' = numerator' * denominator)
    (top : Nat) :
    nearestSize numerator denominator top =
      nearestSize numerator' denominator' top := by
  induction top with
  | zero =>
      rw [nearestSize, nearestSize,
        divideHalfEven_congr positive positive' same]
  | succ top hypothesis =>
      have scaled :
          numerator * tenTo (top + 1) * denominator' =
            numerator' * tenTo (top + 1) * denominator := by
        rw [Nat.mul_right_comm, same, Nat.mul_right_comm]
      rw [nearestSize, nearestSize, hypothesis,
        divideHalfEven_congr positive positive' scaled]

/-- A ratio that is exact at a scale is rounded from that scale on. -/
theorem nearestSize_of_exact
    {numerator denominator mantissa scale top : Nat}
    (positive : 0 < denominator)
    (exact : numerator * tenTo scale = mantissa * denominator)
    (below : scale ≤ top)
    (topBelow : top ≤ maxScale) :
    nearestSize numerator denominator top =
      nearestSize numerator denominator scale := by
  induction top with
  | zero =>
      have atZero : scale = 0 := Nat.le_zero.1 below
      rw [atZero]
  | succ top hypothesis =>
      rcases Nat.lt_or_eq_of_le below with above | equal
      · have raised :
            divideHalfEven (numerator * tenTo (top + 1)) denominator =
              mantissa * tenTo (top + 1 - scale) := by
          have split :
              numerator * tenTo (top + 1) =
                mantissa * tenTo (top + 1 - scale) * denominator := by
            rw [← tenTo_sub_mul below, Nat.mul_left_comm, exact,
              Nat.mul_left_comm, Nat.mul_assoc]
          rw [split, divideHalfEven_mul_right positive]
        have lowest :
            divideHalfEven (numerator * tenTo scale) denominator = mantissa := by
          rw [exact, divideHalfEven_mul_right positive]
        rw [nearestSize]
        simp only [raised]
        split
        · rename_i inRange
          have factor : 1 ≤ tenTo (top + 1 - scale) := tenTo_pos _
          have smaller : mantissa < mantissaBound :=
            Nat.lt_of_le_of_lt (Nat.le_mul_of_pos_right _ factor) inRange
          rw [nearestSize_of_lt (by rw [lowest]; exact smaller), lowest,
            Nat.mul_assoc, ← tenTo_add]
          congr 3
          omega
        · exact hypothesis (Nat.le_of_lt_succ above) (by omega)
      · rw [equal]

/-- The units of the decimal nearest to a ratio, under a sign. -/
def nearestUnits
    (negative : Bool)
    (numerator denominator : Nat) :
    Option Int :=
  (nearestSize numerator denominator maxScale).map (signed negative)

/-- Equal ratios round to the same units. -/
theorem nearestUnits_congr
    {numerator denominator numerator' denominator' : Nat}
    (positive : 0 < denominator)
    (positive' : 0 < denominator')
    (same : numerator * denominator' = numerator' * denominator)
    (negative : Bool) :
    nearestUnits negative numerator denominator =
      nearestUnits negative numerator' denominator' := by
  rw [nearestUnits, nearestSize_congr positive positive' same, nearestUnits]

/-- Zero is rounded to zero. -/
theorem nearestUnits_zero
    {denominator : Nat}
    (positive : 0 < denominator)
    (negative : Bool) :
    nearestUnits negative 0 denominator = some 0 := by
  have mantissa :
      divideHalfEven (0 * tenTo maxScale) denominator = 0 := by
    have exact := divideHalfEven_mul_right positive 0
    rw [Nat.zero_mul] at exact ⊢
    exact exact
  rw [nearestUnits, nearestSize_of_lt (by rw [mantissa]; decide), mantissa,
    Nat.zero_mul, Option.map_some, signed_zero]

namespace Decimal

/-! ## Units of rounded decimals -/

/-- The size of the value, in units of `10 ^ -28`. -/
def size (decimal : Decimal) : Nat :=
  decimal.mantissa * tenTo (maxScale - decimal.scale)

/-- The units are the size with the sign. -/
theorem units_eq_signed
    (decimal : Decimal) :
    decimal.units = signed decimal.negative decimal.size := by
  rw [units, signedMantissa, signed, size]
  split
  · rw [Int.neg_mul, Int.natCast_mul]
  · rw [Int.natCast_mul]

theorem natAbs_units
    (decimal : Decimal) :
    decimal.units.natAbs = decimal.size := by
  rw [units_eq_signed, signed]
  split <;> omega

/-- The size is the mantissa at the scale of the decimal. -/
theorem size_mul_tenTo
    (decimal : Decimal) :
    decimal.size * tenTo decimal.scale = decimal.mantissa * tenTo maxScale := by
  rw [size, Nat.mul_assoc, tenTo_sub_mul decimal.scale_le]

/-- The value is zero where the mantissa is. -/
theorem units_eq_zero_iff
    (decimal : Decimal) :
    decimal.units = 0 ↔ decimal.isZero = true := by
  have positive := tenTo_pos (maxScale - decimal.scale)
  rw [← Int.natAbs_eq_zero, natAbs_units, size, Nat.mul_eq_zero, isZero,
    beq_iff_eq]
  constructor
  · rintro (zero | zero)
    · exact zero
    · omega
  · exact Or.inl

theorem units_ne_zero
    {decimal : Decimal}
    (nonzero : decimal.isZero = false) :
    decimal.units ≠ 0 := by
  rw [Ne, units_eq_zero_iff, nonzero]
  exact Bool.false_ne_true

/-- The sign of a value other than zero. -/
theorem negative_eq_decide
    {decimal : Decimal}
    (nonzero : decimal.isZero = false) :
    decimal.negative = decide (decimal.units < 0) := by
  have apart := units_ne_zero nonzero
  rw [units_eq_signed, signed] at apart ⊢
  cases decimal.negative with
  | false =>
      simp only [Bool.false_eq_true, if_false, false_eq_decide_iff]
      omega
  | true =>
      simp only [if_true] at apart ⊢
      rw [eq_comm, decide_eq_true_iff]
      omega

/-- A decimal with a minus sign, other than zero, is below zero. -/
theorem negative_and_nonzero
    (decimal : Decimal) :
    (decimal.negative && !decimal.isZero) = decide (decimal.units < 0) := by
  cases zero : decimal.isZero with
  | false => rw [negative_eq_decide zero, Bool.not_false, Bool.and_true]
  | true =>
      rw [(units_eq_zero_iff decimal).2 zero, Bool.not_true, Bool.and_false]
      rfl

theorem negative_of_ofParts?
    {negative : Bool}
    {mantissa scale : Nat}
    {decimal : Decimal}
    (built : ofParts? negative mantissa scale = some decimal) :
    decimal.negative = negative := by
  rw [ofParts?] at built
  split at built
  · cases built
    rfl
  · cases built

theorem map_units_ofParts?
    (negative : Bool)
    (mantissa : Nat)
    {scale : Nat}
    (scaleBelow : scale ≤ maxScale) :
    (ofParts? negative mantissa scale).map units =
      if mantissa < mantissaBound then
        some (signed negative (mantissa * tenTo (maxScale - scale)))
      else
        none := by
  rw [ofParts?]
  by_cases inRange : mantissa < mantissaBound
  · rw [dif_pos ⟨inRange, scaleBelow⟩, if_pos inRange, Option.map_some,
      units_eq_signed]
    rfl
  · rw [dif_neg (fun parts => inRange parts.1), if_neg inRange,
      Option.map_none]

/-- The nearest decimal has the nearest units. -/
theorem map_units_nearest
    (negative : Bool)
    (numerator denominator : Nat)
    {top : Nat}
    (topBelow : top ≤ maxScale) :
    (nearest negative numerator denominator top).map units =
      (nearestSize numerator denominator top).map (signed negative) := by
  induction top with
  | zero =>
      rw [nearest, nearestSize, map_units_ofParts? _ _ topBelow]
      split
      · rw [Option.map_some, Nat.sub_zero]
      · rfl
  | succ top hypothesis =>
      have direct :=
        map_units_ofParts? negative
          (divideHalfEven (numerator * tenTo (top + 1)) denominator) topBelow
      rw [nearest, nearestSize]
      split
      · rename_i decimal built
        rw [built] at direct
        split at direct
        · rename_i inRange
          rw [if_pos inRange, Option.map_some, Option.map_some, ← direct,
            Option.map_some]
        · cases direct
      · rename_i missing
        rw [missing] at direct
        split at direct
        · cases direct
        · rename_i outOfRange
          rw [if_neg outOfRange]
          exact hypothesis (Nat.le_of_succ_le topBelow)

/-- A ratio whose denominator is a power of ten is rounded by its value. -/
theorem map_units_fit
    (negative : Bool)
    (mantissa scale : Nat) :
    (fit negative mantissa scale).map units =
      nearestUnits negative mantissa (tenTo scale) := by
  rw [fit, map_units_nearest _ _ _ (Nat.min_le_right _ _), nearestUnits]
  rcases Nat.le_total scale maxScale with below | above
  · rw [Nat.min_eq_left below,
      nearestSize_of_exact (tenTo_pos scale) rfl below (Nat.le_refl _)]
  · rw [Nat.min_eq_right above]

/-- A decimal is not changed by rounding it. -/
theorem nearestUnits_size
    (decimal : Decimal)
    (negative : Bool) :
    nearestUnits negative decimal.size (tenTo maxScale) =
      some (signed negative decimal.size) := by
  have exact := decimal.size_mul_tenTo
  have mantissa :
      divideHalfEven (decimal.size * tenTo decimal.scale) (tenTo maxScale) =
        decimal.mantissa := by
    rw [exact, divideHalfEven_mul_right (tenTo_pos maxScale)]
  rw [nearestUnits,
    nearestSize_of_exact (tenTo_pos maxScale) exact decimal.scale_le
      (Nat.le_refl _),
    nearestSize_of_lt (by rw [mantissa]; exact decimal.mantissa_lt), mantissa,
    Option.map_some, size]

end Decimal

end Formulary
