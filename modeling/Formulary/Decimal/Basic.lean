import Formulary.Powers

/-!
# Decimal numbers of bounded precision

A decimal is a sign, a mantissa below `2 ^ 96` and a scale of at most
twenty-eight: it stands for the mantissa divided by `10 ^ scale`, with the
sign in front.  One value has several written forms, such as `2` and `2.00`,
and zero has two signs.

Every value is a whole multiple of `10 ^ -28`.  `Decimal.units` counts those
multiples, so numeric equality and order of decimals are equality and order
of integers.
-/

namespace Formulary

/-- The least natural number which is too large for a mantissa: `2 ^ 96`. -/
abbrev mantissaBound : Nat := 79228162514264337593543950336

/-- The largest number of fraction digits. -/
abbrev maxScale : Nat := 28

/-- A signed decimal: `mantissa / 10 ^ scale`, negated when `negative` holds. -/
structure Decimal where
  negative : Bool
  mantissa : Nat
  scale : Nat
  mantissa_lt : mantissa < mantissaBound
  scale_le : scale ≤ maxScale

namespace Decimal

/-- The decimal with the given parts, provided that they are in range. -/
def ofParts?
    (negative : Bool)
    (mantissa scale : Nat) :
    Option Decimal :=
  if inRange : mantissa < mantissaBound ∧ scale ≤ maxScale then
    some ⟨negative, mantissa, scale, inRange.1, inRange.2⟩
  else
    none

/-- Zero, with no fraction digits. -/
def zero : Decimal :=
  ⟨false, 0, 0, by decide, by decide⟩

/-- One, with no fraction digits. -/
def one : Decimal :=
  ⟨false, 1, 0, by decide, by decide⟩

instance : Inhabited Decimal :=
  ⟨zero⟩

/-- The whole decimal of an integer whose size is below `2 ^ 96`. -/
def ofInt? (value : Int) : Option Decimal :=
  ofParts? (decide (value < 0)) value.natAbs 0

/-- The mantissa with its sign. -/
def signedMantissa (decimal : Decimal) : Int :=
  if decimal.negative then
    -(decimal.mantissa : Int)
  else
    (decimal.mantissa : Int)

/-- The value as a count of `10 ^ -28`. -/
def units (decimal : Decimal) : Int :=
  decimal.signedMantissa * (tenTo (maxScale - decimal.scale) : Nat)

/-- Numeric equality: `2` equals `2.00`, and both zeros are equal. -/
instance : BEq Decimal where
  beq left right := left.units == right.units

@[simp]
theorem beq_iff_units
    (left right : Decimal) :
    (left == right) = true ↔ left.units = right.units := by
  simp [BEq.beq]

/-- Zero of either sign and any scale. -/
def isZero (decimal : Decimal) : Bool :=
  decimal.mantissa == 0

/-- Nothing is left behind the point. -/
def isWhole (decimal : Decimal) : Bool :=
  decimal.mantissa % tenTo decimal.scale == 0

/-- The integer part of the size. -/
def wholePart (decimal : Decimal) : Nat :=
  decimal.mantissa / tenTo decimal.scale

/-- The size is below one. -/
def isFractional (decimal : Decimal) : Bool :=
  decimal.mantissa < tenTo decimal.scale

/-- The same size with the other sign. -/
def negate (decimal : Decimal) : Decimal :=
  { decimal with negative := !decimal.negative }

/--
The same value without trailing zeros in its fraction.  The mantissa is
divided by ten for as long as the scale stays natural and no digit is lost.
-/
def normalize (decimal : Decimal) : Decimal :=
  match shrunk : decimal.scale with
  | 0 => decimal
  | scale + 1 =>
      if decimal.mantissa % 10 = 0 then
        normalize
          { decimal with
            mantissa := decimal.mantissa / 10
            scale := scale
            mantissa_lt :=
              Nat.lt_of_le_of_lt (Nat.div_le_self _ _) decimal.mantissa_lt
            scale_le := by
              have withinScale := decimal.scale_le
              omega }
      else
        decimal
termination_by decimal.scale

/--
The same value written with another number of fraction digits.  A form that
would lose a digit or needs too large a mantissa leaves the decimal alone.
-/
def withScale (decimal : Decimal) (scale : Nat) : Decimal :=
  if decimal.scale ≤ scale then
    (ofParts? decimal.negative
      (decimal.mantissa * tenTo (scale - decimal.scale)) scale).getD decimal
  else if decimal.mantissa % tenTo (decimal.scale - scale) = 0 then
    (ofParts? decimal.negative
      (decimal.mantissa / tenTo (decimal.scale - scale)) scale).getD decimal
  else
    decimal

@[simp]
theorem signedMantissa_negate
    (decimal : Decimal) :
    decimal.negate.signedMantissa = -decimal.signedMantissa := by
  cases sign : decimal.negative <;>
    simp [negate, signedMantissa, sign]

@[simp]
theorem units_negate
    (decimal : Decimal) :
    decimal.negate.units = -decimal.units := by
  show decimal.negate.signedMantissa * _ = _
  rw [signedMantissa_negate, Int.neg_mul]
  rfl

@[simp]
theorem units_zero : zero.units = 0 := by
  decide

end Decimal

end Formulary
