import Formulary.Binary64.Basic
import Formulary.Decimal.Basic

/-!
# Conversions between doubles and decimals

A whole decimal becomes the double nearest to it.  Any other one is put
together from the doubles of its whole part and its fraction and rounded to
its scale, each step rounded on its own.

A double becomes a decimal by trading its powers of two for powers of ten,
five at a time, within ninety-six bits; the result keeps about fifty-two bits
of fraction.
-/

namespace Formulary

namespace Decimal

/-- Ten to a natural power, by rounded repeated squaring. -/
def roundedTens (exponent : Nat) (result square : Rat) : Rat :=
  if exponent = 0 then
    result
  else
    let result :=
      if exponent % 2 = 1 then Binary64.round (result * square) else result
    if exponent < 2 then
      result
    else
      roundedTens (exponent / 2) result (Binary64.round (square * square))
termination_by exponent

/-- The size as a rational that is a double. -/
def sizeAsDouble (decimal : Decimal) : Rat :=
  if decimal.scale = 0 then
    Binary64.round decimal.mantissa
  else
    let tens := tenTo decimal.scale
    let whole := Binary64.round ((decimal.mantissa / tens : Nat) : Rat)
    let rest := Binary64.round ((decimal.mantissa % tens : Nat) : Rat)
    let fraction := Binary64.round (rest / Binary64.round (tens : Nat))
    if fraction = 0 then
      whole
    else
      let factor := roundedTens decimal.scale 1 10
      let shifted := Binary64.round (Binary64.round (whole + fraction) * factor)
      Binary64.round ((Binary64.roundHalfUp shifted : Nat) / factor)

/--
The double that approximates a decimal, under the same sign; only the zero
without fraction digits is always positive.
-/
def toBinary64 (decimal : Decimal) : Binary64 :=
  Binary64.nearest
    (decimal.negative && !(decimal.mantissa == 0 && decimal.scale == 0))
    decimal.sizeAsDouble

end Decimal

namespace Binary64

/-- A significand and the power of ten it is to be multiplied by. -/
structure Scaled where
  significand : Nat
  tens : Int

/--
Trade `fives` factors `5 / 10`: each becomes a factor five of the significand
where there is room, and is halved away otherwise.
-/
def raiseFives : (fives : Nat) → Scaled → Scaled
  | 0, scaled => scaled
  | fives + 1, ⟨significand, tens⟩ =>
      if significand % 2 = 0 then
        raiseFives fives ⟨significand / 2, tens + 1⟩
      else if 5 * significand < mantissaBound then
        raiseFives fives ⟨5 * significand, tens⟩
      else
        raiseFives fives ⟨significand / 2, tens + 1⟩

/--
Trade `fives` factors `10 / 5`: each becomes a factor two of the significand
where there is room, and is divided away by five otherwise.
-/
def lowerFives : (fives : Nat) → Scaled → Option Scaled
  | 0, scaled => some scaled
  | fives + 1, ⟨significand, tens⟩ =>
      if significand < twoTo 95 then
        lowerFives fives ⟨2 * significand, tens - 1⟩
      else if ((fives + 1 : Nat) : Int) < 2 * tens then
        none
      else
        lowerFives fives ⟨significand / 5, tens⟩

/-- Multiply by ten until no power of ten is left over; nothing without room for that. -/
def absorbTens : (tens : Nat) → (significand : Nat) → Option Nat
  | 0, significand => some significand
  | tens + 1, significand =>
      if 10 * significand < mantissaBound then
        absorbTens tens (10 * significand)
      else
        none

/-- Drop digits, each rounded half up, until the scale is at most twenty-eight. -/
def dropToScale (significand scale : Nat) : Nat × Nat :=
  if maxScale < scale then
    if significand / 10 = 0 then
      (0, 0)
    else if significand % 10 < 5 then
      dropToScale (significand / 10) (scale - 1)
    else
      dropToScale (significand / 10 + 1) (scale - 1)
  else
    (significand, scale)
termination_by scale

/-- Drop fraction digits, each rounded half up, until fifty-two bits are left. -/
def dropToPrecision : (scale : Nat) → (significand : Nat) → Nat × Nat
  | 0, significand => (significand, 0)
  | scale + 1, significand =>
      if significand < twoTo 52 then
        (significand, scale + 1)
      else if significand % 10 < 5 then
        dropToPrecision scale (significand / 10)
      else
        dropToPrecision scale (significand / 10 + 1)

/-- Drop the trailing zeros of a fraction. -/
def dropTrailingZeros : (scale : Nat) → (significand : Nat) → Nat × Nat
  | 0, significand => (significand, 0)
  | scale + 1, significand =>
      if significand % 10 = 0 then
        dropTrailingZeros scale (significand / 10)
      else
        (significand, scale + 1)

/-- The mantissa and scale of a number with a negative power of ten. -/
def shortenFraction (significand scale : Nat) : Nat × Nat :=
  let (significand, scale) := dropToScale significand scale
  let (significand, scale) := dropToPrecision scale significand
  dropTrailingZeros scale significand

/-- The decimal that approximates a positive number `significand * 2 ^ exponent`. -/
def decimalOfSize?
    (negative : Bool)
    (significand : Nat)
    (exponent : Int) :
    Option Decimal := do
  let scaled ←
    if exponent ≤ 0 then
      some (raiseFives (-exponent).toNat ⟨significand, exponent⟩)
    else
      lowerFives exponent.toNat ⟨significand, exponent⟩
  if 0 ≤ scaled.tens then
    let mantissa ← absorbTens scaled.tens.toNat scaled.significand
    Decimal.ofParts? negative mantissa 0
  else
    let (mantissa, scale) :=
      shortenFraction scaled.significand (-scaled.tens).toNat
    Decimal.ofParts? (negative && mantissa != 0) mantissa scale

/-- The decimal that approximates a finite double, or nothing when it is too large. -/
def toDecimal? : Binary64 → Option Decimal
  | .finite negative significand exponent =>
      if significand = 0 then
        some Decimal.zero
      else
        decimalOfSize? negative significand exponent
  | _ => none

end Binary64

end Formulary
