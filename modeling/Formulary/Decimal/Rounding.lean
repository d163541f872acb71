import Formulary.Decimal.Basic

/-!
# Rounding an exact ratio to a decimal

Sums, products and quotients of decimals are exact ratios of natural
numbers.  `Decimal.nearest` keeps as many fraction digits of such a ratio as
the mantissa has room for, and rounds the last of them half to even.  A ratio
whose whole part has no room at all overflows.
-/

namespace Formulary

/-- The quotient rounded to the nearest whole number, a half to the even one. -/
def divideHalfEven (numerator denominator : Nat) : Nat :=
  let quotient := numerator / denominator
  let twice := 2 * (numerator % denominator)
  if twice < denominator then
    quotient
  else if denominator < twice then
    quotient + 1
  else
    quotient + quotient % 2

/-- The quotient rounded to the nearest whole number, a half away from zero. -/
def divideHalfUp (numerator denominator : Nat) : Nat :=
  (2 * numerator + denominator) / (2 * denominator)

namespace Decimal

/--
The decimal nearest to `numerator / denominator` at the largest scale not
above `top` whose mantissa is in range; nothing when even scale zero is not.
-/
def nearest
    (negative : Bool)
    (numerator denominator : Nat) :
    (top : Nat) → Option Decimal
  | 0 =>
      ofParts? negative (divideHalfEven numerator denominator) 0
  | top + 1 =>
      let mantissa :=
        divideHalfEven (numerator * tenTo (top + 1)) denominator
      match ofParts? negative mantissa (top + 1) with
      | some decimal => some decimal
      | none => nearest negative numerator denominator top

/-- The decimal nearest to `mantissa / 10 ^ scale`, with at most `scale` fraction digits. -/
def fit
    (negative : Bool)
    (mantissa scale : Nat) :
    Option Decimal :=
  nearest negative mantissa (tenTo scale) (min scale maxScale)

end Decimal

end Formulary
