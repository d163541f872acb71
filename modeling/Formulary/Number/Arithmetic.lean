import Formulary.Decimal.Arithmetic
import Formulary.Number.Basic

/-!
# Arithmetic of formula values

The operators extend those of decimals.  A result that is too large becomes
an infinity with the sign of the exact result, not-a-number absorbs
everything, and the indefinite forms `∞ - ∞`, `∞ * 0`, `∞ / ∞`, `0 / 0` and
remainders by zero or of infinities are not a number.
-/

namespace Formulary.Number

/-- The value with the other sign. -/
def neg : Number → Number
  | .finite decimal => .finite decimal.negate
  | .infinite negative => .infinite (!negative)
  | .nan => .nan

/-- The sum. -/
def add : Number → Number → Number
  | .nan, _ => .nan
  | _, .nan => .nan
  | .infinite left, .infinite right =>
      if left = right then .infinite left else .nan
  | .infinite left, .finite _ => .infinite left
  | .finite _, .infinite right => .infinite right
  | .finite left, .finite right =>
      ofResult (left.add? right) left.negative

/-- The difference, as the sum with the negated second value. -/
def sub (left right : Number) : Number :=
  add left (neg right)

/-- The product. -/
def mul (left right : Number) : Number :=
  let negative := left.isNegative != right.isNegative
  match left, right with
  | .nan, _ => .nan
  | _, .nan => .nan
  | .finite multiplicand, .finite multiplier =>
      ofResult (multiplicand.mul? multiplier) negative
  | _, _ =>
      if left.isZero || right.isZero then .nan else .infinite negative

/-- The quotient. -/
def div (left right : Number) : Number :=
  let negative := left.isNegative != right.isNegative
  match left, right with
  | .nan, _ => .nan
  | _, .nan => .nan
  | .infinite _, .infinite _ => .nan
  | .infinite _, .finite _ => .infinite negative
  | .finite _, .infinite _ => zero
  | .finite dividend, .finite divisor =>
      if divisor.isZero then
        if dividend.isZero then .nan else .infinite left.isNegative
      else
        ofResult (dividend.div? divisor) negative

/-- The truncated remainder, with the sign of the first value. -/
def rem : Number → Number → Number
  | .finite dividend, .finite divisor =>
      match dividend.rem? divisor with
      | some remainder => .finite remainder
      | none => .nan
  | .finite dividend, .infinite _ => .finite dividend
  | _, _ => .nan

end Formulary.Number
