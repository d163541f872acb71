import Formulary.Decimal.Power
import Formulary.Number.Arithmetic
import Formulary.Number.Binary64

/-!
# Powers of formula values

Whole exponents of at most sixty-four bits multiply decimals; a negative one
takes the reciprocal of the power with the positive exponent.  All other
exponents, and the one whose size has no sixty-four bits, go through doubles.
-/

namespace Formulary.Number

/-- The least exponent of sixty-four bits, whose size needs one bit more. -/
abbrev leastExponent : Int := -9223372036854775808

/-- The exponent as an integer, if it is whole and has sixty-four bits. -/
def wholeExponent? : Number → Option Int
  | .finite decimal =>
      let size : Int := decimal.wholePart
      let value := if decimal.negative then -size else size
      if decimal.isWhole ∧ leastExponent ≤ value ∧ value < -leastExponent then
        some value
      else
        none
  | _ => none

/-- The power by way of doubles. -/
def approximatePower (base exponent : Number) : Number :=
  ofBinary64 (base.toBinary64.pow exponent.toBinary64)

/--
The power of a decimal with a natural exponent.  One that is too large is an
infinity, unless the base is below one in size, whose powers vanish.
-/
def naturalPower (base : Decimal) (exponent : Nat) : Number :=
  match base.power? exponent with
  | some power => .finite power
  | none =>
      if base.isFractional then
        zero
      else
        .infinite (base.negative && exponent % 2 == 1)

/-- The power with an exponent that is a whole number other than zero. -/
def wholePower (base : Number) (exponent : Int) : Number :=
  match base with
  | .finite decimal =>
      let power := naturalPower decimal exponent.natAbs
      if exponent < 0 then div one power else power
  | .infinite negative =>
      if exponent < 0 then
        zero
      else
        .infinite (negative && exponent.natAbs % 2 == 1)
  | .nan => .nan

/-- The power.  Everything but not-a-number to the power of zero is one. -/
def pow (base exponent : Number) : Number :=
  if base.isNaN || exponent.isNaN then
    .nan
  else
    match wholeExponent? exponent with
    | none => approximatePower base exponent
    | some whole =>
        if whole = 0 then
          one
        else if base.isFinite ∧ whole = leastExponent then
          approximatePower base exponent
        else
          wholePower base whole

end Formulary.Number
