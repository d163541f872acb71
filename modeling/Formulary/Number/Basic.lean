import Formulary.Decimal.Basic

/-!
# Formula values

Formula arithmetic runs on decimals.  Results that no decimal stands for are
the two infinities and not-a-number, which later operators carry along.

Equality of values is numeric on decimals and otherwise structural, so
not-a-number equals itself.  It serves as the equality of cache keys.
-/

namespace Formulary

/-- A formula value: a decimal, an infinity of either sign, or not a number. -/
inductive Number where
  | finite (decimal : Decimal)
  | infinite (negative : Bool)
  | nan

namespace Number

/-- The value zero. -/
def zero : Number :=
  .finite Decimal.zero

/-- The value one. -/
def one : Number :=
  .finite Decimal.one

instance : Inhabited Number :=
  ⟨zero⟩

/-- Numeric equality of decimals, equality of signs of infinities, and `nan` equals itself. -/
def equal : Number → Number → Bool
  | .finite left, .finite right => left == right
  | .infinite left, .infinite right => left == right
  | .nan, .nan => true
  | _, _ => false

instance : BEq Number where
  beq := equal

/-- The decimal, if the value is one. -/
def decimal? : Number → Option Decimal
  | .finite decimal => some decimal
  | _ => none

/-- Not a number. -/
def isNaN : Number → Bool
  | .nan => true
  | _ => false

/-- A decimal. -/
def isFinite : Number → Bool
  | .finite _ => true
  | _ => false

/-- A decimal without a fraction. -/
def isWhole : Number → Bool
  | .finite decimal => decimal.isWhole
  | _ => false

/-- Zero of either sign. -/
def isZero : Number → Bool
  | .finite decimal => decimal.isZero
  | _ => false

/-- Below zero; a zero with a minus sign is not. -/
def isNegative : Number → Bool
  | .finite decimal => decimal.negative && !decimal.isZero
  | .infinite negative => negative
  | .nan => false

/-- The decimal of a result that has one, and otherwise an infinity. -/
def ofResult (result : Option Decimal) (negative : Bool) : Number :=
  match result with
  | some decimal => .finite decimal
  | none => .infinite negative

/-- The value of an integer of at most sixty-four bits; larger ones are infinite. -/
def ofInt (value : Int) : Number :=
  ofResult (Decimal.ofInt? value) (decide (value < 0))

end Number

end Formulary
