import Formulary.Binary64.Basic
import Formulary.Decimal.Text

/-!
# The double nearest to a decimal text

The text is an optional sign, digits with an optional point among them and an
optional power of ten.  Its exact value is rounded once.
-/

namespace Formulary.Binary64

/-- Ten to an integer power, as an exact rational. -/
def powerOfTen (exponent : Int) : Rat :=
  if 0 ≤ exponent then
    (tenTo exponent.toNat : Nat)
  else
    mkRat 1 (tenTo (-exponent).toNat)

/-- The integer that a text of an optional sign and at least one digit stands for. -/
def integerOfText? (text : List Char) : Option Int :=
  let (negative, digits) := splitSign text
  if digits.isEmpty || !digits.all Char.isDigit then
    none
  else if negative then
    some (-(numeralValue digits : Int))
  else
    some (numeralValue digits : Int)

/-- The text in front of the first exponent mark, and the exponent behind it. -/
def splitExponent? (text : List Char) : Option (List Char × Int) :=
  let isMark := fun character => character == 'e' || character == 'E'
  match text.dropWhile (!isMark ·) with
  | [] => some (text, 0)
  | _ :: exponent => do
      some (text.takeWhile (!isMark ·), ← integerOfText? exponent)

/--
The double nearest to `digits * 10 ^ exponent`.  Sizes beyond `10 ^ 400` and
below `10 ^ -400` are settled by their number of digits alone.
-/
def nearestScientific
    (negative : Bool)
    (digits : List Char)
    (exponent : Int) :
    Binary64 :=
  let significant := digits.dropWhile (· == '0')
  let magnitude := (significant.length : Int) + exponent
  if significant.isEmpty then
    zero negative
  else if 400 < magnitude then
    .infinite negative
  else if magnitude < -400 then
    zero negative
  else
    nearest negative (numeralValue significant * powerOfTen exponent)

/-- The double that a decimal text stands for, if it is one. -/
def ofText? (text : List Char) : Option Binary64 := do
  let (negative, unsigned) := splitSign text
  let (plain, exponent) ← splitExponent? unsigned
  let (whole, fraction) := splitPoint plain
  let fraction := fraction.getD []
  if (whole ++ fraction).isEmpty || !(whole ++ fraction).all Char.isDigit then
    none
  else
    some
      (nearestScientific negative (whole ++ fraction)
        (exponent - fraction.length))

end Formulary.Binary64
