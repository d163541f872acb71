import Formulary.Decimal.Rounding

/-!
# The text of decimals

Plain text is an optional sign and digits with at most one point among them;
underscores may stand anywhere behind the first digit.  Scientific text adds
a power of ten.  Text with more fraction digits than there is room for is
rounded at the first digit left out, a five upwards; an underscore in that
place counts as a zero as long as the digits in front of it are few.

Decimals are written without trailing zeros and without an exponent.
-/

namespace Formulary

/-- The number that a digit stands for. -/
def digitValue (digit : Char) : Nat :=
  digit.toNat - '0'.toNat

/-- The number that a row of decimal digits stands for. -/
def numeralValue (digits : List Char) : Nat :=
  digits.foldl (fun value digit => 10 * value + digitValue digit) 0

/-- An optional sign in front of a text, and the text behind it. -/
def splitSign : List Char → Bool × List Char
  | '-' :: rest => (true, rest)
  | '+' :: rest => (false, rest)
  | text => (false, text)

/-- The text in front of the first point and the text behind it, if there is a point. -/
def splitPoint (text : List Char) : List Char × Option (List Char) :=
  (text.takeWhile (· != '.'),
    match text.dropWhile (· != '.') with
    | [] => none
    | _ :: fraction => some fraction)

namespace Decimal

/-! ## Plain text -/

/-- The digits of a decimal in front of its point, and the digits and underscores behind it. -/
structure Numeral where
  whole : List Char
  fraction : List Char

/-- Digits and underscores only. -/
def isGrouped (text : List Char) : Bool :=
  text.all fun character => character.isDigit || character == '_'

/-- No underscore stands in front of the first digit. -/
def startsWithDigit : List Char → Bool
  | [] => false
  | first :: _ => first.isDigit

/--
The digits of unsigned plain text.  There must be one, the first comes
before any underscore, and nothing else but one point is allowed.
-/
def Numeral.ofText? (text : List Char) : Option Numeral :=
  let (whole, fraction) := splitPoint text
  let fraction := fraction.getD []
  if isGrouped whole && isGrouped fraction &&
      startsWithDigit (whole ++ fraction) then
    some
      { whole := whole.filter Char.isDigit
        fraction := fraction }
  else
    none

/--
The least mantissa that is not short.  A mantissa is short when it was below
a tenth of `2 ^ 64`, less 255, before its last digit was appended.
-/
def shortMantissaBound : Nat :=
  10 * (twoTo 64 / 10 - 255)

/--
Append fraction digits for as long as there is room.  The first one without
room rounds the mantissa, and a mantissa that grows too large by this loses
its last digit.

An underscore is skipped, except where it takes the place of the digit that
rounds a short mantissa: there it counts as a zero.
-/
def appendFraction :
    (fraction : List Char) →
    (mantissa scale : Nat) →
    Option (Nat × Nat)
  | [], mantissa, scale => some (mantissa, scale)
  | '_' :: fraction, mantissa, scale =>
      if scale = maxScale ∧ mantissa < shortMantissaBound then
        some (mantissa, scale)
      else
        appendFraction fraction mantissa scale
  | digit :: fraction, mantissa, scale =>
      if scale < maxScale ∧
          10 * mantissa + digitValue digit < mantissaBound then
        appendFraction fraction (10 * mantissa + digitValue digit) (scale + 1)
      else if digitValue digit < 5 then
        some (mantissa, scale)
      else if mantissa + 1 < mantissaBound then
        some (mantissa + 1, scale)
      else if scale = 0 then
        none
      else
        some ((mantissa + 5) / 10, scale - 1)

/-- The decimal of a numeral under a sign, or nothing when it is too large.  Its zero is positive. -/
def ofNumeral? (negative : Bool) (numeral : Numeral) : Option Decimal := do
  let whole := numeralValue numeral.whole
  if mantissaBound ≤ whole then
    none
  else
    let (mantissa, scale) ← appendFraction numeral.fraction whole 0
    ofParts? (negative && mantissa != 0) mantissa scale

/-- The decimal that plain text stands for, if any. -/
def ofPlainText? (text : List Char) : Option Decimal := do
  let (negative, unsigned) := splitSign text
  ofNumeral? negative (← Numeral.ofText? unsigned)

/-! ## Scientific text -/

/-- A natural number below `2 ^ 32`, with an optional plus sign. -/
def exponentSize? (text : List Char) : Option Nat :=
  let digits :=
    match text with
    | '+' :: digits => digits
    | digits => digits
  if digits.isEmpty || !digits.all Char.isDigit then
    none
  else
    let size := numeralValue digits
    if size < twoTo 32 then some size else none

/--
The decimal divided by a power of ten, rounded half up to twenty-eight
fraction digits.  A zero that comes from rounding keeps the sign.
-/
def shiftDown? (decimal : Decimal) (places : Nat) : Option Decimal :=
  if maxScale < places then
    none
  else if decimal.scale + places ≤ maxScale then
    ofParts? decimal.negative decimal.mantissa (decimal.scale + places)
  else
    let excess := decimal.scale + places - maxScale
    ofParts? decimal.negative
      (divideHalfUp decimal.mantissa (tenTo excess)) maxScale

/-- The decimal with its mantissa multiplied by a power of ten, rounded where it has no room. -/
def multiplyByTens? (decimal : Decimal) (places : Nat) : Option Decimal :=
  if decimal.isZero then
    some zero
  else
    fit decimal.negative (decimal.mantissa * tenTo places) decimal.scale

/--
The decimal times a power of ten.  The point moves to the right as far as the
scale goes; a larger power multiplies the mantissa, nineteen places at most
at a time.
-/
def shiftUp? (decimal : Decimal) (places : Nat) : Option Decimal :=
  if places ≤ decimal.scale then
    ofParts? decimal.negative decimal.mantissa (decimal.scale - places)
  else if maxScale < places then
    none
  else if places ≤ 19 then
    multiplyByTens? decimal places
  else do
    multiplyByTens? (← multiplyByTens? decimal 19) (places - 19)

/-- The decimal that text with an exponent stands for, if any. -/
def ofScientificText? (text : List Char) : Option Decimal :=
  let isMark := fun character => character == 'e' || character == 'E'
  match text.dropWhile (!isMark ·) with
  | [] => none
  | _ :: exponent => do
      let base ← ofPlainText? (text.takeWhile (!isMark ·))
      match exponent with
      | '-' :: size => base.shiftDown? (← exponentSize? size)
      | size => base.shiftUp? (← exponentSize? size)

/-! ## Writing -/

/-- The digits of a size at a scale, with a point in front of the last `scale` of them. -/
def sizeText (mantissa scale : Nat) : List Char :=
  let whole := Nat.toDigits 10 (mantissa / tenTo scale)
  if scale = 0 then
    whole
  else
    let fraction := Nat.toDigits 10 (mantissa % tenTo scale)
    whole ++ '.' :: List.replicate (scale - fraction.length) '0' ++ fraction

/-- The decimal without trailing zeros; zero has no sign. -/
def text (decimal : Decimal) : List Char :=
  let plain := decimal.normalize
  let size := sizeText plain.mantissa plain.scale
  if plain.negative && !plain.isZero then '-' :: size else size

end Decimal

end Formulary
