import Formulary.Decimal.Arithmetic

/-!
# Whole powers of decimals

A power is a product of repeated squares, taken from the lowest bit of the
exponent upwards.  Exponents below `1024` multiply decimals, so every step
is rounded to a decimal.  Larger ones multiply wide decimals, whose mantissa
has 192 bits and whose scale goes up to 57, and round to a decimal at the end.
-/

namespace Formulary.Decimal

/--
The power `base ^ exponent` times `accumulated` by repeated squaring under a
partial product; nothing as soon as one product is too large.
-/
def repeatedSquares
    {Factor : Type}
    (product : Factor → Factor → Option Factor)
    (exponent : Nat)
    (accumulated base : Factor) :
    Option Factor :=
  if exponent = 0 then
    some accumulated
  else do
    let accumulated ←
      if exponent % 2 = 1 then product accumulated base else some accumulated
    if exponent < 2 then
      some accumulated
    else
      repeatedSquares product (exponent / 2) accumulated (← product base base)
termination_by exponent

/-! ## Wide decimals -/

/-- A decimal with room for a mantissa of 192 bits and a scale of 57. -/
structure Wide where
  negative : Bool
  mantissa : Nat
  scale : Nat

/-- The number of binary digits, none for zero. -/
def bitLength (value : Nat) : Nat :=
  if value = 0 then 0 else value.log2 + 1

/-- The largest scale of a mantissa of the given number of 32-bit words. -/
def widthScale (words : Nat) : Nat :=
  if words = 3 then maxScale else 57

/--
Divide by powers of ten until the mantissa has at most `words` words and at
least `excess` digits are gone.  The result holds the last remainder.
-/
def shrink
    (words mantissa scale excess : Nat) :
    Option (Nat × Nat × Nat) :=
  if 0 < excess ∧ excess ≤ scale then
    let group := min excess 9
    let quotient := mantissa / tenTo group
    let remainder := mantissa % tenTo group
    let left := excess - group
    if left ≠ 0 then
      shrink words quotient (scale - group) left
    else if quotient < twoTo (32 * words) then
      some (quotient, remainder, scale - group)
    else
      shrink words quotient (scale - group) 1
  else
    none
termination_by scale
decreasing_by
  all_goals omega

/-- The number of digits that have to go for a mantissa to have at most `words` words. -/
def excessDigits (words mantissa scale : Nat) : Nat :=
  let byWidth :=
    if mantissa < twoTo (32 * words) then
      0
    else
      (bitLength mantissa - 32 * words) * 77 / 256 + 1
  max byWidth (scale - widthScale words)

/--
The mantissa and scale with at most `words` words.  The last digit is rounded
up after any remainder, except that an even mantissa ignores a remainder of one.
-/
def reduce (words mantissa scale : Nat) : Option (Nat × Nat) :=
  let excess := excessDigits words mantissa scale
  if excess = 0 then
    some (mantissa, scale)
  else do
    let (quotient, remainder, scale) ← shrink words mantissa scale excess
    let rounded :=
      if 0 < remainder ∧ (quotient % 2 = 1 ∨ 1 < remainder) then
        quotient + 1
      else
        quotient
    if rounded < twoTo (32 * words) then
      some (rounded, scale)
    else if scale = 0 then
      none
    else
      some (rounded / 10, scale - 1)

/-- Round to a scale of at most 57 in groups of up to nine digits, each half to even. -/
def roundGroups (mantissa scale : Nat) : Nat × Nat :=
  if 57 < scale then
    let group := min 9 (scale - 57)
    roundGroups (divideHalfEven mantissa (tenTo group)) (scale - group)
  else
    (mantissa, scale)
termination_by scale

/-- The product of two wide decimals, or nothing when it is too large. -/
def Wide.mul? (left right : Wide) : Option Wide :=
  if left.mantissa = 0 ∨ right.mantissa = 0 then
    some ⟨false, 0, 0⟩
  else do
    let mantissa := left.mantissa * right.mantissa
    let scale := left.scale + right.scale
    let (mantissa, scale) ←
      if mantissa < twoTo 192 then
        some (roundGroups mantissa scale)
      else
        reduce 6 mantissa scale
    some ⟨left.negative != right.negative, mantissa, scale⟩

/-- The decimal that a wide decimal rounds to, or nothing when it is too large. -/
def Wide.toDecimal? (wide : Wide) : Option Decimal := do
  let (mantissa, scale) ←
    if wide.mantissa < mantissaBound ∧ wide.scale ≤ maxScale then
      some (wide.mantissa, wide.scale)
    else
      reduce 3 wide.mantissa wide.scale
  ofParts? wide.negative mantissa scale

/-! ## Powers -/

/-- The power by products of decimals. -/
def powerByProducts? (base : Decimal) (exponent : Nat) : Option Decimal :=
  repeatedSquares mul? exponent one base

/-- The power by products of wide decimals. -/
def powerByWideProducts? (base : Decimal) (exponent : Nat) : Option Decimal := do
  let wide ←
    repeatedSquares Wide.mul? exponent
      ⟨false, 1, 0⟩ ⟨base.negative, base.mantissa, base.scale⟩
  wide.toDecimal?

/--
The power with a natural exponent, or nothing when it is too large.  From the
third power on the result has no trailing zeros.
-/
def power? (base : Decimal) (exponent : Nat) : Option Decimal :=
  if exponent = 0 then
    some one
  else if base.isZero then
    some zero
  else if base == one then
    some one
  else if exponent = 1 then
    some base
  else if exponent = 2 then
    mul? base base
  else if exponent < 1024 then
    (powerByProducts? base exponent).map normalize
  else
    (powerByWideProducts? base exponent).map normalize

end Formulary.Decimal
