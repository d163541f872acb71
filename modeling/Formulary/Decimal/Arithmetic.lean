import Formulary.Decimal.Rounding

/-!
# Sums, products, quotients and remainders of decimals

Each operation computes an exact ratio and rounds it once.  Sums, products and
quotients which are too large give nothing; a remainder is always exact.

A quotient has its value from that rounding, while the number of trailing
zeros it is written with comes from a long division that yields up to nine
digits at a time.
-/

namespace Formulary.Decimal

/-- The mantissa that the size has at a scale not below its own. -/
def mantissaAt (decimal : Decimal) (scale : Nat) : Nat :=
  decimal.mantissa * tenTo (scale - decimal.scale)

/-- The signed mantissa that the value has at a scale not below its own. -/
def signedMantissaAt (decimal : Decimal) (scale : Nat) : Int :=
  decimal.signedMantissa * (tenTo (scale - decimal.scale) : Nat)

/-- The sum, or nothing when it is too large.  A zero operand gives the other one as written. -/
def add? (left right : Decimal) : Option Decimal :=
  if left.isZero then
    some right
  else if right.isZero then
    some left
  else
    let scale := max left.scale right.scale
    let total := left.signedMantissaAt scale + right.signedMantissaAt scale
    fit (decide (total < 0)) total.natAbs scale

/-- The product, or nothing when it is too large. -/
def mul? (left right : Decimal) : Option Decimal :=
  if left.isZero || right.isZero then
    some zero
  else
    fit (left.negative != right.negative)
      (left.mantissa * right.mantissa) (left.scale + right.scale)

/-! ## Quotients -/

/-- A quotient under construction: the digits so far, their scale and what remains. -/
structure LongDivision where
  digits : Nat
  scale : Int
  remainder : Nat
  /-- Some group of digits was brought down behind a remainder. -/
  extended : Bool

/-- The largest group of digits, at most nine, that still has room. -/
def groupWidth (digits : Nat) (scale : Int) : Nat :=
  (List.range 10).foldl
    (fun (widest width : Nat) =>
      if scale + width ≤ maxScale ∧ digits * tenTo width < mantissaBound then
        width
      else
        widest)
    0

/-- One digit less, when the rounding of the last group has no room. -/
def LongDivision.shorten
    (digits remainder : Nat)
    (scale : Int) :
    Option (Nat × Nat) :=
  if scale ≤ 0 then
    none
  else
    let last := digits % 10
    let roundsUp :=
      5 < last ∨ last = 5 ∧ (0 < remainder ∨ digits / 10 % 2 = 1)
    some ((if roundsUp then digits / 10 + 1 else digits / 10), (scale - 1).toNat)

/-- Round the digits half to even by what remains of the division by `divisor`. -/
def LongDivision.round
    (division : LongDivision)
    (divisor : Nat) :
    Option (Nat × Nat) :=
  let twice := 2 * division.remainder
  let roundsUp := divisor < twice ∨ twice = divisor ∧ division.digits % 2 = 1
  let digits := if roundsUp then division.digits + 1 else division.digits
  if division.scale < 0 then
    none
  else if digits < mantissaBound then
    some (digits, division.scale.toNat)
  else if division.scale = 0 then
    none
  else
    some ((digits + 4) / 10, (division.scale - 1).toNat)

/--
Bring down groups of digits until nothing remains or no group has room.  The
result is the digits and scale reached, and whether a remainder was extended.
-/
def LongDivision.run
    (divisor : Nat)
    (division : LongDivision) :
    Option (Nat × Nat × Bool) :=
  if division.remainder = 0 ∧ 0 ≤ division.scale then
    some (division.digits, division.scale.toNat, division.extended)
  else
    let extended := division.extended || decide (division.remainder ≠ 0)
    let width :=
      if division.remainder = 0 then
        min 9 (-division.scale).toNat
      else
        groupWidth division.digits division.scale
    if 0 < width ∧ division.scale + width ≤ maxScale then
      let raised := division.digits * tenTo width
      let carried := division.remainder * tenTo width
      let digits := raised + carried / divisor
      let remainder := carried % divisor
      if mantissaBound ≤ raised then
        none
      else if mantissaBound ≤ digits then
        (shorten digits remainder (division.scale + width)).map
          fun (digits, scale) => (digits, scale, extended)
      else
        run divisor
          { digits
            scale := division.scale + width
            remainder
            extended }
    else
      (division.round divisor).map
        fun (digits, scale) => (digits, scale, extended)
termination_by (maxScale - division.scale).toNat
decreasing_by
  simp_all only [maxScale]
  omega

/-- Drop groups of eight zeros while the digits are a multiple of `2 ^ 32` as well. -/
def dropOctets (digits scale : Nat) : Nat × Nat :=
  if scale < 8 then
    (digits, scale)
  else if digits % twoTo 32 = 0 ∧ digits % tenTo 8 = 0 then
    dropOctets (digits / tenTo 8) (scale - 8)
  else
    (digits, scale)
termination_by scale

/-- Drop one group of zeros of the given width, if the digits end in it. -/
def dropZeros (width : Nat) (form : Nat × Nat) : Nat × Nat :=
  if width ≤ form.2 ∧ form.1 % tenTo width = 0 then
    (form.1 / tenTo width, form.2 - width)
  else
    form

/-- The scale that the quotient is written with. -/
def quotientScale? (dividend divisor : Decimal) : Option Nat := do
  let (digits, scale, extended) ←
    LongDivision.run divisor.mantissa
      { digits := dividend.mantissa / divisor.mantissa
        scale := (dividend.scale : Int) - divisor.scale
        remainder := dividend.mantissa % divisor.mantissa
        extended := false }
  if extended then
    some (dropZeros 1 (dropZeros 2 (dropZeros 4 (dropOctets digits scale)))).2
  else
    some scale

/--
The quotient of the sizes of two decimals under the given sign, rounded at
the largest scale that has room.
-/
def nearestQuotient
    (negative : Bool)
    (dividend divisor : Decimal) :
    Option Decimal :=
  nearest negative
    (dividend.mantissa * tenTo divisor.scale)
    (divisor.mantissa * tenTo dividend.scale)
    maxScale

/-- The quotient by a divisor other than zero, or nothing when it is too large. -/
def div? (dividend divisor : Decimal) : Option Decimal :=
  if dividend.isZero then
    some zero
  else
    (nearestQuotient (dividend.negative != divisor.negative) dividend divisor).map
      fun quotient =>
        match quotientScale? dividend divisor with
        | some scale => quotient.withScale scale
        | none => quotient

/-! ## Remainders -/

/-- The remainder of the sizes is in range at the larger of the two scales. -/
theorem remainder_lt_mantissaBound
    (dividend divisor : Decimal)
    (nonzero : divisor.isZero = false) :
    dividend.mantissaAt (max dividend.scale divisor.scale) %
        divisor.mantissaAt (max dividend.scale divisor.scale) <
      mantissaBound := by
  rcases Nat.le_total dividend.scale divisor.scale with below | below
  · have positive : 0 < divisor.mantissa := by
      simpa [isZero, Nat.pos_iff_ne_zero] using nonzero
    have exact : divisor.mantissaAt (max dividend.scale divisor.scale) =
        divisor.mantissa := by
      simp [mantissaAt, Nat.max_eq_right below]
    rw [exact]
    exact Nat.lt_trans (Nat.mod_lt _ positive) divisor.mantissa_lt
  · have exact : dividend.mantissaAt (max dividend.scale divisor.scale) =
        dividend.mantissa := by
      simp [mantissaAt, Nat.max_eq_left below]
    rw [exact]
    exact Nat.lt_of_le_of_lt (Nat.mod_le _ _) dividend.mantissa_lt

/--
The remainder of the truncated division, with the sign of the dividend;
nothing when the divisor is zero.  A dividend smaller than the divisor is its
own remainder.
-/
def rem? (dividend divisor : Decimal) : Option Decimal :=
  if nonzero : divisor.isZero = false then
    let scale := max dividend.scale divisor.scale
    let size := dividend.mantissaAt scale
    let modulus := divisor.mantissaAt scale
    if dividend.isZero ∨ size = modulus then
      some zero
    else if size < modulus then
      some dividend
    else
      some
        { negative := dividend.negative
          mantissa := size % modulus
          scale := scale
          mantissa_lt := remainder_lt_mantissaBound dividend divisor nonzero
          scale_le := Nat.max_le.2 ⟨dividend.scale_le, divisor.scale_le⟩ }
  else
    none

end Formulary.Decimal
