import Formulary.Powers

/-!
# Double-precision binary numbers

A double is a sign, a significand below `2 ^ 53` and a power of two, or an
infinity, or not a number.  This module relates doubles to their sixty-four
bits and to the exact rational numbers that they stand for, and rounds any
rational to the nearest double, a tie to the even significand.

Powers of doubles are the one operation whose result is not described here:
they are those of the machine.
-/

namespace Formulary

/-- A double: `significand * 2 ^ exponent` under a sign, an infinity, or not a number. -/
inductive Binary64 where
  | finite (negative : Bool) (significand : Nat) (exponent : Int)
  | infinite (negative : Bool)
  | nan
deriving DecidableEq

namespace Binary64

/-- The exponent of the smallest positive double. -/
abbrev leastExponent : Int := -1074

/-- The largest exponent of a finite double. -/
abbrev greatestExponent : Int := 971

instance : Inhabited Binary64 :=
  ⟨nan⟩

/-- Zero with its sign. -/
def zero (negative : Bool) : Binary64 :=
  .finite negative 0 leastExponent

/-- Two to an integer power, as an exact rational. -/
def powerOfTwo (exponent : Int) : Rat :=
  if 0 ≤ exponent then
    (twoTo exponent.toNat : Nat)
  else
    mkRat 1 (twoTo (-exponent).toNat)

/-- The size of a finite double, zero for the other ones. -/
def size : Binary64 → Rat
  | .finite _ significand exponent => significand * powerOfTwo exponent
  | _ => 0

/-! ## Rounding -/

/-- The nearest integer to a non-negative rational, a half to the even one. -/
def roundHalfEven (value : Rat) : Nat :=
  let whole := value.floor.toNat
  let rest := value - (whole : Nat)
  if rest < mkRat 1 2 then
    whole
  else if mkRat 1 2 < rest then
    whole + 1
  else
    whole + whole % 2

/-- The nearest integer to a non-negative rational, a half upwards. -/
def roundHalfUp (value : Rat) : Nat :=
  (value + mkRat 1 2).floor.toNat

/-- The exponent of the last significand bit of the doubles around a positive rational. -/
def lastBitExponent (value : Rat) : Int :=
  let estimate : Int := (value.num.natAbs.log2 : Int) - value.den.log2 - 52
  let exponent :=
    if value * powerOfTwo (-estimate) < (twoTo 52 : Nat) then
      estimate - 1
    else
      estimate
  max leastExponent exponent

/-- The double nearest to a non-negative rational, under a sign. -/
def nearest (negative : Bool) (value : Rat) : Binary64 :=
  if value ≤ 0 then
    zero negative
  else
    let exponent := lastBitExponent value
    let significand := roundHalfEven (value * powerOfTwo (-exponent))
    let (significand, exponent) :=
      if significand < twoTo 53 then
        (significand, exponent)
      else
        (significand / 2, exponent + 1)
    if greatestExponent < exponent then
      .infinite negative
    else
      .finite negative significand exponent

/-- The size of the double nearest to a non-negative rational. -/
def round (value : Rat) : Rat :=
  (nearest false value).size

/-! ## Bits -/

/-- The double of a word of sixty-four bits. -/
def ofBits (bits : UInt64) : Binary64 :=
  let word := bits.toNat
  let negative := decide (twoTo 63 ≤ word)
  let field : Nat := word / twoTo 52 % twoTo 11
  let fraction : Nat := word % twoTo 52
  if field = 2047 then
    if fraction = 0 then .infinite negative else .nan
  else if field = 0 then
    .finite negative fraction leastExponent
  else
    .finite negative (twoTo 52 + fraction) ((field : Int) - 1075)

/-- The word whose highest bit is the sign. -/
def signedWord (negative : Bool) (word : Nat) : UInt64 :=
  UInt64.ofNat (if negative then twoTo 63 + word else word)

/-- The sixty-four bits of a double. -/
def toBits : Binary64 → UInt64
  | .finite negative significand exponent =>
      signedWord negative
        (if significand < twoTo 52 then
          significand
        else
          (exponent + 1075).toNat * twoTo 52 + (significand - twoTo 52))
  | .infinite negative => signedWord negative (2047 * twoTo 52)
  | .nan => UInt64.ofNat (2047 * twoTo 52 + twoTo 51)

/-- The power of two doubles, as the machine computes it. -/
def pow (base exponent : Binary64) : Binary64 :=
  ofBits ((Float.ofBits base.toBits).pow (Float.ofBits exponent.toBits)).toBits

end Binary64

end Formulary
