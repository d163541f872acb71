import Formulary.Operator
import Formulary.Proofs.Decimal.ExactPower
import Formulary.Proofs.Number.Power

/-!
# Exact results of the operators

The operators round a result only if they have to.  Where the exact sum,
difference, product, quotient or natural power of two decimals is
`Representable`, that is what the operator returns, for all written forms of
the operands; a remainder is exact always.  `Operator.apply_exact` is the
statement for all six operators.
-/

namespace Formulary

namespace Number

/-- The rational number that the value stands for, if it is a decimal. -/
def value? : Number → Option ℚ
  | .finite decimal => some decimal.value
  | _ => none

theorem value?_ofResult
    {result : Option Decimal}
    {exact : ℚ}
    (isExact : ∃ decimal, result = some decimal ∧ decimal.value = exact)
    (negative : Bool) :
    (ofResult result negative).value? = some exact := by
  rcases isExact with ⟨decimal, rfl, rfl⟩
  rfl

section

variable {left right : Decimal}

theorem value?_add
    (representable : Representable (left.value + right.value)) :
    ((Number.finite left).add (.finite right)).value? =
      some (left.value + right.value) :=
  value?_ofResult (Decimal.add?_of_representable representable) _

theorem value?_sub
    (representable : Representable (left.value - right.value)) :
    ((Number.finite left).sub (.finite right)).value? =
      some (left.value - right.value) := by
  rw [sub_eq_add_neg, ← Decimal.value_negate] at representable ⊢
  exact value?_add representable

theorem value?_mul
    (representable : Representable (left.value * right.value)) :
    ((Number.finite left).mul (.finite right)).value? =
      some (left.value * right.value) :=
  value?_ofResult (Decimal.mul?_of_representable representable) _

theorem value?_div
    (nonzero : right.value ≠ 0)
    (representable : Representable (left.value / right.value)) :
    ((Number.finite left).div (.finite right)).value? =
      some (left.value / right.value) := by
  have notZero := Decimal.isZero_of_value_ne_zero nonzero
  rw [div, if_neg (Bool.eq_false_iff.1 notZero)]
  exact
    value?_ofResult (Decimal.div?_of_representable notZero representable) _

theorem value?_rem
    (nonzero : right.value ≠ 0) :
    ((Number.finite left).rem (.finite right)).value? =
      some
        (left.value - right.value * truncate (left.value / right.value)) := by
  have notZero := Decimal.isZero_of_value_ne_zero nonzero
  rcases Decimal.rem?_value left notZero with ⟨remainder, found, exact⟩
  rw [rem, found, ← exact]
  rfl

/-- A natural power is exact where it is representable; the zeroth power of zero is one. -/
theorem value?_pow
    {base exponent : Decimal}
    {natural : Nat}
    (isNatural : exponent.value = natural)
    (small : natural < 2 ^ 63)
    (representable : Representable (base.value ^ natural)) :
    ((Number.finite base).pow (.finite exponent)).value? =
      some (base.value ^ natural) := by
  have isWhole : exponent.value = ((natural : Int) : ℚ) := by
    rw [isNatural, Int.cast_natCast]
  rcases Nat.eq_zero_or_pos natural with rfl | positive
  · have atZero := wholeExponent?_of_value isWhole small
    rw [pow, atZero, pow_zero, ← Decimal.value_one]
    rfl
  · rcases Decimal.power?_of_representable representable with
      ⟨power, found, exact⟩
    rw [pow_of_value base isWhole (by omega) small, if_neg (by omega),
      Int.natAbs_natCast, naturalPower, found, ← exact]
    rfl

end

end Number

namespace Operator

/--
No operator rounds a result that is representable.  The remainder is exact
whatever the operands are, as is every natural power with an exponent below
`2 ^ 63` that is representable.
-/
theorem apply_exact
    (left right : Decimal) :
    (Representable (left.value + right.value) →
      (add.apply (.finite left) (.finite right)).value? =
        some (left.value + right.value)) ∧
    (Representable (left.value - right.value) →
      (subtract.apply (.finite left) (.finite right)).value? =
        some (left.value - right.value)) ∧
    (Representable (left.value * right.value) →
      (multiply.apply (.finite left) (.finite right)).value? =
        some (left.value * right.value)) ∧
    (right.value ≠ 0 → Representable (left.value / right.value) →
      (divide.apply (.finite left) (.finite right)).value? =
        some (left.value / right.value)) ∧
    (right.value ≠ 0 →
      (remainder.apply (.finite left) (.finite right)).value? =
        some
          (left.value - right.value * truncate (left.value / right.value))) ∧
    (∀ natural : Nat,
      right.value = natural → natural < 2 ^ 63 →
        Representable (left.value ^ natural) →
          (power.apply (.finite left) (.finite right)).value? =
            some (left.value ^ natural)) :=
  ⟨Number.value?_add, Number.value?_sub, Number.value?_mul, Number.value?_div,
    Number.value?_rem, fun _ => Number.value?_pow⟩

/-- The exact results for `7.50` and `2.0`. -/
theorem apply_exact_fifteen_halves :
    let left : Decimal := ⟨false, 750, 2, by decide, by decide⟩
    let right : Decimal := ⟨false, 20, 1, by decide, by decide⟩
    (add.apply (.finite left) (.finite right)).value? = some (19 / 2) ∧
    (subtract.apply (.finite left) (.finite right)).value? = some (11 / 2) ∧
    (multiply.apply (.finite left) (.finite right)).value? = some 15 ∧
    (divide.apply (.finite left) (.finite right)).value? = some (15 / 4) ∧
    (remainder.apply (.finite left) (.finite right)).value? = some (3 / 2) ∧
    (power.apply (.finite left) (.finite right)).value? = some (225 / 4) := by
  intro left right
  have leftValue : left.value = 15 / 2 := by
    norm_num [left, Decimal.value, Decimal.signedMantissa]
  have rightValue : right.value = 2 := by
    norm_num [right, Decimal.value, Decimal.signedMantissa]
  have exact := apply_exact left right
  rw [leftValue, rightValue] at exact
  rcases exact with ⟨sum, difference, product, quotient, rest, square⟩
  have whole : truncate (15 / 2 / 2) = 3 := by
    rw [truncate]
    norm_num
  refine ⟨?_, ?_, ?_, ?_, ?_, ?_⟩
  · rw [sum ⟨95, 1, by decide, by decide, by norm_num⟩]
    norm_num
  · rw [difference ⟨55, 1, by decide, by decide, by norm_num⟩]
    norm_num
  · rw [product ⟨15, 0, by decide, by decide, by norm_num⟩]
    norm_num
  · rw [quotient (by norm_num) ⟨375, 2, by decide, by decide, by norm_num⟩]
    norm_num
  · rw [rest (by norm_num), whole]
    norm_num
  · rw [square 2 (by norm_num) (by decide)
      ⟨5625, 2, by decide, by decide, by norm_num⟩]
    norm_num

end Operator

end Formulary
