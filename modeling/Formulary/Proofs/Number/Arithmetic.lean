import Formulary.Number.Arithmetic
import Formulary.Proofs.Decimal.Units
import Formulary.Proofs.Number.Equality

/-!
# Arithmetic of formula values by value

Each operator but the power computes the key of its result from the keys of
its operands.  So numerically equal operands, which may be written with other
scales or with another sign of zero, have numerically equal results.
-/

namespace Formulary

namespace Number

namespace Key

/-- The key of a result that has units, and otherwise that of an infinity. -/
def ofResult (result : Option Int) (negative : Bool) : Key :=
  match result with
  | some units => .finite units
  | none => .infinite negative

/-- Below zero. -/
def isNegative : Key → Bool
  | .finite units => decide (units < 0)
  | .infinite negative => negative
  | .nan => false

/-- Zero. -/
def isZero : Key → Bool
  | .finite units => decide (units = 0)
  | .infinite _ => false
  | .nan => false

/-- The key of the value with the other sign. -/
def neg : Key → Key
  | .finite units => .finite (-units)
  | .infinite negative => .infinite (!negative)
  | .nan => .nan

/-- The key of the sum. -/
def add : Key → Key → Key
  | .nan, _ => .nan
  | _, .nan => .nan
  | .infinite left, .infinite right =>
      if left = right then .infinite left else .nan
  | .infinite left, .finite _ => .infinite left
  | .finite _, .infinite right => .infinite right
  | .finite left, .finite right =>
      ofResult (Decimal.nearestSum (left + right)) (decide (left < 0))

/-- The key of the product. -/
def mul (left right : Key) : Key :=
  let negative := left.isNegative != right.isNegative
  match left, right with
  | .nan, _ => .nan
  | _, .nan => .nan
  | .finite multiplicand, .finite multiplier =>
      ofResult (Decimal.nearestProduct multiplicand multiplier) negative
  | _, _ =>
      if left.isZero || right.isZero then .nan else .infinite negative

/-- The key of the quotient. -/
def div (left right : Key) : Key :=
  let negative := left.isNegative != right.isNegative
  match left, right with
  | .nan, _ => .nan
  | _, .nan => .nan
  | .infinite _, .infinite _ => .nan
  | .infinite _, .finite _ => .infinite negative
  | .finite _, .infinite _ => .finite 0
  | .finite dividend, .finite divisor =>
      if divisor = 0 then
        if dividend = 0 then .nan else .infinite left.isNegative
      else
        ofResult (Decimal.nearestRatio dividend divisor) negative

/-- The key of the remainder. -/
def rem : Key → Key → Key
  | .finite dividend, .finite divisor =>
      if divisor = 0 then .nan else .finite (dividend.tmod divisor)
  | .finite dividend, .infinite _ => .finite dividend
  | _, _ => .nan

end Key

theorem key_ofResult
    (result : Option Decimal)
    (negative : Bool) :
    (ofResult result negative).key =
      Key.ofResult (result.map Decimal.units) negative := by
  cases result <;> rfl

theorem isZero_key
    (number : Number) :
    number.key.isZero = number.isZero := by
  cases number with
  | finite decimal =>
      rw [key, Key.isZero, isZero, Bool.eq_iff_iff, decide_eq_true_iff]
      exact decimal.units_eq_zero_iff
  | infinite negative => rfl
  | nan => rfl

theorem isNegative_key
    (number : Number) :
    number.key.isNegative = number.isNegative := by
  cases number with
  | finite decimal =>
      rw [key, Key.isNegative, isNegative, decimal.negative_and_nonzero]
  | infinite negative => rfl
  | nan => rfl

theorem key_neg
    (number : Number) :
    number.neg.key = number.key.neg := by
  cases number with
  | finite decimal =>
      rw [neg, key, key, Key.neg, Decimal.units_negate]
  | infinite negative => rfl
  | nan => rfl

theorem key_add
    (left right : Number) :
    (left.add right).key = left.key.add right.key := by
  cases left with
  | finite left =>
      cases right with
      | finite right =>
          rw [add, key_ofResult, Decimal.map_units_add?, key, key, Key.add]
          cases result : Decimal.nearestSum (left.units + right.units) with
          | some units => rfl
          | none =>
              -- A sum that is too large has no zero in it, so the sign is that of the value.
              cases zero : left.isZero with
              | false => rw [Decimal.negative_eq_decide zero]
              | true =>
                  rw [(Decimal.units_eq_zero_iff left).2 zero, Int.zero_add,
                    Decimal.nearestSum_units] at result
                  cases result
      | infinite right => rfl
      | nan => rfl
  | infinite left =>
      cases right with
      | finite right => rfl
      | infinite right =>
          rw [add, key, key, Key.add]
          split
          · rfl
          · rfl
      | nan => rfl
  | nan => cases right <;> rfl

theorem key_sub
    (left right : Number) :
    (left.sub right).key = left.key.add right.key.neg := by
  rw [sub, key_add, key_neg]

/-- The key of not-a-number or an infinity, by a condition. -/
theorem key_ite
    (condition negative : Bool) :
    (if condition then Number.nan else .infinite negative).key =
      if condition then Key.nan else .infinite negative := by
  cases condition <;> rfl

theorem key_mul
    (left right : Number) :
    (left.mul right).key = left.key.mul right.key := by
  have negative := isNegative_key left
  have otherNegative := isNegative_key right
  have zero := isZero_key left
  have otherZero := isZero_key right
  cases left with
  | finite multiplicand =>
      cases right with
      | finite multiplier =>
          simp only [key_finite] at negative otherNegative ⊢
          rw [mul, key_ofResult, Decimal.map_units_mul?, Key.mul, negative,
            otherNegative]
      | infinite sign =>
          simp only [key_finite, key_infinite] at negative otherNegative zero otherZero ⊢
          rw [Key.mul, negative, otherNegative, zero, otherZero]
          · exact key_ite _ _
          · nofun
          · nofun
          · nofun
      | nan => rfl
  | infinite sign =>
      cases right with
      | finite multiplier =>
          simp only [key_finite, key_infinite] at negative otherNegative zero otherZero ⊢
          rw [Key.mul, negative, otherNegative, zero, otherZero]
          · exact key_ite _ _
          · nofun
          · nofun
          · nofun
      | infinite otherSign => rfl
      | nan => rfl
  | nan => cases right <;> rfl

theorem key_div
    (left right : Number) :
    (left.div right).key = left.key.div right.key := by
  have negative := isNegative_key left
  have otherNegative := isNegative_key right
  cases left with
  | finite dividend =>
      cases right with
      | finite divisor =>
          simp only [key_finite] at negative otherNegative ⊢
          rw [div, Key.div, negative, otherNegative]
          cases divisorZero : divisor.isZero with
          | true =>
              rw [if_pos ((Decimal.units_eq_zero_iff divisor).2 divisorZero),
                if_pos rfl]
              cases dividendZero : dividend.isZero with
              | true =>
                  rw [if_pos rfl,
                    if_pos ((Decimal.units_eq_zero_iff dividend).2 dividendZero)]
                  rfl
              | false =>
                  rw [if_neg (Decimal.units_ne_zero dividendZero),
                    if_neg Bool.false_ne_true]
                  rfl
          | false =>
              rw [if_neg (Decimal.units_ne_zero divisorZero),
                if_neg Bool.false_ne_true, key_ofResult,
                Decimal.map_units_div? dividend divisorZero]
      | infinite sign => rfl
      | nan => rfl
  | infinite sign =>
      cases right with
      | finite divisor =>
          simp only [key_finite, key_infinite] at negative otherNegative ⊢
          rw [div, Key.div, negative, otherNegative, key_infinite]
      | infinite otherSign => rfl
      | nan => rfl
  | nan => cases right <;> rfl

theorem key_rem
    (left right : Number) :
    (left.rem right).key = left.key.rem right.key := by
  cases left with
  | finite dividend =>
      cases right with
      | finite divisor =>
          have units := Decimal.map_units_rem? dividend divisor
          rw [rem, key, key, Key.rem]
          cases result : dividend.rem? divisor with
          | none =>
              rw [result] at units
              split at units
              · rename_i zero
                rw [if_pos zero]
                rfl
              · cases units
          | some remainder =>
              rw [result] at units
              split at units
              · cases units
              · rename_i nonzero
                rw [if_neg nonzero, ← Option.some.inj units]
                rfl
      | infinite negative => rfl
      | nan => rfl
  | infinite negative => cases right <;> rfl
  | nan => cases right <;> rfl

end Number

end Formulary
