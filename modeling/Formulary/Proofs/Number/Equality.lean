import Formulary.Number.Basic

/-!
# Equality of formula values

Numeric equality of values is an equivalence, which argument lists inherit
from their values.
-/

namespace Formulary

namespace Number

/-- The values that numeric equality does not tell apart have the same key. -/
inductive Key where
  | finite (units : Int)
  | infinite (negative : Bool)
  | nan

/-- What numeric equality looks at. -/
def key : Number → Key
  | .finite decimal => .finite decimal.units
  | .infinite negative => .infinite negative
  | .nan => .nan

@[simp]
theorem key_finite (decimal : Decimal) :
    (Number.finite decimal).key = .finite decimal.units :=
  rfl

@[simp]
theorem key_infinite (negative : Bool) :
    (Number.infinite negative).key = .infinite negative :=
  rfl

/-- Numeric equality is equality of keys. -/
theorem beq_iff_key
    (left right : Number) :
    (left == right) = true ↔ left.key = right.key := by
  cases left with
  | finite left =>
      cases right with
      | finite right =>
          simp only [key, Key.finite.injEq]
          exact Decimal.beq_iff_units left right
      | infinite _ => simp [key, BEq.beq, equal]
      | nan => simp [key, BEq.beq, equal]
  | infinite left =>
      cases right with
      | finite _ => simp [key, BEq.beq, equal]
      | infinite right =>
          rw [key, key, Key.infinite.injEq]
          show (left == right) = true ↔ left = right
          exact beq_iff_eq
      | nan => simp [key, BEq.beq, equal]
  | nan =>
      cases right with
      | finite _ => simp [key, BEq.beq, equal]
      | infinite _ => simp [key, BEq.beq, equal]
      | nan => simp [key, BEq.beq, equal]

/-- Argument lists are equal as numbers if their keys are the same. -/
theorem beq_iff_keys
    (left right : List Number) :
    (left == right) = true ↔ left.map key = right.map key := by
  induction left generalizing right with
  | nil =>
      cases right with
      | nil => simp
      | cons number numbers => simp
  | cons first left hypothesis =>
      cases right with
      | nil => simp
      | cons number numbers =>
          rw [List.cons_beq_cons, Bool.and_eq_true, beq_iff_key, hypothesis,
            List.map_cons, List.map_cons, List.cons.injEq]

end Number

end Formulary
