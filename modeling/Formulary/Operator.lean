import Formulary.Number.Power

/-!
# Operators

The six binary operators of formulas, their symbols, how tightly they bind
and what they compute.
-/

namespace Formulary

/-- A binary operator. -/
inductive Operator where
  | add
  | subtract
  | multiply
  | divide
  | remainder
  | power
deriving DecidableEq

namespace Operator

/-- The operator that a character stands for, if any. -/
def ofChar? : Char → Option Operator
  | '+' => some .add
  | '-' => some .subtract
  | '*' => some .multiply
  | '/' => some .divide
  | '%' => some .remainder
  | '^' => some .power
  | _ => none

/-- The character that stands for the operator. -/
def symbol : Operator → Char
  | .add => '+'
  | .subtract => '-'
  | .multiply => '*'
  | .divide => '/'
  | .remainder => '%'
  | .power => '^'

/-- How tightly the operator binds. -/
def priority : Operator → Nat
  | .add | .subtract => 0
  | .multiply | .divide | .remainder => 1
  | .power => 2

/-- The value that the operator has on two operands. -/
def apply : Operator → Number → Number → Number
  | .add => Number.add
  | .subtract => Number.sub
  | .multiply => Number.mul
  | .divide => Number.div
  | .remainder => Number.rem
  | .power => Number.pow

@[simp]
theorem ofChar?_symbol (operator : Operator) :
    ofChar? operator.symbol = some operator := by
  cases operator <;> rfl

theorem symbol_of_ofChar?
    {character : Char}
    {operator : Operator}
    (found : ofChar? character = some operator) :
    operator.symbol = character := by
  unfold ofChar? at found
  split at found <;> cases found <;> rfl

theorem symbol_injective : Function.Injective symbol := by
  intro left right equal
  have same := congrArg ofChar? equal
  simpa using same

end Operator

end Formulary
