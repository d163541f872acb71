import Formulary.Proofs.Formula.Frames
import Formulary.Proofs.Number.Power

/-!
# Evaluation by recursion

The value of a chain is that of its parts: a single operand has its own
value, because zero is added to it without rounding, and every further operand
is combined with the value of the chain before it.

Operators that respect numeric equality do so for whole formulas:
`key_evaluate_congr` says so of formulas whose powers all have scale free
exponents.
-/

namespace Formulary

/-- The value of one operand of a formula. -/
def Operand.evaluate
    (operand : Operand Atom)
    (arguments : List Number) :
    Number :=
  operand.evaluateRecursive arguments

theorem Number.zero_add
    (number : Number) :
    Number.zero.add number = number := by
  cases number <;> rfl

namespace Formula

variable (arguments : List Number)

@[simp]
theorem evaluate_single
    (operand : Operand Atom) :
    Formula.evaluate (.single operand) arguments =
      operand.evaluate arguments := by
  rw [evaluate_eq_evaluateRecursive, evaluateRecursive, Operand.evaluate]
  exact Number.zero_add _

@[simp]
theorem evaluate_link
    (before : Formula)
    (operator : Operator)
    (operand : Operand Atom) :
    Formula.evaluate (.link before operator operand) arguments =
      operator.apply (before.evaluate arguments)
        (operand.evaluate arguments) := by
  rw [evaluate_eq_evaluateRecursive, evaluateRecursive,
    evaluate_eq_evaluateRecursive, Operand.evaluate]

@[simp]
theorem evaluate_group
    (body : Formula) :
    Operand.evaluate (.group body) arguments = body.evaluate arguments := by
  rw [Operand.evaluate, Operand.evaluateRecursive,
    evaluate_eq_evaluateRecursive]

end Formula

theorem Operand.evaluate_atom
    (atom : Atom)
    (arguments : List Number) :
    Operand.evaluate (.atom atom) arguments = atom.value arguments :=
  atom.evaluateRecursive arguments

@[simp]
theorem Formula.evaluate_invalid (arguments : List Number) :
    Formula.invalid.evaluate arguments = .nan := by
  rw [Formula.invalid, Formula.evaluate_single, Operand.evaluate_atom]
  rfl

/-! ## Exponents -/

mutual

/-- Every power in a chain has an atom with the property on its right side. -/
def Chain.PowersOf {α : Type} (property : α → Prop) : Chain α → Prop
  | .single operand => operand.PowersOf property
  | .link before operator operand =>
      before.PowersOf property ∧ operand.PowersOf property ∧
        (operator = .power → ∃ value, operand = .atom value ∧ property value)

/-- Every power in a group has an atom with the property on its right side. -/
def Operand.PowersOf {α : Type} (property : α → Prop) : Operand α → Prop
  | .atom _ => True
  | .group body => body.PowersOf property

end

/-- The atom is a literal that is scale free as an exponent. -/
def Atom.IsScaleFree (atom : Atom) : Prop :=
  ∃ exponent : Number, atom = .literal exponent ∧ exponent.ScaleFree

/-- Operators but the power have numerically equal results on numerically equal operands. -/
theorem Operator.key_apply_congr
    {operator : Operator}
    (noPower : operator ≠ .power)
    {left left' right right' : Number}
    (sameLeft : left.key = left'.key)
    (sameRight : right.key = right'.key) :
    (operator.apply left right).key = (operator.apply left' right').key := by
  cases operator with
  | add =>
      show (left.add right).key = (left'.add right').key
      rw [Number.key_add, Number.key_add, sameLeft, sameRight]
  | subtract =>
      show (left.sub right).key = (left'.sub right').key
      rw [Number.key_sub, Number.key_sub, sameLeft, sameRight]
  | multiply =>
      show (left.mul right).key = (left'.mul right').key
      rw [Number.key_mul, Number.key_mul, sameLeft, sameRight]
  | divide =>
      show (left.div right).key = (left'.div right').key
      rw [Number.key_div, Number.key_div, sameLeft, sameRight]
  | remainder =>
      show (left.rem right).key = (left'.rem right').key
      rw [Number.key_rem, Number.key_rem, sameLeft, sameRight]
  | power => exact absurd rfl noPower

/-- An atom has numerically equal values under numerically equal arguments. -/
theorem Atom.key_value_congr
    {arguments arguments' : List Number}
    (same : arguments.map Number.key = arguments'.map Number.key)
    (atom : Atom) :
    (atom.value arguments).key = (atom.value arguments').key := by
  match atom with
  | .literal number => rfl
  | .variable index =>
      have entries := congrArg (·[index]?) same
      simp only [List.getElem?_map] at entries
      rw [Atom.value, Atom.value]
      cases given : arguments[index]? with
      | none =>
          cases given' : arguments'[index]? with
          | none => rfl
          | some number =>
              rw [given, given'] at entries
              cases entries
      | some number =>
          cases given' : arguments'[index]? with
          | none =>
              rw [given, given'] at entries
              cases entries
          | some number' =>
              rw [given, given'] at entries
              exact Option.some.inj entries

mutual

/-- A formula whose exponents are scale free has numerically equal values under numerically equal arguments. -/
theorem Formula.key_evaluate_congr
    {arguments arguments' : List Number}
    (same : arguments.map Number.key = arguments'.map Number.key) :
    (formula : Formula) →
    formula.PowersOf Atom.IsScaleFree →
    (formula.evaluate arguments).key = (formula.evaluate arguments').key
  | .single operand, powers => by
      rw [Formula.evaluate_single, Formula.evaluate_single]
      exact operand.key_evaluate_congr same powers
  | .link before operator operand, ⟨beforePowers, operandPowers, exponent⟩ => by
      have sameBefore := Formula.key_evaluate_congr same before beforePowers
      have sameOperand := operand.key_evaluate_congr same operandPowers
      rw [Formula.evaluate_link, Formula.evaluate_link]
      by_cases isPower : operator = .power
      · rcases exponent isPower with ⟨_, rfl, number, rfl, scaleFree⟩
        subst isPower
        rw [Operand.evaluate_atom, Operand.evaluate_atom]
        exact
          (Number.beq_iff_key _ _).1
            (scaleFree _ _ ((Number.beq_iff_key _ _).2 sameBefore))
      · exact Operator.key_apply_congr isPower sameBefore sameOperand

/-- An operand whose exponents are scale free has numerically equal values under numerically equal arguments. -/
theorem Operand.key_evaluate_congr
    {arguments arguments' : List Number}
    (same : arguments.map Number.key = arguments'.map Number.key) :
    (operand : Operand Atom) →
    operand.PowersOf Atom.IsScaleFree →
    (operand.evaluate arguments).key = (operand.evaluate arguments').key
  | .atom atom, _ => by
      rw [Operand.evaluate_atom, Operand.evaluate_atom]
      exact atom.key_value_congr same
  | .group body, powers => by
      rw [Formula.evaluate_group, Formula.evaluate_group]
      exact Formula.key_evaluate_congr same body powers

end

end Formulary
