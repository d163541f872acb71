import Formulary.Proofs.Formula.Evaluation
import Formulary.Proofs.Formula.Reading
import Formulary.Proofs.Parsing.Soundness

/-!
# Not-a-number absorbs

Every operator has not-a-number as its result where one of its operands is,
whatever the other one is.  So has a formula of any depth where one of its
atoms is: a literal that is no number, or a variable whose argument is missing
or is no number itself.

Not-a-number is also the value of a formula in place of a text that does not
parse: `evaluate_absorbs_nan`.
-/

namespace Formulary

/-! ## Operators -/

/-- Operators absorb not-a-number on their left side. -/
theorem Operator.apply_nan_left
    (operator : Operator)
    (right : Number) :
    operator.apply .nan right = .nan := by
  cases operator <;> rfl

/-- Operators absorb not-a-number on their right side. -/
theorem Operator.apply_nan_right
    (operator : Operator)
    (left : Number) :
    operator.apply left .nan = .nan := by
  cases operator <;> cases left <;> rfl

/-! ## Atoms -/

/-- Under the arguments the atom stands for no number. -/
inductive Atom.IsNaN (arguments : List Number) : Atom → Prop where
  /-- A literal that is no number. -/
  | literal : IsNaN arguments (.literal .nan)
  /-- A variable behind the last argument. -/
  | missing
      {index : Nat}
      (beyond : arguments.length ≤ index) :
      IsNaN arguments (.variable index)
  /-- A variable whose argument is no number. -/
  | argument
      {index : Nat}
      (given : arguments[index]? = some .nan) :
      IsNaN arguments (.variable index)

/-- An atom has not-a-number as its value in these three ways only. -/
theorem Atom.value_eq_nan_iff
    (arguments : List Number)
    (atom : Atom) :
    atom.value arguments = .nan ↔ atom.IsNaN arguments := by
  constructor
  · intro isNaN
    match atom with
    | .literal number =>
        rw [Atom.value] at isNaN
        rw [isNaN]
        exact .literal
    | .variable index =>
        rw [Atom.value] at isNaN
        cases given : arguments[index]? with
        | none => exact .missing (List.getElem?_eq_none_iff.1 given)
        | some number =>
            rw [given, Option.getD_some] at isNaN
            rw [isNaN] at given
            exact .argument given
  · intro isNaN
    cases isNaN with
    | literal => rfl
    | missing beyond =>
        rw [Atom.value, List.getElem?_eq_none beyond, Option.getD_none]
    | argument given => rw [Atom.value, given, Option.getD_some]

/-! ## Formulas -/

section

variable {arguments : List Number}

mutual

/-- A formula is no number where one of its atoms is none. -/
theorem Formula.evaluate_eq_nan :
    (formula : Formula) →
    (∃ atom ∈ formula.atoms, atom.IsNaN arguments) →
    formula.evaluate arguments = .nan
  | .single operand, occurs => by
      rw [Chain.atoms] at occurs
      rw [Formula.evaluate_single]
      exact operand.evaluate_eq_nan occurs
  | .link before operator operand, ⟨atom, occurs, isNaN⟩ => by
      rw [Chain.atoms] at occurs
      rw [Formula.evaluate_link]
      rcases List.mem_append.1 occurs with inBefore | inOperand
      · rw [Formula.evaluate_eq_nan before ⟨atom, inBefore, isNaN⟩,
          Operator.apply_nan_left]
      · rw [operand.evaluate_eq_nan ⟨atom, inOperand, isNaN⟩,
          Operator.apply_nan_right]

/-- An operand is no number where one of its atoms is none. -/
theorem Operand.evaluate_eq_nan :
    (operand : Operand Atom) →
    (∃ atom ∈ operand.atoms, atom.IsNaN arguments) →
    operand.evaluate arguments = .nan
  | .atom atom, ⟨other, occurs, isNaN⟩ => by
      rw [Operand.atoms, List.mem_singleton] at occurs
      rw [Operand.evaluate_atom, ← occurs]
      exact (other.value_eq_nan_iff arguments).2 isNaN
  | .group body, occurs => by
      rw [Operand.atoms] at occurs
      rw [Formula.evaluate_group]
      exact Formula.evaluate_eq_nan body occurs

end

end

/-- A name of a text is a variable of its formula, at the place of the first parameter of that name. -/
theorem variable_mem_atoms_of_parse
    {precedence : Precedence}
    {parameters : List String}
    {formula : String}
    {parsed : Formula}
    (accepted : Formula.parse precedence parameters formula = .ok parsed)
    {names : List String}
    (derived : DerivesExpression formula.toList names)
    {name : String}
    (occurs : name ∈ names) :
    Atom.variable (parameters.idxOf name) ∈ parsed.atoms := by
  rcases parse_eq_ok_iff.1 accepted with ⟨expression, spelled, known, rfl⟩
  rcases (derivesExpression_iff _ _).1 derived with ⟨other, sameText, rfl⟩
  rw [Expression.text_injective (sameText.trans spelled.symm)] at occurs
  rcases List.mem_filterMap.1 occurs with ⟨word, inWords, named⟩
  rw [Expression.formula, Chain.atoms_arrange]
  refine List.mem_map.2 ⟨word, inWords, ?_⟩
  cases word with
  | numeral text shape => cases named
  | name text shape =>
      cases named
      rfl

/--
A formula with an atom that is no number is none, at any depth and behind any
operator.  So a text with a parameter that has no argument has not-a-number as
its value, and so has every text that does not parse.
-/
theorem evaluate_absorbs_nan
    (arguments : List Number) :
    (∀ formula : Formula,
      (∃ atom ∈ formula.atoms, atom.IsNaN arguments) →
        formula.evaluate arguments = .nan) ∧
      ∀ (precedence : Precedence) (parameters : List String)
        (formula : String),
        (∀ parsed names name,
          Formula.parse precedence parameters formula = .ok parsed →
          DerivesExpression formula.toList names →
          name ∈ names →
          arguments.length ≤ parameters.idxOf name →
            parsed.evaluate arguments = .nan) ∧
          ∀ fault,
            Formula.parse precedence parameters formula = .error fault →
              (Formula.parseOrInvalid precedence parameters
                formula).1.evaluate arguments = .nan := by
  refine ⟨Formula.evaluate_eq_nan, ?_⟩
  intro precedence parameters formula
  constructor
  · intro parsed names name accepted derived occurs beyond
    apply Formula.evaluate_eq_nan
    exact ⟨_, variable_mem_atoms_of_parse accepted derived occurs,
      .missing beyond⟩
  · intro fault rejected
    rw [Formula.parseOrInvalid, rejected]
    exact Formula.evaluate_invalid arguments

/--
Not-a-number to the power of zero is no number, nor is a product of zero and a
parameter without an argument, nor a text that ends behind an operator.
-/
theorem evaluate_absorbs_nan_product :
    let zero : Operand Atom := .atom (.literal Number.zero)
    let product : Formula := .link (.single zero) .multiply (.atom (.variable 1))
    let fault := ParseError.missingOperand "a+" "a+" '+' 1
    Formula.evaluate (.link (.single (.atom (.literal .nan))) .power zero) [] =
        .nan ∧
      (Formula.parse .climbing ["a", "b"] "0*b" = .ok product ∧
        product.evaluate [Number.one] = .nan) ∧
        Formula.parse .climbing ["a", "b"] "a+" = .error fault ∧
          (Formula.parseOrInvalid .climbing ["a", "b"] "a+").1.evaluate
            [Number.one] = .nan := by
  intro zero product fault
  let expression : Expression :=
    .link
      (.single
        (.atom (.numeral ['0'] (.intro (by decide) (List.all_eq_true.1 rfl)))))
      .multiply
      (.atom (.name ['b'] (.letter (by decide))))
  have spelled : expression.text = "0*b".toList := rfl
  have known : expression.Known ["a", "b"] := by
    decide
  have named : "b" ∈ expression.names := by
    decide
  refine ⟨?_, ?_, ?_⟩
  · exact
      (evaluate_absorbs_nan []).1 _
        ⟨.literal .nan, List.mem_cons_self, .literal⟩
  · have accepted :
        Formula.parse .climbing ["a", "b"] "0*b" = .ok product :=
      parse_eq_formula spelled known
    have derived :=
      (derivesExpression_iff _ _).2 ⟨expression, spelled, rfl⟩
    exact
      ⟨accepted,
        ((evaluate_absorbs_nan [Number.one]).2 _ _ _).1 _ _ _ accepted derived
          named (by decide)⟩
  · have fails :
        (Formula.parse .climbing ["a", "b"] "a+").map (fun _ => ()) =
          .error fault := by
      decide +kernel
    have rejected :
        Formula.parse .climbing ["a", "b"] "a+" = .error fault := by
      cases parsed : Formula.parse .climbing ["a", "b"] "a+" with
      | ok formula =>
          rw [parsed] at fails
          cases fails
      | error first =>
          rw [parsed] at fails
          rw [Except.error.inj fails]
    exact
      ⟨rejected,
        ((evaluate_absorbs_nan [Number.one]).2 _ _ _).2 fault rejected⟩

end Formulary
