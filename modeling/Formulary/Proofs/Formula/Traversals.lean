import Formulary.Proofs.Decimal.Value
import Formulary.Proofs.Formula.Depth
import Formulary.Proofs.Formula.Equality
import Formulary.Proofs.Formula.Text

/-!
# Traversals without a call stack

Formulas of any depth are copied, compared, written and measured with stacks
of their own.  Each of these traversals does what recursion on the formula
would do, and `traversals_eq_recursion` says so of all four.

`Chain.Same` is the recursive notion of equal chains, with one constructor for
each way to build a chain or an operand.  For the literals of a formula it
asks for equal rational numbers, so it does not refer to how numbers are
compared.
-/

namespace Formulary

/-! ## Copies -/

/-- A copy has the same operators and operands in the same places. -/
theorem Chain.copy_eq
    {α : Type}
    (chain : Chain α) :
    chain.copy = chain :=
  chain.substitute_self

/-! ## Equal formulas -/

section

variable {α : Type} (same : α → α → Prop)

mutual

/-- The chains have the same operators and the same operands in the same places. -/
inductive Chain.Same : Chain α → Chain α → Prop where
  | single
      {left right : Operand α}
      (operand : Operand.Same left right) :
      Chain.Same (.single left) (.single right)
  | link
      {leftBefore rightBefore : Chain α}
      {left right : Operand α}
      (before : Chain.Same leftBefore rightBefore)
      (operator : Operator)
      (operand : Operand.Same left right) :
      Chain.Same (.link leftBefore operator left)
        (.link rightBefore operator right)

/-- The operands are atoms that are the same, or groups that are. -/
inductive Operand.Same : Operand α → Operand α → Prop where
  | atom
      {left right : α}
      (value : same left right) :
      Operand.Same (.atom left) (.atom right)
  | group
      {left right : Chain α}
      (body : Chain.Same left right) :
      Operand.Same (.group left) (.group right)

end

end

/-- The values are equal rational numbers, infinities of one sign, or both not-a-number. -/
inductive Number.Same : Number → Number → Prop where
  | finite
      {left right : Decimal}
      (value : left.value = right.value) :
      Number.Same (.finite left) (.finite right)
  | infinite (negative : Bool) :
      Number.Same (.infinite negative) (.infinite negative)
  | nan : Number.Same .nan .nan

/-- The atoms are literals of equal values, or one variable. -/
inductive Atom.Same : Atom → Atom → Prop where
  | literal
      {left right : Number}
      (value : left.Same right) :
      Atom.Same (.literal left) (.literal right)
  | variable (index : Nat) : Atom.Same (.variable index) (.variable index)

/-- Values are the same if they have the same key. -/
theorem Number.same_iff_key
    (left right : Number) :
    left.Same right ↔ left.key = right.key := by
  constructor
  · intro same
    cases same with
    | finite value => rw [key_finite, key_finite, Decimal.value_inj.1 value]
    | infinite negative => rfl
    | nan => rfl
  · intro same
    cases left with
    | finite left =>
        cases right with
        | finite right =>
            exact .finite (Decimal.value_inj.2 (Key.finite.inj same))
        | infinite _ => cases same
        | nan => cases same
    | infinite negative =>
        cases right with
        | finite _ => cases same
        | infinite other =>
            rw [Key.infinite.inj same]
            exact .infinite other
        | nan => cases same
    | nan =>
        cases right with
        | finite _ => cases same
        | infinite _ => cases same
        | nan => exact .nan

/-- Equality of atoms finds the atoms that are the same. -/
theorem Atom.beq_iff_same
    (left right : Atom) :
    (left == right) = true ↔ left.Same right := by
  rw [beq_iff_key]
  constructor
  · intro same
    match left, right with
    | .literal left, .literal right =>
        exact .literal ((left.same_iff_key right).2 (Key.literal.inj same))
    | .literal _, .variable _ => cases same
    | .variable _, .literal _ => cases same
    | .variable index, .variable other =>
        rw [Key.variable.inj same]
        exact .variable other
  · rintro (⟨value⟩ | ⟨index⟩)
    · exact congrArg Key.literal ((Number.same_iff_key _ _).1 value)
    · rfl

section

variable {α : Type} [BEq α] {same : α → α → Prop}

mutual

/-- Comparison by recursion finds the chains that are the same. -/
theorem Chain.equalRecursive_iff_same
    (decides : ∀ left right : α, (left == right) = true ↔ same left right) :
    (left right : Chain α) →
    (left.equalRecursive right = true ↔ Chain.Same same left right)
  | .single left, .single right => by
      rw [Chain.equalRecursive,
        Operand.equalRecursive_iff_same decides left right]
      constructor
      · exact .single
      · rintro ⟨operand⟩
        exact operand
  | .single left, .link before operator right => by
      rw [Chain.equalRecursive]
      · exact ⟨nofun, nofun⟩
      · exact nofun
      · exact nofun
  | .link before operator left, .single right => by
      rw [Chain.equalRecursive]
      · exact ⟨nofun, nofun⟩
      · exact nofun
      · exact nofun
  | .link leftBefore leftOperator left, .link rightBefore rightOperator right => by
      rw [Chain.equalRecursive, Bool.and_eq_true, Bool.and_eq_true, beq_iff_eq,
        Operand.equalRecursive_iff_same decides left right,
        Chain.equalRecursive_iff_same decides leftBefore rightBefore]
      constructor
      · rintro ⟨⟨rfl, operand⟩, before⟩
        exact .link before leftOperator operand
      · rintro (_ | ⟨before, _, operand⟩)
        exact ⟨⟨rfl, operand⟩, before⟩

/-- Comparison by recursion finds the operands that are the same. -/
theorem Operand.equalRecursive_iff_same
    (decides : ∀ left right : α, (left == right) = true ↔ same left right) :
    (left right : Operand α) →
    (left.equalRecursive right = true ↔ Operand.Same same left right)
  | .atom left, .atom right => by
      rw [Operand.equalRecursive, decides]
      constructor
      · exact .atom
      · rintro ⟨value⟩
        exact value
  | .atom left, .group right => by
      rw [Operand.equalRecursive_atom_group]
      exact ⟨nofun, nofun⟩
  | .group left, .atom right => by
      rw [Operand.equalRecursive_group_atom]
      exact ⟨nofun, nofun⟩
  | .group left, .group right => by
      rw [Operand.equalRecursive,
        Chain.equalRecursive_iff_same decides left right]
      constructor
      · exact .group
      · rintro (_ | ⟨body⟩)
        exact body

end

end

/-- Equality of formulas is an equivalence, because it is equality of keys. -/
theorem Formula.beq_equivalence :
    Equivalence fun left right : Formula => (left == right) = true := by
  constructor
  · intro formula
    exact (Formula.beq_iff_map_key formula formula).2 rfl
  · intro left right same
    rw [Formula.beq_iff_map_key] at same ⊢
    exact same.symm
  · intro left middle right first second
    rw [Formula.beq_iff_map_key] at first second ⊢
    exact first.trans second

/-! ## The four traversals -/

/--
The traversals of a formula with a stack agree with recursion.  A copy is
identical; formulas compare as equal exactly if recursion finds them the same,
which is an equivalence and holds of a copy; the text is the recursive
spelling with brackets around the groups; and the depth is one more than the
greatest depth of the groups.
-/
theorem traversals_eq_recursion :
    (∀ formula : Formula, formula.copy = formula) ∧
      (∀ left right : Formula,
        (left == right) = true ↔ Chain.Same Atom.Same left right) ∧
      (Equivalence fun left right : Formula => (left == right) = true) ∧
      (∀ formula : Formula, (formula == formula.copy) = true) ∧
      (∀ (formula : Formula) (names : List String),
        formula.displayWith names =
          String.ofList (formula.spell (Formula.atomText names))) ∧
      (∀ formula : Formula,
        formula.display =
          String.ofList (formula.spell (Formula.atomText []))) ∧
      ∀ formula : Formula,
        formula.depth = 1 + greatest (formula.groups.map Chain.depth) := by
  have shown
      (formula : Formula)
      (names : List String) :
      formula.displayWith names =
        String.ofList (formula.spell (Formula.atomText names)) :=
    congrArg String.ofList (formula.text_eq_spell names)
  refine
    ⟨Chain.copy_eq, ?_, Formula.beq_equivalence, ?_, shown, ?_,
      Chain.depth_eq_greatest⟩
  · intro left right
    rw [Chain.beq_eq_equalRecursive]
    exact Chain.equalRecursive_iff_same Atom.beq_iff_same left right
  · intro formula
    rw [Chain.copy_eq]
    exact Formula.beq_equivalence.refl formula
  · intro formula
    exact shown formula []

end Formulary
