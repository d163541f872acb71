import Formulary.Operator

/-!
# Formulas

A formula is a chain of operands joined by operators, read from left to
right whatever the operators are.  Precedence is expressed by groups: an
operand of a chain is an atom or a group, which is a chain of its own.  So
`2 + 3 * 4` is the chain of `2` and the group `3 * 4`.

Chains are generic in their atoms.  The atoms of a formula are literal
numbers and indices into an argument list.

Chains and operands are defined together.  What is said of a chain without
going into its operands is shown by `Chain.induction`.
-/

namespace Formulary

mutual

/-- Operands joined by operators, grouped to the left. -/
inductive Chain (α : Type) where
  | single (operand : Operand α)
  | link (before : Chain α) (operator : Operator) (operand : Operand α)

/-- One operand of a chain: an atom, or a group with a chain inside. -/
inductive Operand (α : Type) where
  | atom (value : α)
  | group (body : Chain α)

end

/-- A literal number, or a variable by its place in the argument list. -/
inductive Atom where
  | literal (value : Number)
  | variable (index : Nat)

/-- A parsed formula. -/
abbrev Formula :=
  Chain Atom

namespace Atom

/-- The same variable, or numerically equal literals. -/
def equal : Atom → Atom → Bool
  | .literal left, .literal right => left == right
  | .variable left, .variable right => left == right
  | _, _ => false

instance : BEq Atom where
  beq := equal

/-- The value under an argument list; not-a-number for a missing argument. -/
def value (arguments : List Number) : Atom → Number
  | .literal value => value
  | .variable index => arguments[index]?.getD .nan

end Atom

namespace Chain

variable {α : Type}

/-- Append an operand behind an operator, or begin with it. -/
def extend (before : Option (Chain α × Operator)) (operand : Operand α) : Chain α :=
  match before with
  | none => .single operand
  | some (chain, operator) => .link chain operator operand

/-- The operators of a chain in front of those collected already. -/
def operatorsBefore : Chain α → List Operator → List Operator
  | .single _, collected => collected
  | .link before operator _, collected =>
      before.operatorsBefore (operator :: collected)

/-- The operators between the operands of a chain. -/
def operators (chain : Chain α) : List Operator :=
  chain.operatorsBefore []

/-- The operands of a chain in front of those collected already. -/
def operandsBefore : Chain α → List (Operand α) → List (Operand α)
  | .single operand, collected => operand :: collected
  | .link before _ operand, collected =>
      before.operandsBefore (operand :: collected)

/-- The operands of a chain. -/
def operands (chain : Chain α) : List (Operand α) :=
  chain.operandsBefore []

end Chain

/-- The chain inside of an operand, if it is a group. -/
def Operand.body? {α : Type} : Operand α → Option (Chain α)
  | .atom _ => none
  | .group body => some body

/-- The chains of the groups among the operands of a chain. -/
def Chain.groups {α : Type} (chain : Chain α) : List (Chain α) :=
  chain.operands.filterMap Operand.body?

/-! ## Induction along a chain -/

/-- Induction along the operators of a chain, which does not go into its operands. -/
@[elab_as_elim, induction_eliminator]
theorem Chain.induction
    {α : Type}
    {motive : Chain α → Prop}
    (single : ∀ operand, motive (.single operand))
    (link :
      ∀ before operator operand,
        motive before → motive (.link before operator operand))
    (chain : Chain α) :
    motive chain := by
  match chain with
  | .single operand => exact single operand
  | .link before operator operand =>
      exact
        link before operator operand (Chain.induction single link before)

/-! ## The size of a chain -/

mutual

/-- A count of the parts of a chain, as a measure for its traversals. -/
def Chain.weight {α : Type} : Chain α → Nat
  | .single operand => operand.weight + 1
  | .link before _ operand => before.weight + operand.weight + 2

/-- A count of the parts of an operand, as a measure for its traversals. -/
def Operand.weight {α : Type} : Operand α → Nat
  | .atom _ => 1
  | .group body => body.weight + 2

end

/-- The weights of a list of parts taken together. -/
def totalWeight {Part : Type} (weight : Part → Nat) : List Part → Nat
  | [] => 0
  | part :: parts => weight part + totalWeight weight parts

@[simp]
theorem totalWeight_nil
    {Part : Type}
    (weight : Part → Nat) :
    totalWeight weight [] = 0 :=
  rfl

@[simp]
theorem totalWeight_cons
    {Part : Type}
    (weight : Part → Nat)
    (part : Part)
    (parts : List Part) :
    totalWeight weight (part :: parts) =
      weight part + totalWeight weight parts :=
  rfl

@[simp]
theorem totalWeight_append
    {Part : Type}
    (weight : Part → Nat)
    (front back : List Part) :
    totalWeight weight (front ++ back) =
      totalWeight weight front + totalWeight weight back := by
  induction front with
  | nil => simp
  | cons part front hypothesis =>
      simp [hypothesis, Nat.add_assoc]

/-- The operands of a chain weigh less than the chain. -/
theorem Chain.totalWeight_operandsBefore
    {α : Type}
    (chain : Chain α)
    (collected : List (Operand α)) :
    totalWeight Operand.weight (chain.operandsBefore collected) <
      chain.weight + totalWeight Operand.weight collected := by
  induction chain generalizing collected with
  | single operand =>
      rw [Chain.operandsBefore, totalWeight_cons, Chain.weight]
      omega
  | link before operator operand hypothesis =>
      have bound := hypothesis (operand :: collected)
      rw [totalWeight_cons] at bound
      rw [Chain.operandsBefore, Chain.weight]
      omega

theorem Chain.totalWeight_operands
    {α : Type}
    (chain : Chain α) :
    totalWeight Operand.weight chain.operands < chain.weight :=
  chain.totalWeight_operandsBefore []

/-- The groups among operands weigh no more than the operands. -/
theorem totalWeight_bodies
    {α : Type}
    (operands : List (Operand α)) :
    totalWeight Chain.weight (operands.filterMap Operand.body?) ≤
      totalWeight Operand.weight operands := by
  induction operands with
  | nil => exact Nat.le_refl _
  | cons operand operands hypothesis =>
      cases operand with
      | atom value =>
          simp only [List.filterMap_cons, Operand.body?, totalWeight_cons]
          omega
      | group body =>
          simp only [List.filterMap_cons, Operand.body?, totalWeight_cons,
            Operand.weight]
          omega

/-- The groups of a chain weigh less than the chain. -/
theorem Chain.totalWeight_groups
    {α : Type}
    (chain : Chain α) :
    totalWeight Chain.weight chain.groups < chain.weight :=
  Nat.lt_of_le_of_lt (totalWeight_bodies _) chain.totalWeight_operands

/-! ## Formulas that do not parse -/

namespace Formula

/-- The formula in place of a text that does not parse: not-a-number alone. -/
def invalid : Formula :=
  .single (.atom (.literal .nan))

/-- The formula is not-a-number alone. -/
def isInvalid : Formula → Bool
  | .single (.atom (.literal .nan)) => true
  | _ => false

@[simp]
theorem isInvalid_invalid : invalid.isInvalid = true :=
  rfl

end Formula

end Formulary
