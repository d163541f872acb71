import Formulary.Formula.Traversal
import Formulary.Proofs.Formula.Mapping

/-!
# Depth by recursion

The nesting of a chain is the number of groups around its innermost operand,
by recursion.  The depth is found with a stack of chains, each with its own
depth; what is left on the stack comes to the greatest sum of such a depth and
the nesting of its chain.  So the depth of a chain is one more than its
nesting, and one more than the greatest depth of its groups.
-/

namespace Formulary

/-! ## The greatest number of a list -/

/-- The greatest number of a list, zero if there is none. -/
def greatest (numbers : List Nat) : Nat :=
  numbers.foldr max 0

@[simp]
theorem greatest_nil : greatest [] = 0 :=
  rfl

@[simp]
theorem greatest_cons
    (number : Nat)
    (numbers : List Nat) :
    greatest (number :: numbers) = max number (greatest numbers) :=
  rfl

@[simp]
theorem greatest_append
    (front back : List Nat) :
    greatest (front ++ back) = max (greatest front) (greatest back) := by
  induction front with
  | nil => exact (Nat.zero_max _).symm
  | cons number front hypothesis =>
      rw [List.cons_append, greatest_cons, greatest_cons, hypothesis,
        Nat.max_assoc]

/-- To add a number to all others is to add it to the greatest, if it is there itself. -/
theorem max_greatest_add
    (number : Nat)
    (numbers : List Nat) :
    max number (greatest (numbers.map (number + ·))) =
      number + greatest numbers := by
  induction numbers with
  | nil => exact Nat.max_zero _
  | cons first numbers hypothesis =>
      rw [List.map_cons, greatest_cons, greatest_cons, Nat.max_left_comm,
        hypothesis, Nat.add_max_add_left]

section

variable {α : Type}

/-! ## Nesting -/

mutual

/-- The number of groups around the innermost operand of a chain. -/
def Chain.nesting : Chain α → Nat
  | .single operand => operand.nesting
  | .link before _ operand => max before.nesting operand.nesting

/-- The number of groups around the innermost operand inside an operand, its own one included. -/
def Operand.nesting : Operand α → Nat
  | .atom _ => 0
  | .group body => body.nesting + 1

end

@[simp]
theorem Chain.nesting_single
    (operand : Operand α) :
    Chain.nesting (.single operand) = operand.nesting := by
  rw [Chain.nesting]

@[simp]
theorem Chain.nesting_link
    (before : Chain α)
    (operator : Operator)
    (operand : Operand α) :
    Chain.nesting (.link before operator operand) =
      max before.nesting operand.nesting := by
  rw [Chain.nesting]

@[simp]
theorem Operand.nesting_atom
    (value : α) :
    Operand.nesting (.atom value) = 0 := by
  rw [Operand.nesting]

@[simp]
theorem Operand.nesting_group
    (body : Chain α) :
    Operand.nesting (.group body) = body.nesting + 1 := by
  rw [Operand.nesting]

/-- The nesting of an operand is one more than that of its chain, if it is a group. -/
theorem Operand.greatest_body?
    (operand : Operand α) :
    greatest (operand.body?.toList.map fun body => body.nesting + 1) =
      operand.nesting := by
  cases operand with
  | atom value => rw [Operand.nesting_atom, Operand.body?]; rfl
  | group body => rw [Operand.nesting_group, Operand.body?]; rfl

/-- The nesting of a chain is one more than the greatest nesting of its groups, if there are any. -/
theorem Chain.greatest_groups
    (chain : Chain α) :
    greatest (chain.groups.map fun body => body.nesting + 1) =
      chain.nesting := by
  have bodies
      (operand : Operand α) :
      [operand].filterMap Operand.body? = operand.body?.toList := by
    cases operand <;> rfl
  induction chain with
  | single operand =>
      rw [Chain.nesting_single, ← operand.greatest_body?, ← bodies operand]
      rfl
  | link before operator operand hypothesis =>
      rw [Chain.groups, Chain.operands_link, List.filterMap_append,
        ← Chain.groups, List.map_append, greatest_append, hypothesis,
        bodies operand, operand.greatest_body?, Chain.nesting_link]

/-! ## The stack -/

/-- The depth that a chain on the stack comes to with its groups. -/
def Chain.entryDepth : Chain α × Nat → Nat
  | (chain, depth) => depth + chain.nesting

/-- Groups put on the stack count with their nesting. -/
theorem Chain.greatest_pushGroups
    (depth : Nat)
    (groups : List (Chain α))
    (waiting : List (Chain α × Nat)) :
    greatest ((pushGroups depth groups waiting).map entryDepth) =
      max (greatest (groups.map fun body => depth + body.nesting))
        (greatest (waiting.map entryDepth)) := by
  induction groups generalizing waiting with
  | nil => exact (Nat.zero_max _).symm
  | cons body groups hypothesis =>
      rw [pushGroups, List.foldl_cons, ← pushGroups, hypothesis,
        List.map_cons, greatest_cons, List.map_cons, greatest_cons,
        Nat.max_left_comm, Nat.max_assoc]
      rfl

/-- The stack comes to the greatest depth of its chains, or to one seen before. -/
theorem Chain.deepest_eq
    (waiting : List (Chain α × Nat))
    (seen : Nat) :
    deepest waiting seen = max seen (greatest (waiting.map entryDepth)) := by
  fun_induction deepest waiting seen with
  | case1 seen => exact (Nat.max_zero _).symm
  | case2 seen chain depth waiting hypothesis =>
      have nested :
          max depth
              (greatest
                (chain.groups.map fun body => depth + 1 + body.nesting)) =
            depth + chain.nesting := by
        rw [← chain.greatest_groups, ← max_greatest_add, List.map_map]
        simp only [Function.comp_def, Nat.add_assoc, Nat.add_comm 1]
      rw [hypothesis, Chain.greatest_pushGroups, List.map_cons, greatest_cons,
        Chain.entryDepth, ← nested, Nat.max_assoc, Nat.max_assoc]

/-- The depth of a chain is one more than its nesting. -/
theorem Chain.depth_eq_nesting
    (chain : Chain α) :
    chain.depth = chain.nesting + 1 := by
  rw [Chain.depth, Chain.deepest_eq, List.map_singleton, greatest_cons,
    greatest_nil, Nat.max_zero, Nat.zero_max, Chain.entryDepth, Nat.add_comm]

/-- The depth of a chain is one more than the greatest depth of its groups, if there are any. -/
theorem Chain.depth_eq_greatest
    (chain : Chain α) :
    chain.depth = 1 + greatest (chain.groups.map Chain.depth) := by
  have depths :
      (fun body : Chain α => body.nesting + 1) = Chain.depth :=
    funext fun body => body.depth_eq_nesting.symm
  rw [Chain.depth_eq_nesting, ← chain.greatest_groups, depths, Nat.add_comm]

end

end Formulary
