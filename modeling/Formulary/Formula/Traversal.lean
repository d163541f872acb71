import Formulary.Formula.Fold

/-!
# Depth, substitution and equality of chains

The depth of a chain counts the groups around its innermost operand.  It is
found with a stack of the chains that are left to look at, each with the
number of groups around it.

Substitution puts an operand in the place of every atom; with each atom in
its own place it copies the chain.  Both are readings by a fold.

Equality takes pairs of chains from a stack, compares their operators and
operands, and puts the pairs of their groups on it.
-/

namespace Formulary

namespace Chain

variable {α β : Type}

/-! ## Depth -/

/-- The work that a chain with its depth stands for. -/
def entryWeight : Chain α × Nat → Nat
  | (chain, _) => chain.weight

/-- Put the groups of a chain on the chains that are left to look at, at a depth. -/
def pushGroups
    (depth : Nat)
    (groups : List (Chain α))
    (waiting : List (Chain α × Nat)) :
    List (Chain α × Nat) :=
  groups.foldl (fun waiting body => (body, depth) :: waiting) waiting

/-- The chains that are left weigh as much as the groups and those left before. -/
theorem totalWeight_pushGroups
    (depth : Nat)
    (groups : List (Chain α))
    (waiting : List (Chain α × Nat)) :
    totalWeight entryWeight (pushGroups depth groups waiting) =
      totalWeight Chain.weight groups + totalWeight entryWeight waiting := by
  induction groups generalizing waiting with
  | nil => exact (Nat.zero_add _).symm
  | cons body groups hypothesis =>
      rw [pushGroups, List.foldl_cons, ← pushGroups, hypothesis,
        totalWeight_cons, totalWeight_cons, entryWeight]
      omega

/-- The greatest depth of the chains that are left and of their groups, and of those seen before. -/
def deepest (waiting : List (Chain α × Nat)) (seen : Nat) : Nat :=
  match waiting with
  | [] => seen
  | (chain, depth) :: waiting =>
      deepest (pushGroups (depth + 1) chain.groups waiting) (max seen depth)
termination_by totalWeight entryWeight waiting
decreasing_by
  have lighter := chain.totalWeight_groups
  rw [totalWeight_pushGroups, totalWeight_cons, entryWeight]
  omega

/-- The depth of a chain: one without groups, and one more for each level of groups. -/
def depth (chain : Chain α) : Nat :=
  deepest [(chain, 1)] 0

/-! ## Substitution -/

/-- The reading of a chain as the chain with every atom replaced. -/
def substitution
    (replacement : α → Operand β) :
    Reading α (Operand β) (Chain β) where
  atom := replacement
  group := .group
  first := .single
  next := .link

/-- The chain with an operand in the place of every atom. -/
def substitute (replacement : α → Operand β) (chain : Chain α) : Chain β :=
  chain.fold (substitution replacement)

/-- A chain built anew from the atoms of another one; each chain waits while a group of it is copied. -/
def copy (chain : Chain α) : Chain α :=
  chain.substitute .atom

/-! ## Equality -/

/--
Compare operands side by side, up to the end of the shorter list, and put the
chains of two groups on the pairs that are left to compare; nothing if two
operands are of different kinds or unequal atoms.
-/
def compareOperands [BEq α] :
    (lefts rights : List (Operand α)) →
    (pairs : List (Chain α × Chain α)) →
    Option (List (Chain α × Chain α))
  | .group left :: lefts, .group right :: rights, pairs =>
      compareOperands lefts rights ((left, right) :: pairs)
  | .atom left :: lefts, .atom right :: rights, pairs =>
      if left == right then compareOperands lefts rights pairs else none
  | .atom _ :: _, .group _ :: _, _ => none
  | .group _ :: _, .atom _ :: _, _ => none
  | [], _, pairs => some pairs
  | _ :: _, [], pairs => some pairs

/-- The work that a pair of chains is to compare. -/
def pairWeight (pair : Chain α × Chain α) : Nat :=
  pair.1.weight

/-- The pairs that are left weigh no more than the operands and the pairs left before. -/
theorem compareOperands_weight
    [BEq α]
    {lefts rights : List (Operand α)}
    {pairs left : List (Chain α × Chain α)}
    (compared : compareOperands lefts rights pairs = some left) :
    totalWeight pairWeight left ≤
      totalWeight Operand.weight lefts + totalWeight pairWeight pairs := by
  fun_induction compareOperands lefts rights pairs with
  | case1 leftBody lefts rightBody rights pairs hypothesis =>
      have bound := hypothesis compared
      simp only [totalWeight_cons, pairWeight, Operand.weight] at bound ⊢
      omega
  | case2 leftAtom lefts rightAtom rights pairs same hypothesis =>
      have bound := hypothesis compared
      rw [totalWeight_cons]
      omega
  | case3 => cases compared
  | case4 => cases compared
  | case5 => cases compared
  | case6 =>
      cases compared
      omega
  | case7 =>
      cases compared
      omega

/-- Both chains of every pair have equal operators and as many operands, which are equal. -/
def equalPairs [BEq α] (pairs : List (Chain α × Chain α)) : Bool :=
  match pairs with
  | [] => true
  | (left, right) :: pairs =>
      if left.operators = right.operators ∧
          left.operands.length = right.operands.length then
        match compared :
            compareOperands left.operands right.operands pairs with
        | some further =>
            have := compareOperands_weight compared
            equalPairs further
        | none => false
      else
        false
termination_by totalWeight pairWeight pairs
decreasing_by
  have lighter := left.totalWeight_operands
  simp only [totalWeight_cons, pairWeight]
  omega

/-- Equality of chains up to equality of their atoms. -/
def equal [BEq α] (left right : Chain α) : Bool :=
  equalPairs [(left, right)]

instance [BEq α] : BEq (Chain α) where
  beq := equal

end Chain

mutual

/-- Equality of chains by recursion. -/
def Chain.equalRecursive {α : Type} [BEq α] : Chain α → Chain α → Bool
  | .single left, .single right => left.equalRecursive right
  | .link leftBefore leftOperator left,
    .link rightBefore rightOperator right =>
      leftOperator == rightOperator &&
        left.equalRecursive right &&
        leftBefore.equalRecursive rightBefore
  | _, _ => false

/-- Equality of operands by recursion. -/
def Operand.equalRecursive {α : Type} [BEq α] : Operand α → Operand α → Bool
  | .atom left, .atom right => left == right
  | .group left, .group right => left.equalRecursive right
  | _, _ => false

end

end Formulary
