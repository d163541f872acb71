import Formulary.Formula.Basic

/-!
# Chains step by step

Traversals that go through a chain from left to right take it apart into
steps: each operand with the operator in front of it.  The first operand has
none, so it is kept apart, or its step is one that adds it.
-/

namespace Formulary

/-- An operand with the operator that combines it with what is in front of it. -/
abbrev Step (α : Type) :=
  Operator × Operand α

namespace Chain

variable {α : Type}

/-- The steps of a chain in front of those collected already. -/
def stepsBefore : Chain α → List (Step α) → List (Step α)
  | .single operand, collected => (.add, operand) :: collected
  | .link before operator operand, collected =>
      before.stepsBefore ((operator, operand) :: collected)

/-- The steps of a chain, of which the first one adds its operand. -/
def steps (chain : Chain α) : List (Step α) :=
  chain.stepsBefore []

/-- The first operand of a chain, and its later steps in front of those collected already. -/
def beginBefore : Chain α → List (Step α) → Operand α × List (Step α)
  | .single operand, collected => (operand, collected)
  | .link before operator operand, collected =>
      before.beginBefore ((operator, operand) :: collected)

/-- The first operand of a chain and its later steps. -/
def begin (chain : Chain α) : Operand α × List (Step α) :=
  chain.beginBefore []

end Chain

/-- A count of the parts of a step, as a measure for its evaluation. -/
def stepWeight {α : Type} (step : Step α) : Nat :=
  step.2.weight + 1

theorem Chain.totalWeight_stepsBefore
    {α : Type}
    (chain : Chain α)
    (collected : List (Step α)) :
    totalWeight stepWeight (chain.stepsBefore collected) ≤
      chain.weight + totalWeight stepWeight collected := by
  induction chain generalizing collected with
  | single operand =>
      rw [Chain.stepsBefore, totalWeight_cons, Chain.weight]
      exact Nat.le_refl _
  | link before operator operand hypothesis =>
      have bound := hypothesis ((operator, operand) :: collected)
      simp only [totalWeight_cons, stepWeight] at bound
      rw [Chain.stepsBefore, Chain.weight]
      omega

/-- The first operand and the later steps weigh less than the chain. -/
theorem Chain.weight_beginBefore
    {α : Type}
    (chain : Chain α)
    (collected : List (Step α)) :
    (chain.beginBefore collected).1.weight +
        totalWeight stepWeight (chain.beginBefore collected).2 <
      chain.weight + totalWeight stepWeight collected := by
  induction chain generalizing collected with
  | single operand =>
      simp only [Chain.beginBefore, Chain.weight]
      omega
  | link before operator operand hypothesis =>
      have bound := hypothesis ((operator, operand) :: collected)
      simp only [totalWeight_cons, stepWeight] at bound
      simp only [Chain.beginBefore, Chain.weight]
      omega

end Formulary
