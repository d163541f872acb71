import Formulary.Formula.Steps

/-!
# Folding chains

A reading of a chain combines its operands from left to right and turns the
result of a group into that of an operand.  `Chain.foldRecursive` is that
reading by recursion.  `Chain.fold` computes it with a stack of its own, so
that neither deep groups nor long chains use up the call stack: at a group the
chain is suspended, with the reading of what stands in front of the group, and
goes on behind the group as soon as that has been read.

The theorem `Chain.fold_eq_foldRecursive` says that the two agree.
-/

namespace Formulary

/-- A way to read a chain: what atoms, groups and the two kinds of chain stand for. -/
structure Reading (α Item Total : Type) where
  /-- The reading of an atom. -/
  atom : α → Item
  /-- The reading of a group from that of its chain. -/
  group : Total → Item
  /-- The reading of a single operand. -/
  first : Item → Total
  /-- The reading of a chain with one more operand. -/
  next : Total → Operator → Item → Total

namespace Reading

variable {α Item Total : Type}

/-- The reading of a chain with one more operand, if there is a chain already. -/
def extend
    (reading : Reading α Item Total)
    (before : Option (Total × Operator))
    (item : Item) :
    Total :=
  match before with
  | none => reading.first item
  | some (total, operator) => reading.next total operator item

end Reading

mutual

/-- The reading of a chain, by recursion. -/
def Chain.foldRecursive
    {α Item Total : Type}
    (reading : Reading α Item Total) :
    Chain α → Total
  | .single operand => reading.first (operand.foldRecursive reading)
  | .link before operator operand =>
      reading.next
        (before.foldRecursive reading)
        operator
        (operand.foldRecursive reading)

/-- The reading of an operand, by recursion. -/
def Operand.foldRecursive
    {α Item Total : Type}
    (reading : Reading α Item Total) :
    Operand α → Item
  | .atom value => reading.atom value
  | .group body => reading.group (body.foldRecursive reading)

end

namespace Chain

variable {α Item Total : Type}

/-- A chain of which a group is being read. -/
structure Suspended (α Total : Type) where
  /-- The reading of what stands in front of the group, with the operator behind it. -/
  before : Option (Total × Operator)
  /-- The steps behind the group. -/
  later : List (Step α)

/-- How far the chain at hand has been read. -/
inductive Focus (α Total : Type) where
  /-- Up to an operand, which comes next. -/
  | operand
      (before : Option (Total × Operator))
      (operand : Operand α)
      (later : List (Step α))
  /-- Up to the steps that are left. -/
  | total (total : Total) (later : List (Step α))

namespace Focus

/-- The beginning of a chain. -/
def start (chain : Chain α) : Focus α Total :=
  .operand none chain.begin.1 chain.begin.2

/-- The work that is left of the chain at hand. -/
def weight : Focus α Total → Nat
  | .operand _ next later => next.weight + totalWeight stepWeight later
  | .total _ later => totalWeight stepWeight later

end Focus

/-- The work that is left of a suspended chain. -/
def Suspended.weight (suspended : Suspended α Total) : Nat :=
  totalWeight stepWeight suspended.later + 1

/-- A group and the chain suspended at it are less work than the chain was. -/
theorem Focus.weight_group
    (before : Option (Total × Operator))
    (body : Chain α)
    (later : List (Step α)) :
    (start body : Focus α Total).weight + (Suspended.mk before later).weight <
      (Focus.operand before (.group body) later).weight := by
  have lighter :
      (start body : Focus α Total).weight < body.weight :=
    body.weight_beginBefore []
  have waiting :
      (Suspended.mk before later).weight = totalWeight stepWeight later + 1 :=
    rfl
  have whole :
      (Focus.operand before (.group body) later).weight =
        body.weight + 2 + totalWeight stepWeight later := by
    rw [Focus.weight, Operand.weight]
  omega

/--
Read what is left of the chain at hand, and then of the suspended ones, of
which the innermost comes first.  At a group the chain is suspended, and goes
on with the reading of the group as soon as there is one.
-/
def foldFrom
    (reading : Reading α Item Total)
    (focus : Focus α Total)
    (suspended : List (Suspended α Total)) :
    Total :=
  match focus, suspended with
  | .operand before (.atom value) later, suspended =>
      foldFrom reading
        (.total (reading.extend before (reading.atom value)) later) suspended
  | .operand before (.group body) later, suspended =>
      foldFrom reading (.start body) (⟨before, later⟩ :: suspended)
  | .total total ((operator, operand) :: later), suspended =>
      foldFrom reading (.operand (some (total, operator)) operand later)
        suspended
  | .total total [], ⟨before, later⟩ :: suspended =>
      foldFrom reading
        (.total (reading.extend before (reading.group total)) later) suspended
  | .total total [], [] => total
termination_by focus.weight + totalWeight Suspended.weight suspended
decreasing_by
  · simp only [Focus.weight, Operand.weight]
    omega
  · have lighter := Focus.weight_group before body later
    rw [totalWeight_cons]
    omega
  · simp only [Focus.weight, totalWeight_cons, stepWeight]
    omega
  · simp only [Focus.weight, totalWeight_cons, totalWeight_nil,
      Suspended.weight]
    omega

/-- The reading of a chain, without recursion on its groups. -/
def fold (reading : Reading α Item Total) (chain : Chain α) : Total :=
  foldFrom reading (.start chain) []

end Chain

mutual

/-- A chain is read from its beginning before the steps behind it. -/
theorem Chain.foldFrom_begin
    {α Item Total : Type}
    (reading : Reading α Item Total)
    (chain : Chain α)
    (later : List (Step α))
    (suspended : List (Chain.Suspended α Total)) :
    Chain.foldFrom reading
        (.operand none (chain.beginBefore later).1 (chain.beginBefore later).2)
        suspended =
      Chain.foldFrom reading (.total (chain.foldRecursive reading) later)
        suspended :=
  match chain with
  | .single operand => by
      rw [Chain.beginBefore, Operand.foldFrom_operand, Chain.foldRecursive]
      rfl
  | .link before operator operand => by
      rw [Chain.beginBefore, Chain.foldFrom_begin, Chain.foldFrom,
        Operand.foldFrom_operand, Chain.foldRecursive]
      rfl

/-- An operand is read before the steps behind it. -/
theorem Operand.foldFrom_operand
    {α Item Total : Type}
    (reading : Reading α Item Total)
    (before : Option (Total × Operator))
    (operand : Operand α)
    (later : List (Step α))
    (suspended : List (Chain.Suspended α Total)) :
    Chain.foldFrom reading (.operand before operand later) suspended =
      Chain.foldFrom reading
        (.total (reading.extend before (operand.foldRecursive reading)) later)
        suspended :=
  match operand with
  | .atom value => by
      rw [Chain.foldFrom, Operand.foldRecursive]
  | .group body => by
      rw [Chain.foldFrom, Chain.Focus.start, Chain.begin, Chain.foldFrom_begin,
        Chain.foldFrom, Operand.foldRecursive]

end

/-- The stack and the recursion read every chain alike. -/
theorem Chain.fold_eq_foldRecursive
    {α Item Total : Type}
    (reading : Reading α Item Total)
    (chain : Chain α) :
    chain.fold reading = chain.foldRecursive reading := by
  rw [Chain.fold, Chain.Focus.start, Chain.begin, Chain.foldFrom_begin,
    Chain.foldFrom]

end Formulary
