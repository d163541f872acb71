import Formulary.Formula.Steps
import Formulary.Number.Text

/-!
# The text of formulas

A chain is written as a row of tokens: atoms, operators and a pair of
brackets around each group.  A stack holds the chain that is being written
and the chains around it, each with the steps that are left of it.  The text
of a formula is that of its tokens, where a variable shows as its name or,
without one, as `$` and its index.
-/

namespace Formulary

/-- A part of the text of a chain. -/
inductive Token (α : Type) where
  | atom (value : α)
  | operator (operator : Operator)
  | opening
  | closing

namespace Chain

variable {α : Type}

/-- A chain that is being written. -/
structure Writing (α : Type) where
  /-- A step of the chain has been written. -/
  begun : Bool
  /-- The steps that are left. -/
  steps : List (Step α)

namespace Writing

/-- A chain of which nothing has been written. -/
def start (chain : Chain α) : Writing α :=
  ⟨false, chain.steps⟩

/-- The work that is left of a chain. -/
def weight (writing : Writing α) : Nat :=
  totalWeight stepWeight writing.steps + 1

/-- A group and the chain around it are less work than the chain was with the step of the group. -/
theorem weight_start
    (body : Chain α)
    (begun : Bool)
    (operator : Operator)
    (steps : List (Step α)) :
    (start body).weight + (Writing.mk true steps).weight <
      (Writing.mk begun ((operator, .group body) :: steps)).weight := by
  have bound := body.totalWeight_stepsBefore []
  rw [totalWeight_nil, Nat.add_zero] at bound
  simp only [weight, start, Chain.steps, totalWeight_cons, stepWeight,
    Operand.weight]
  omega

end Writing

/-- Write the operator in front of an operand, unless the operand is the first of its chain. -/
def writeOperator
    (begun : Bool)
    (operator : Operator)
    (written : List (Token α)) :
    List (Token α) :=
  if begun then .operator operator :: written else written

/-- Write the bracket that closes a chain, if there is a chain around it. -/
def writeClosing
    (around : List (Writing α))
    (written : List (Token α)) :
    List (Token α) :=
  if around.isEmpty then written else .closing :: written

/--
Write the next step of the chain on top of the stack, in front of the tokens
already written, of which the last comes first.  A group goes on top of the
stack, and a chain without steps is taken from it.
-/
def write
    (stack : List (Writing α))
    (written : List (Token α)) :
    List (Token α) :=
  match stack with
  | [] => written
  | ⟨_, []⟩ :: stack => write stack (writeClosing stack written)
  | ⟨begun, (operator, .atom value) :: steps⟩ :: stack =>
      write (⟨true, steps⟩ :: stack)
        (.atom value :: writeOperator begun operator written)
  | ⟨begun, (operator, .group body) :: steps⟩ :: stack =>
      write (.start body :: ⟨true, steps⟩ :: stack)
        (.opening :: writeOperator begun operator written)
termination_by totalWeight Writing.weight stack
decreasing_by
  · rw [totalWeight_cons, Writing.weight]
    omega
  · simp only [totalWeight_cons, Writing.weight, stepWeight]
    omega
  · have lighter := Writing.weight_start body begun operator steps
    rw [totalWeight_cons, totalWeight_cons, totalWeight_cons]
    omega

/-- The tokens of a chain in the order of its text. -/
def tokens (chain : Chain α) : List (Token α) :=
  (write [.start chain] []).reverse

end Chain

mutual

/-- The tokens of a chain, by recursion. -/
def Chain.tokensRecursive {α : Type} : Chain α → List (Token α)
  | .single operand => operand.tokensRecursive
  | .link before operator operand =>
      before.tokensRecursive ++ .operator operator :: operand.tokensRecursive

/-- The tokens of an operand, by recursion. -/
def Operand.tokensRecursive {α : Type} : Operand α → List (Token α)
  | .atom value => [.atom value]
  | .group body => .opening :: body.tokensRecursive ++ [.closing]

end

namespace Formula

/-- The text of an atom under a list of parameter names. -/
def atomText (names : List String) : Atom → List Char
  | .literal value => value.text
  | .variable index =>
      match names[index]? with
      | some name => name.toList
      | none => '$' :: Nat.toDigits 10 index

/-- The text of a token under a list of parameter names. -/
def tokenText (names : List String) : Token Atom → List Char
  | .atom value => atomText names value
  | .operator operator => [operator.symbol]
  | .opening => ['(']
  | .closing => [')']

/-- The text of a formula under a list of parameter names. -/
def text (formula : Formula) (names : List String) : List Char :=
  formula.tokens.flatMap (tokenText names)

/-- The text of a formula with parameter names for its variables. -/
def displayWith (formula : Formula) (names : List String) : String :=
  String.ofList (formula.text names)

/-- The text of a formula with every variable as `$` and its index. -/
def display (formula : Formula) : String :=
  formula.displayWith []

end Formula

end Formulary
