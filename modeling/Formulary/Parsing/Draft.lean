import Formulary.Formula.Basic
import Formulary.Parsing.Precedence

/-!
# Chains under construction

While a chain is read, operands and operators take turns.  An operator that
binds tighter than the one before it raises the last operand into an inner
chain and leaves the outer one waiting.  An operator that binds less tightly
closes inner chains, as far as the precedence mode lets it climb, and goes on
with the outer chain it reaches.

A bracketed group is not read at once: it stands in the chain as the part of
the text between its brackets.  Drafts do not look into their operands and are
generic in the atoms of them.
-/

namespace Formulary

/-- The part of a formula text from one position up to another. -/
structure Span where
  start : Nat
  stop : Nat
deriving DecidableEq

namespace Span

/-- The number of characters of a span. -/
def length (span : Span) : Nat :=
  span.stop - span.start

end Span

/-- An atom of a chain whose groups are not read yet. -/
inductive Slot where
  /-- An atom of the formula. -/
  | atom (atom : Atom)
  /-- A group, by the text between its brackets. -/
  | unread (span : Span)

/-- A chain whose bracketed groups are not read yet. -/
abbrev Sketch :=
  Chain Slot

/-- A chain being read. -/
inductive Draft (α : Type) where
  /-- Nothing has been read. -/
  | empty
  /-- The last token was an operand. -/
  | complete (chain : Chain α)
  /-- The last token was an operator. -/
  | expecting (chain : Chain α) (operator : Operator)

section

variable {α : Type}

namespace Draft

/-- The draft with one more operand, unless it ends in one. -/
def addOperand? (operand : Operand α) : Draft α → Option (Draft α)
  | .empty => some (.complete (.single operand))
  | .complete _ => none
  | .expecting chain operator =>
      some (.complete (.link chain operator operand))

end Draft

/-- A chain that waits for its last operand, which is an inner chain. -/
structure Outer (α : Type) where
  chain : Chain α
  operator : Operator

namespace Outer

/-- The outer chain with an inner one as its last operand. -/
def close (outer : Outer α) (inner : Chain α) : Chain α :=
  .link outer.chain outer.operator (.group inner)

end Outer

/-- A complete chain among the outer chains that wait for it, the innermost first. -/
structure Site (α : Type) where
  chain : Chain α
  outers : List (Outer α)

/--
Close the chain into the outer ones that bind no less tightly than the
priority, as far as the mode reaches; nothing when there is none.
-/
def climb
    (precedence : Precedence)
    (priority : Nat)
    (chain : Chain α) :
    (outers : List (Outer α)) → Option (Site α)
  | [] => none
  | outer :: outers =>
      if priority ≤ outer.operator.priority then
        let closed := outer.close chain
        match precedence with
        | .singleLevel => some ⟨closed, outers⟩
        | .climbing =>
            some ((climb precedence priority closed outers).getD ⟨closed, outers⟩)
      else
        none

/-- A draft among the outer chains that wait for it. -/
structure Nest (α : Type) where
  draft : Draft α
  outers : List (Outer α)

/-- Where an operator goes on: with the chain at hand, or with another one that it moves to. -/
structure Attachment (α : Type) where
  site : Site α
  moved : Bool

namespace Attachment

/-- The nest behind the operator. -/
def nest (attachment : Attachment α) (operator : Operator) : Nest α :=
  ⟨.expecting attachment.site.chain operator, attachment.site.outers⟩

end Attachment

/-- Attach an operator to a complete chain among its outer chains. -/
def attach
    (precedence : Precedence)
    (operator : Operator)
    (site : Site α) :
    Attachment α :=
  match site.chain with
  | .single _ => ⟨site, false⟩
  | .link before previous operand =>
      if previous.priority < operator.priority then
        ⟨⟨.single operand, ⟨before, previous⟩ :: site.outers⟩, true⟩
      else if operator.priority < previous.priority then
        match climb precedence operator.priority site.chain site.outers with
        | some reached => ⟨reached, true⟩
        | none => ⟨site, false⟩
      else
        ⟨site, false⟩

/-- Climbing leaves fewer outer chains. -/
theorem climb_length
    {precedence : Precedence}
    {priority : Nat}
    {chain : Chain α}
    {outers : List (Outer α)}
    {reached : Site α}
    (climbed : climb precedence priority chain outers = some reached) :
    reached.outers.length < outers.length := by
  induction outers generalizing chain with
  | nil => simp [climb] at climbed
  | cons outer outers hypothesis =>
      simp only [climb] at climbed
      split at climbed
      · cases precedence with
        | singleLevel =>
            simp only [Option.some.injEq] at climbed
            simp [← climbed]
        | climbing =>
            cases further : climb .climbing priority (outer.close chain) outers with
            | none =>
                simp only [further, Option.getD_none, Option.some.injEq] at climbed
                simp [← climbed]
            | some result =>
                simp only [further, Option.getD_some, Option.some.injEq] at climbed
                subst climbed
                exact Nat.lt_succ_of_lt (hypothesis further)
      · simp at climbed

/-- An operator opens at most one chain. -/
theorem attach_length
    (precedence : Precedence)
    (operator : Operator)
    (site : Site α) :
    (attach precedence operator site).site.outers.length ≤
      site.outers.length + 1 := by
  obtain ⟨chain, outers⟩ := site
  cases chain with
  | single operand => simp [attach]
  | link before previous operand =>
      simp only [attach]
      split
      · simp
      · split
        · split
          · rename_i climbed
            exact Nat.le_succ_of_le (Nat.le_of_lt (climb_length climbed))
          · simp
        · simp

end

end Formulary
