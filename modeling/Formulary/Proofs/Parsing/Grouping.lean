import Formulary.Formula.Traversal
import Formulary.Number.Text
import Formulary.Parsing.Draft
import Formulary.Proofs.Grammar.Basic

/-!
# Grouping by precedence

`Chain.site` puts a flat chain together as the reader does: operand by
operand, where each operator is attached as the precedence mode says.
`Chain.arrange` closes the chains that are left, and `Expression.formula` is
the formula that a syntax tree stands for: its words become literals and
variables, and every level of it is grouped.

Grouping looks at operators only.  So it makes no difference whether atoms
are replaced before it or after it, which the last section says of each step.
-/

namespace Formulary

namespace Site

variable {α : Type}

/-- The chain at hand, closed into all the outer chains that wait for it. -/
def close (site : Site α) : Chain α :=
  site.outers.foldl (fun chain outer => outer.close chain) site.chain

/-- The site behind an operator and an operand. -/
def extend
    (precedence : Precedence)
    (site : Site α)
    (operator : Operator)
    (operand : Operand α) :
    Site α :=
  let reached := (attach precedence operator site).site
  ⟨.link reached.chain operator operand, reached.outers⟩

end Site

mutual

/-- The site of a flat chain behind its last operand, with the meaning of its atoms. -/
def Chain.site
    {α β : Type}
    (precedence : Precedence)
    (meaning : α → β) :
    Chain α → Site β
  | .single operand => ⟨.single (operand.arrange precedence meaning), []⟩
  | .link before operator operand =>
      (before.site precedence meaning).extend precedence operator
        (operand.arrange precedence meaning)

/-- The operand with the meaning of its atom, or with the chain of its group arranged. -/
def Operand.arrange
    {α β : Type}
    (precedence : Precedence)
    (meaning : α → β) :
    Operand α → Operand β
  | .atom value => .atom (meaning value)
  | .group body => .group (body.site precedence meaning).close

end

/-- The flat chain grouped by precedence, with the meaning of its atoms. -/
def Chain.arrange
    {α β : Type}
    (precedence : Precedence)
    (meaning : α → β)
    (chain : Chain α) :
    Chain β :=
  (chain.site precedence meaning).close

/-- The atom that a word stands for: a literal, or the variable of its first place in the parameters. -/
def Word.atom (parameters : List String) : Word → Atom
  | numeral text _ => .literal (Number.ofText text)
  | name text _ => .variable (parameters.idxOf (String.ofList text))

/-- The formula that a syntax tree stands for. -/
def Expression.formula
    (precedence : Precedence)
    (parameters : List String)
    (expression : Expression) :
    Formula :=
  expression.arrange precedence (Word.atom parameters)

/-- The operand of a formula that an operand of a syntax tree stands for. -/
def Operand.formula
    (precedence : Precedence)
    (parameters : List String)
    (operand : Operand Word) :
    Operand Atom :=
  operand.arrange precedence (Word.atom parameters)

/-! ## Substitution and grouping -/

variable {α β : Type} (replacement : α → Operand β)

/-- The operand with an operand in the place of every atom. -/
def Operand.substitute (operand : Operand α) : Operand β :=
  operand.foldRecursive (Chain.substitution replacement)

@[simp]
theorem Operand.substitute_atom
    (value : α) :
    Operand.substitute replacement (.atom value) = replacement value := by
  rw [Operand.substitute, Operand.foldRecursive]
  rfl

@[simp]
theorem Operand.substitute_group
    (body : Chain α) :
    Operand.substitute replacement (.group body) =
      .group (body.substitute replacement) := by
  rw [Operand.substitute, Operand.foldRecursive, Chain.substitute,
    Chain.fold_eq_foldRecursive]
  rfl

@[simp]
theorem Chain.substitute_single
    (operand : Operand α) :
    Chain.substitute replacement (.single operand) =
      .single (operand.substitute replacement) := by
  rw [Chain.substitute, Chain.fold_eq_foldRecursive, Chain.foldRecursive,
    Operand.substitute]
  rfl

@[simp]
theorem Chain.substitute_link
    (before : Chain α)
    (operator : Operator)
    (operand : Operand α) :
    Chain.substitute replacement (.link before operator operand) =
      .link (before.substitute replacement) operator
        (operand.substitute replacement) := by
  rw [Chain.substitute, Chain.fold_eq_foldRecursive, Chain.foldRecursive,
    Operand.substitute, Chain.substitute, Chain.fold_eq_foldRecursive]
  rfl

/-- The outer chain with an operand in the place of every atom. -/
def Outer.substitute (outer : Outer α) : Outer β :=
  ⟨outer.chain.substitute replacement, outer.operator⟩

@[simp]
theorem Outer.operator_substitute
    (outer : Outer α) :
    (outer.substitute replacement).operator = outer.operator :=
  rfl

theorem Outer.close_substitute
    (outer : Outer α)
    (inner : Chain α) :
    (outer.substitute replacement).close (inner.substitute replacement) =
      (outer.close inner).substitute replacement := by
  rw [Outer.close, Outer.close, Chain.substitute_link, Operand.substitute_group]
  rfl

/-- The site with an operand in the place of every atom. -/
def Site.substitute (site : Site α) : Site β :=
  ⟨site.chain.substitute replacement,
    site.outers.map (Outer.substitute replacement)⟩

/-- Climbing looks at operators only. -/
theorem climb_substitute
    (precedence : Precedence)
    (priority : Nat)
    (chain : Chain α)
    (outers : List (Outer α)) :
    climb precedence priority (chain.substitute replacement)
        (outers.map (Outer.substitute replacement)) =
      (climb precedence priority chain outers).map
        (Site.substitute replacement) := by
  induction outers generalizing chain with
  | nil => rfl
  | cons outer outers hypothesis =>
      rw [List.map_cons, climb, climb, Outer.operator_substitute]
      split
      · cases precedence with
        | singleLevel =>
            simp only [Option.map_some, Site.substitute, Outer.close_substitute]
        | climbing =>
            simp only [Outer.close_substitute, hypothesis, Option.map_some,
              Option.some.injEq]
            cases climb .climbing priority (outer.close chain) outers with
            | none => simp only [Option.map_none, Option.getD_none, Site.substitute]
            | some reached => simp only [Option.map_some, Option.getD_some]
      · rfl

/-- Attaching an operator looks at operators only. -/
theorem attach_substitute
    (precedence : Precedence)
    (operator : Operator)
    (site : Site α) :
    (attach precedence operator (site.substitute replacement)).site =
      (attach precedence operator site).site.substitute replacement := by
  rcases site with ⟨chain, outers⟩
  cases chain with
  | single operand => simp only [attach, Site.substitute, Chain.substitute_single]
  | link before previous operand =>
      simp only [attach, Site.substitute, Chain.substitute_link]
      split
      · simp only [Outer.substitute, List.map_cons, Chain.substitute_single]
      · split
        · rw [← Chain.substitute_link, climb_substitute]
          cases climb precedence operator.priority (.link before previous operand) outers with
          | none => simp only [Option.map_none]
          | some reached => simp only [Option.map_some, Site.substitute]
        · simp only [Chain.substitute_link]

theorem Site.extend_substitute
    (precedence : Precedence)
    (site : Site α)
    (operator : Operator)
    (operand : Operand α) :
    (site.substitute replacement).extend precedence operator
        (operand.substitute replacement) =
      (site.extend precedence operator operand).substitute replacement := by
  rw [Site.extend, Site.extend, attach_substitute, Site.substitute,
    Site.substitute, Chain.substitute_link]

theorem Site.close_substitute
    (site : Site α) :
    (site.substitute replacement).close =
      site.close.substitute replacement := by
  rcases site with ⟨chain, outers⟩
  simp only [Site.close, Site.substitute]
  induction outers generalizing chain with
  | nil => rfl
  | cons outer outers hypothesis =>
      rw [List.map_cons, List.foldl_cons, List.foldl_cons,
        Outer.close_substitute, hypothesis]

end Formulary
