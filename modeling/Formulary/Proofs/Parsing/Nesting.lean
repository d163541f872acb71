import Formulary.Proofs.Formula.Depth
import Formulary.Proofs.Grammar.Unambiguity
import Formulary.Proofs.Parsing.Priorities
import Formulary.Proofs.Parsing.Soundness

/-!
# Shallow formulas

Climbing precedence keeps formulas shallow: however long its chains are, a
level of brackets comes to three levels of groups at most, one for each
priority.

Grouping opens a group for an operator that is tighter than the one before it.
So a chain that ends behind an operator has no more groups around its operands
than there are priorities above that of the operator: closing it into an outer
chain adds one group, and the outer chain waits behind a looser operator.  This
is the invariant `Site.Shallow`.

The nesting of brackets is counted on the text, without reading it.
-/

namespace Formulary

/-! ## Brackets of a text -/

/-- The greatest number of open brackets at any place of a text, with some open in front of it. -/
def deepestOpened (opened : Nat) : List Char → Nat
  | [] => opened
  | character :: rest =>
      max opened (deepestOpened (openedBehind opened character) rest)

/-- The greatest number of brackets that are open at the same place of a text. -/
def bracketNesting (text : List Char) : Nat :=
  deepestOpened 0 text

theorem le_deepestOpened
    (opened : Nat)
    (text : List Char) :
    opened ≤ deepestOpened opened text := by
  cases text with
  | nil => exact Nat.le_refl _
  | cons character rest => exact Nat.le_max_left _ _

/-- Characters that are no brackets leave the open brackets as they are. -/
theorem deepestOpened_append
    {front : List Char}
    (plain :
      ∀ character ∈ front, character ≠ '(' ∧ character ≠ ')')
    (opened : Nat)
    (rest : List Char) :
    deepestOpened opened (front ++ rest) = deepestOpened opened rest := by
  induction front with
  | nil => rfl
  | cons character front hypothesis =>
      rcases plain character List.mem_cons_self with ⟨notOpening, notClosing⟩
      have later :=
        hypothesis fun other member =>
          plain other (List.mem_cons_of_mem _ member)
      rw [List.cons_append, deepestOpened, openedBehind, if_neg notOpening,
        if_neg notClosing, later, Nat.max_eq_right (le_deepestOpened _ _)]

theorem Word.plain
    (word : Word) :
    ∀ character ∈ word.text, character ≠ '(' ∧ character ≠ ')' := by
  intro character member
  have inside := word.isWordCharacter_of_mem character member
  constructor
  · rintro rfl
    exact absurd inside (by decide)
  · rintro rfl
    exact absurd inside (by decide)

/-- An operator leaves the open brackets as they are. -/
theorem deepestOpened_symbol
    (opened : Nat)
    (operator : Operator)
    (rest : List Char) :
    deepestOpened opened (operator.symbol :: rest) =
      deepestOpened opened rest := by
  have plain :
      ∀ character ∈ [operator.symbol], character ≠ '(' ∧ character ≠ ')' := by
    intro character member
    rw [List.mem_singleton.1 member]
    cases operator <;> decide
  exact deepestOpened_append plain opened rest

mutual

/-- A syntax tree has as many brackets open as there are groups around its operands. -/
theorem Expression.deepestOpened_text
    (opened : Nat)
    (rest : List Char) :
    (expression : Expression) →
    deepestOpened opened (expression.text ++ rest) =
      max (opened + expression.nesting) (deepestOpened opened rest)
  | .single operand => by
      rw [Expression.text_single, Chain.nesting_single]
      exact Operand.deepestOpened_text opened rest operand
  | .link before operator operand => by
      rw [Expression.text_link, List.append_assoc, List.cons_append,
        Expression.deepestOpened_text opened _ before, deepestOpened_symbol,
        Operand.deepestOpened_text opened rest operand, Chain.nesting_link]
      omega

/-- An operand has as many brackets open as there are groups around the operands inside of it. -/
theorem Operand.deepestOpened_text
    (opened : Nat)
    (rest : List Char) :
    (operand : Operand Word) →
    deepestOpened opened (operand.text ++ rest) =
      max (opened + operand.nesting) (deepestOpened opened rest)
  | .atom word => by
      rw [Operand.text_atom, deepestOpened_append word.plain,
        Operand.nesting_atom, Nat.add_zero,
        Nat.max_eq_right (le_deepestOpened _ _)]
  | .group body => by
      have inside :=
        Expression.deepestOpened_text (opened + 1) (')' :: rest) body
      have closed :
          deepestOpened (opened + 1) (')' :: rest) =
            max (opened + 1) (deepestOpened opened rest) :=
        rfl
      have opening :
          deepestOpened opened
              ('(' :: (Expression.text body ++ ')' :: rest)) =
            max opened
              (deepestOpened (opened + 1)
                (Expression.text body ++ ')' :: rest)) :=
        rfl
      rw [Operand.text_group, List.cons_append, List.append_assoc,
        List.singleton_append, opening, inside, closed, Operand.nesting_group]
      omega

end

/-- The brackets of the text of a syntax tree are nested as its groups are. -/
theorem Expression.bracketNesting_text
    (expression : Expression) :
    bracketNesting expression.text = expression.nesting := by
  have whole := Expression.deepestOpened_text 0 [] expression
  have ended : deepestOpened 0 [] = 0 := rfl
  rw [List.append_nil, ended, Nat.max_zero, Nat.zero_add] at whole
  exact whole

/-! ## Groups for the priorities -/

/-- The number of priorities above that of the operator. -/
def Operator.prioritiesAbove (operator : Operator) : Nat :=
  2 - operator.priority

/-- The number of priorities above that of the last operator, none for a single operand. -/
def Chain.prioritiesAbove {α : Type} : Chain α → Nat
  | .single _ => 0
  | .link _ operator _ => operator.prioritiesAbove

section

variable {α β : Type} {bound : Nat}

/-- A looser operator has more priorities above it. -/
theorem Operator.prioritiesAbove_lt
    {looser tighter : Operator}
    (below : looser.priority < tighter.priority) :
    tighter.prioritiesAbove < looser.prioritiesAbove := by
  have atMost := tighter.priority_le_two
  rw [Operator.prioritiesAbove, Operator.prioritiesAbove]
  omega

theorem Operator.prioritiesAbove_le
    {looser tighter : Operator}
    (below : looser.priority ≤ tighter.priority) :
    tighter.prioritiesAbove ≤ looser.prioritiesAbove :=
  Nat.sub_le_sub_left below 2

theorem Chain.prioritiesAbove_le_two
    (chain : Chain α) :
    chain.prioritiesAbove ≤ 2 := by
  cases chain with
  | single operand => exact Nat.zero_le _
  | link before operator operand => exact Nat.sub_le _ _

/-- Every chain has no more groups than a bound and the priorities above its last operator. -/
structure Site.Shallow (bound : Nat) (site : Site α) : Prop where
  ordered : site.Ordered
  chain : site.chain.nesting ≤ bound + site.chain.prioritiesAbove
  outers :
    ∀ outer ∈ site.outers,
      outer.chain.nesting ≤ bound + outer.operator.prioritiesAbove

/-- Closing a chain adds a group, for which a looser operator leaves room. -/
theorem Site.Shallow.closeNext
    {chain : Chain α}
    {outer : Outer α}
    {outers : List (Outer α)}
    (shallow : Site.Shallow bound ⟨chain, outer :: outers⟩) :
    Site.Shallow bound ⟨outer.close chain, outers⟩ := by
  rcases shallow with ⟨ordered, inner, waiting⟩
  cases ordered with
  | @link before operator operand _ loosening =>
      have above :
          operator.prioritiesAbove < outer.operator.prioritiesAbove :=
        Operator.prioritiesAbove_lt
          (List.rel_of_pairwise_cons loosening List.mem_cons_self)
      have around := waiting outer List.mem_cons_self
      have grouped :
          (Chain.link before operator operand).nesting + 1 ≤
            bound + outer.operator.prioritiesAbove :=
        Nat.lt_of_le_of_lt inner (Nat.add_lt_add_left above bound)
      constructor
      · exact .link loosening.of_cons
      · rw [Outer.close, Chain.nesting_link, Operand.nesting_group]
        exact Nat.max_le_of_le_of_le around grouped
      · intro other member
        exact waiting other (List.mem_cons_of_mem _ member)

/-- The last operand of a chain. -/
def Chain.last : Chain α → Operand α
  | .single operand => operand
  | .link _ _ operand => operand

/-- One more operator and operand keep chains shallow, if no group was put behind the last operator. -/
theorem Site.Shallow.extend
    {site : Site α}
    {operand : Operand α}
    (shallow : site.Shallow bound)
    (last : site.chain.last.nesting ≤ bound)
    (operator : Operator)
    (next : operand.nesting ≤ bound) :
    (site.extend .climbing operator operand).Shallow bound := by
  have ordered := shallow.ordered.extend operator operand
  have attaches := attach_attaches .climbing operator site
  rw [Site.extend] at ordered ⊢
  generalize (attach .climbing operator site).site = reached at ordered attaches ⊢
  have chain : reached.chain.nesting ≤ bound + operator.prioritiesAbove := by
    cases attaches with
    | single => exact Nat.le_trans last (Nat.le_add_right _ _)
    | raises tighter =>
        rw [Chain.nesting_single]
        exact Nat.le_trans last (Nat.le_add_right _ _)
    | stays binds =>
        exact
          Nat.le_trans shallow.chain
            (Nat.add_le_add_left (Operator.prioritiesAbove_le binds) bound)
    | closes looser closed =>
        have kept := (closed.keeps Site.Shallow.closeNext shallow).chain
        rcases closed.exists_link with ⟨before, previous, group, ends, binds⟩
        rw [ends] at kept ⊢
        exact
          Nat.le_trans kept
            (Nat.add_le_add_left (Operator.prioritiesAbove_le binds) bound)
  have waiting :
      ∀ outer ∈ reached.outers,
        outer.chain.nesting ≤ bound + outer.operator.prioritiesAbove := by
    cases attaches with
    | single => exact shallow.outers
    | stays _ => exact shallow.outers
    | closes _ closed =>
        exact (closed.keeps Site.Shallow.closeNext shallow).outers
    | @raises before previous raised outers tighter =>
        have around := shallow.chain
        rw [Chain.nesting_link, Chain.prioritiesAbove] at around
        intro outer member
        rcases List.mem_cons.1 member with rfl | further
        · exact Nat.le_trans (Nat.le_max_left _ _) around
        · exact shallow.outers outer further
  constructor
  · exact ordered
  · rw [Chain.nesting_link, Chain.prioritiesAbove]
    exact Nat.max_le_of_le_of_le chain (Nat.le_add_right_of_le next)
  · exact waiting

/-- A shallow site is closed to a chain with two groups more than its bound at most. -/
theorem Site.Shallow.nesting_close
    {site : Site α}
    (shallow : site.Shallow bound) :
    site.close.nesting ≤ bound + 2 := by
  have closed := (Site.close_keeps Site.Shallow.closeNext shallow).chain
  exact
    Nat.le_trans closed
      (Nat.add_le_add_left (Chain.prioritiesAbove_le_two _) bound)

mutual

/-- The site of a flat chain is shallow, with three groups for one of an operand. -/
theorem Chain.shallow_site
    (meaning : α → β)
    (bound : Nat) :
    (chain : Chain α) →
    chain.nesting ≤ bound →
    (chain.site .climbing meaning).Shallow (3 * bound) ∧
      (chain.site .climbing meaning).chain.last.nesting ≤ 3 * bound
  | .single operand, within => by
      rw [Chain.nesting_single] at within
      have arranged :=
        Operand.nesting_arrange meaning bound operand within
      rw [Chain.site]
      refine ⟨⟨.single _, ?_, ?_⟩, arranged⟩
      · rw [Chain.nesting_single]
        exact Nat.le_add_right_of_le arranged
      · intro outer member
        exact absurd member List.not_mem_nil
  | .link before operator operand, within => by
      rw [Chain.nesting_link, Nat.max_le] at within
      have arranged :=
        Operand.nesting_arrange meaning bound operand within.2
      rcases Chain.shallow_site meaning bound before within.1 with
        ⟨shallow, last⟩
      rw [Chain.site]
      exact ⟨shallow.extend last operator arranged, arranged⟩

/-- An operand is arranged with three groups for one at most. -/
theorem Operand.nesting_arrange
    (meaning : α → β)
    (bound : Nat) :
    (operand : Operand α) →
    operand.nesting ≤ bound →
    (operand.arrange .climbing meaning).nesting ≤ 3 * bound
  | .atom value, _ => by
      rw [Operand.arrange, Operand.nesting_atom]
      exact Nat.zero_le _
  | .group body, within => by
      rw [Operand.nesting_group] at within
      have shallow := (Chain.shallow_site meaning body.nesting body (Nat.le_refl _)).1
      have closed := shallow.nesting_close
      rw [Operand.arrange, Operand.nesting_group]
      omega

end

/-- Climbing arranges a flat chain with three groups for one of its own, and two for its operators. -/
theorem Chain.nesting_arrange
    (meaning : α → β)
    (chain : Chain α) :
    (chain.arrange .climbing meaning).nesting ≤ 3 * chain.nesting + 2 :=
  (Chain.shallow_site meaning chain.nesting chain (Nat.le_refl _)).1.nesting_close

end

/-- A text that parses with climbing has a formula of three levels for each level of brackets. -/
theorem depth_le_of_parse
    {parameters : List String}
    {formula : String}
    {parsed : Formula}
    (accepted : Formula.parse .climbing parameters formula = .ok parsed) :
    parsed.depth ≤ 3 * (bracketNesting formula.toList + 1) := by
  rcases parse_eq_ok_iff.1 accepted with ⟨expression, spelled, known, rfl⟩
  have bounded :=
    Chain.nesting_arrange (Word.atom parameters) expression
  rw [← spelled, Expression.bracketNesting_text, Chain.depth_eq_nesting,
    Expression.formula]
  omega

end Formulary
