import Formulary.Proofs.Formula.Evaluation
import Formulary.Proofs.Grammar.Textbook
import Formulary.Proofs.Parsing.Attachment
import Formulary.Proofs.Parsing.Soundness

/-!
# Climbing agrees with the textbook

A site that is read with climbing precedence stands for a position on the
right edge of the textbook tree.  Its outer chains are the operators above
that position: they have the values of the left sides there, and they are the
looser the further out they wait.  So an operator climbs over exactly the
operators on the right edge that are no looser than itself.

`exists_tree_of_parse` says that a parsed formula has the value of the
conventional tree of its text, under every argument list.
-/

namespace Formulary

/-! ## Values -/

/-- The number that a word stands for: a literal, or an argument by its place in the parameters. -/
def Word.value
    (parameters : List String)
    (arguments : List Number) :
    Word → Number
  | .numeral text _ => Number.ofText text
  | .name text _ =>
      arguments[parameters.idxOf (String.ofList text)]?.getD .nan

/-- The value of a textbook tree: every operator is applied to the values of its two sides. -/
def Tree.value
    (parameters : List String)
    (arguments : List Number) :
    Tree → Number
  | .leaf word => word.value parameters arguments
  | .bracketed inner => inner.value parameters arguments
  | .binary left operator right =>
      operator.apply (left.value parameters arguments)
        (right.value parameters arguments)

theorem Word.value_atom
    (parameters : List String)
    (arguments : List Number)
    (word : Word) :
    (word.atom parameters).value arguments =
      word.value parameters arguments := by
  cases word <;> rfl

/-! ## The right edge of a tree -/

section

variable {parameters : List String} {arguments : List Number}

variable (parameters arguments) in
/--
The whole tree has a part on its right edge, below the operators of outer
chains whose values are those of the left sides.
-/
inductive Edge : List (Outer Atom) → Tree → Tree → Prop where
  | whole (tree : Tree) : Edge [] tree tree
  | under
      {outer : Outer Atom}
      {outers : List (Outer Atom)}
      {left part whole : Tree}
      (value :
        Formula.evaluate outer.chain arguments =
          left.value parameters arguments)
      (edge : Edge outers (.binary left outer.operator part) whole) :
      Edge (outer :: outers) part whole

/-- An inner chain closed into an outer one has the value of the operator between the two sides. -/
theorem Outer.evaluate_close
    {outer : Outer Atom}
    {chain : Formula}
    {left part : Tree}
    (leftValue :
      Formula.evaluate outer.chain arguments =
        left.value parameters arguments)
    (value : chain.evaluate arguments = part.value parameters arguments) :
    Formula.evaluate (outer.close chain) arguments =
      Tree.value parameters arguments (.binary left outer.operator part) := by
  rw [Outer.close, Formula.evaluate_link, Formula.evaluate_group, leftValue,
    value, Tree.value]

namespace Edge

variable {outers : List (Outer Atom)} {part whole : Tree}

/-- A tighter operator is appended below the operators on the edge. -/
theorem append
    {operator : Operator}
    (edge : Edge parameters arguments outers part whole)
    (tighter :
      ∀ outer ∈ outers, outer.operator.priority < operator.priority)
    (operand : Tree) :
    Edge parameters arguments outers (part.append operator operand)
      (whole.append operator operand) := by
  induction edge with
  | whole tree => exact .whole _
  | under value _ hypothesis =>
      have deeper :=
        hypothesis fun outer member =>
          tighter outer (List.mem_cons_of_mem _ member)
      have atHead := tighter _ List.mem_cons_self
      rw [Tree.append, if_neg (Nat.not_le_of_lt atHead)] at deeper
      exact .under value deeper

/-- The closed chain has the value of the whole tree. -/
theorem evaluate_close
    {chain : Formula}
    (edge : Edge parameters arguments outers part whole)
    (value :
      chain.evaluate arguments = part.value parameters arguments) :
    Formula.evaluate (Site.close ⟨chain, outers⟩) arguments =
      whole.value parameters arguments := by
  induction edge generalizing chain with
  | whole tree => exact value
  | @under outer outers left part whole leftValue _ hypothesis =>
      exact hypothesis (Outer.evaluate_close leftValue value)

/-- Climbing goes up the edge to the last operator that is no looser. -/
theorem of_climb
    {priority : Nat}
    {chain : Formula}
    {reached : Site Atom}
    (edge : Edge parameters arguments outers part whole)
    (value : chain.evaluate arguments = part.value parameters arguments)
    (loosening : Loosening outers)
    (climbed : climb .climbing priority chain outers = some reached) :
    ∃ higher : Tree,
      Edge parameters arguments reached.outers higher whole ∧
        Formula.evaluate reached.chain arguments =
          higher.value parameters arguments ∧
        (∃ left operator right,
          higher = .binary left operator right ∧
            priority ≤ operator.priority) ∧
        Loosening reached.outers ∧
        ∀ outer ∈ reached.outers, outer.operator.priority < priority := by
  induction edge generalizing chain with
  | whole tree => cases climbed
  | @under outer outers left part whole leftValue edge hypothesis =>
      rw [climb] at climbed
      split at climbed
      · rename_i looser
        have closed := Outer.evaluate_close leftValue value
        simp only [Option.some.injEq] at climbed
        cases further : climb .climbing priority (outer.close chain) outers with
        | none =>
            rw [further, Option.getD_none] at climbed
            subst climbed
            exact
              ⟨_, edge, closed, ⟨left, outer.operator, part, rfl, looser⟩,
                loosening.of_cons,
                (climb_eq_none_iff loosening.of_cons _ _).1 further⟩
        | some higher =>
            rw [further, Option.getD_some] at climbed
            subst climbed
            exact hypothesis closed loosening.of_cons further
      · cases climbed

end Edge

/-! ## Sites and trees -/

variable (parameters arguments) in
/--
The site behind the last operand that was read stands for the tree: the
operand is the end of the right edge, and the operator in front of it is
tighter than those of the outer chains.
-/
inductive Follows : Site Atom → Tree → Prop where
  | single
      {operand : Operand Word}
      (value :
        Operand.evaluate (operand.formula .climbing parameters) arguments =
          operand.tree.value parameters arguments) :
      Follows ⟨.single (operand.formula .climbing parameters), []⟩ operand.tree
  | link
      {before : Formula}
      {operator : Operator}
      {operand : Operand Word}
      {outers : List (Outer Atom)}
      {left whole : Tree}
      (leftValue :
        before.evaluate arguments = left.value parameters arguments)
      (value :
        Operand.evaluate (operand.formula .climbing parameters) arguments =
          operand.tree.value parameters arguments)
      (edge :
        Edge parameters arguments outers
          (.binary left operator operand.tree) whole)
      (loosening : Loosening (⟨before, operator⟩ :: outers)) :
      Follows
        ⟨.link before operator (operand.formula .climbing parameters), outers⟩
        whole

namespace Follows

variable {site : Site Atom} {whole : Tree}

/-- The closed site has the value of the tree. -/
theorem evaluate_close
    (follows : Follows parameters arguments site whole) :
    Formula.evaluate site.close arguments =
      whole.value parameters arguments := by
  cases follows with
  | single value =>
      rw [← value]
      exact Formula.evaluate_single arguments _
  | link leftValue value edge _ =>
      apply edge.evaluate_close
      rw [Formula.evaluate_link, leftValue, value, Tree.value]

/-- An operator behind a part of the tree that is no looser has that part as its left side. -/
theorem of_edge
    {chain : Formula}
    {outers : List (Outer Atom)}
    {left right : Tree}
    {root operator : Operator}
    {operand : Operand Word}
    (edge :
      Edge parameters arguments outers (.binary left root right) whole)
    (chainValue :
      chain.evaluate arguments =
        Tree.value parameters arguments (.binary left root right))
    (looser : operator.priority ≤ root.priority)
    (loosening : Loosening outers)
    (tighter :
      ∀ outer ∈ outers, outer.operator.priority < operator.priority)
    (value :
      Operand.evaluate (operand.formula .climbing parameters) arguments =
        operand.tree.value parameters arguments) :
    Follows parameters arguments
      ⟨.link chain operator (operand.formula .climbing parameters), outers⟩
      (whole.append operator operand.tree) := by
  have appended := edge.append tighter operand.tree
  rw [Tree.append, if_pos looser] at appended
  exact .link chainValue value appended (loosening.cons tighter)

/-- One more operator and operand lead from a site to its successor, and from a tree to its own. -/
theorem extend
    (follows : Follows parameters arguments site whole)
    (operator : Operator)
    {operand : Operand Word}
    (value :
      Operand.evaluate (operand.formula .climbing parameters) arguments =
        operand.tree.value parameters arguments) :
    Follows parameters arguments
      (site.extend .climbing operator (operand.formula .climbing parameters))
      (whole.append operator operand.tree) := by
  cases follows with
  | @single first firstValue =>
      rw [Operand.append_tree]
      have single :
          Formula.evaluate (.single (first.formula .climbing parameters))
              arguments =
            first.tree.value parameters arguments := by
        rw [Formula.evaluate_single, firstValue]
      exact
        .link single value (.whole _) (List.pairwise_singleton _ _)
  | @link before previous last outers left whole leftValue lastValue edge loosening =>
      have chainValue :
          Formula.evaluate
              (.link before previous (last.formula .climbing parameters))
              arguments =
            Tree.value parameters arguments
              (.binary left previous last.tree) := by
        rw [Formula.evaluate_link, leftValue, lastValue, Tree.value]
      rw [Site.extend, attach]
      simp only
      split
      · rename_i tighter
        -- The last operand is raised: it is the left side of the operator.
        have tighterThanOuters :
            ∀ outer ∈ outers, outer.operator.priority < operator.priority := by
          intro outer member
          exact
            Nat.lt_trans (List.rel_of_pairwise_cons loosening member) tighter
        have single :
            Formula.evaluate (.single (last.formula .climbing parameters))
                arguments =
              last.tree.value parameters arguments := by
          rw [Formula.evaluate_single, lastValue]
        have raised := edge.append tighterThanOuters operand.tree
        rw [Tree.append, if_neg (Nat.not_le_of_lt tighter),
          Operand.append_tree] at raised
        apply Follows.link single value (.under leftValue raised)
        refine List.Pairwise.cons ?_ loosening
        intro outer member
        rcases List.mem_cons.1 member with rfl | further
        · exact tighter
        · exact tighterThanOuters outer further
      · rename_i notTighter
        have looser := Nat.le_of_not_lt notTighter
        split
        · split
          · rename_i reached climbed
            -- The operator goes above those on the edge that are no looser.
            obtain
              ⟨_, higherEdge, higherValue, ⟨_, _, _, rfl, higherLooser⟩,
                higherLoosening, higherTighter⟩ :=
              edge.of_climb chainValue loosening.of_cons climbed
            exact
              of_edge higherEdge higherValue higherLooser higherLoosening
                higherTighter value
          · rename_i stays
            exact
              of_edge edge chainValue looser loosening.of_cons
                ((climb_eq_none_iff loosening.of_cons _ _).1 stays) value
        · rename_i notLooser
          have same : operator.priority = previous.priority := by omega
          apply of_edge edge chainValue looser loosening.of_cons _ value
          intro outer member
          rw [same]
          exact List.rel_of_pairwise_cons loosening member

end Follows

mutual

/-- The site behind a chain stands for the tree of the chain. -/
theorem Expression.follows_tree
    (parameters : List String)
    (arguments : List Number) :
    (expression : Expression) →
    Follows parameters arguments
      (expression.site .climbing (Word.atom parameters)) expression.tree
  | .single operand => by
      rw [Chain.site, Expression.tree]
      exact .single (operand.evaluate_formula parameters arguments)
  | .link before operator operand => by
      rw [Chain.site, Expression.tree]
      exact
        (Expression.follows_tree parameters arguments before).extend operator
          (operand.evaluate_formula parameters arguments)

/-- An operand has the value of its tree. -/
theorem Operand.evaluate_formula
    (parameters : List String)
    (arguments : List Number) :
    (operand : Operand Word) →
    Operand.evaluate (operand.formula .climbing parameters) arguments =
      operand.tree.value parameters arguments
  | .atom word => by
      rw [Operand.formula, Operand.arrange, Operand.evaluate_atom,
        Operand.tree, Tree.value, ← Word.value_atom]
  | .group body => by
      rw [Operand.formula, Operand.arrange, Formula.evaluate_group,
        Operand.tree, Tree.value]
      exact (Expression.follows_tree parameters arguments body).evaluate_close

end

end

/-- The formula of a syntax tree, grouped by climbing, has the value of the textbook tree. -/
theorem Expression.evaluate_formula
    (parameters : List String)
    (arguments : List Number)
    (expression : Expression) :
    Formula.evaluate (expression.formula .climbing parameters) arguments =
      expression.tree.value parameters arguments := by
  exact (Expression.follows_tree parameters arguments expression).evaluate_close

/--
A text that parses has exactly one conventional tree, and under every argument
list the parsed formula has the value of that tree.
-/
theorem exists_tree_of_parse
    {parameters : List String}
    {formula : String}
    {parsed : Formula}
    (accepted : Formula.parse .climbing parameters formula = .ok parsed) :
    ∃ tree : Tree,
      (tree.Conventional ∧ tree.text = formula.toList) ∧
        (∀ other : Tree, other.Conventional → other.text = formula.toList →
          other = tree) ∧
        ∀ arguments,
          parsed.evaluate arguments = tree.value parameters arguments := by
  rcases parse_eq_ok_iff.1 accepted with ⟨expression, spelled, _, rfl⟩
  have spelledTree : expression.tree.text = formula.toList := by
    rw [Expression.text_tree, spelled]
  refine
    ⟨expression.tree, ⟨expression.conventional_tree, spelledTree⟩, ?_, ?_⟩
  · intro other conventional spelledOther
    exact
      Tree.eq_of_text_eq conventional expression.conventional_tree
        (spelledOther.trans spelledTree.symm)
  · intro arguments
    exact expression.evaluate_formula parameters arguments

/-- The difference of a name and a product has one conventional tree, and its value. -/
theorem exists_tree_of_parse_difference :
    let two := Number.finite ⟨false, 2, 0, by decide, by decide⟩
    let parsed : Formula :=
      .link (.single (.atom (.variable 0))) .subtract
        (.group
          (.link (.single (.atom (.literal two))) .multiply
            (.atom (.variable 1))))
    Formula.parse .climbing ["a", "b"] "a-2*b" = .ok parsed ∧
      ∃ left factor right : Word,
        let tree : Tree :=
          .binary (.leaf left) .subtract
            (.binary (.leaf factor) .multiply (.leaf right))
        (tree.Conventional ∧ tree.text = "a-2*b".toList) ∧
          (∀ other : Tree, other.Conventional →
            other.text = "a-2*b".toList → other = tree) ∧
          ∀ arguments,
            parsed.evaluate arguments = tree.value ["a", "b"] arguments := by
  intro two parsed
  let left : Word := .name ['a'] (.letter (by decide))
  let factor : Word := .numeral ['2'] (.digit (by decide))
  let right : Word := .name ['b'] (.letter (by decide))
  let expression : Expression :=
    .link (.link (.single (.atom left)) .subtract (.atom factor)) .multiply
      (.atom right)
  have spelled : expression.text = "a-2*b".toList := rfl
  have known : expression.Known ["a", "b"] := by
    decide
  have accepted : Formula.parse .climbing ["a", "b"] "a-2*b" = .ok parsed :=
    parse_eq_formula spelled known
  rcases exists_tree_of_parse accepted with ⟨found, _, unique, value⟩
  have product : Tree.Conventional (.binary (.leaf factor) .multiply (.leaf right)) :=
    .binary (.leaf _) trivial (.leaf _) trivial
  have conventional :
      Tree.Conventional
        (.binary (.leaf left) .subtract
          (.binary (.leaf factor) .multiply (.leaf right))) :=
    .binary (.leaf _) trivial product (by decide : 1 ≤ 1)
  have same := unique _ conventional rfl
  subst same
  exact ⟨accepted, left, factor, right, ⟨conventional, rfl⟩, unique, value⟩

end Formulary
