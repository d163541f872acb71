import Formulary.Proofs.Grammar.Unambiguity

/-!
# Textbook trees

A textbook tree says for every operator what its two sides are.  It is
conventional if tighter operators stand deeper and operators of one priority
associate to the left, so that only brackets put a looser operator below a
tighter one.

`Expression.tree` builds the conventional tree of a flat chain from left to
right: `Tree.append` goes down the right edge of a tree as far as the new
operator binds tighter.  `Tree.eq_of_text_eq` says that no text has two
conventional trees.
-/

namespace Formulary

/-- An expression with the two sides of every operator. -/
inductive Tree where
  | leaf (word : Word)
  | bracketed (inner : Tree)
  | binary (left : Tree) (operator : Operator) (right : Tree)

namespace Tree

/-- The characters of a tree. -/
def text : Tree → List Char
  | .leaf word => word.text
  | .bracketed inner => '(' :: (inner.text ++ [')'])
  | .binary left operator right =>
      left.text ++ operator.symbol :: right.text

/-- The operator at the root, if there is one, has at least the given priority. -/
def Binds (priority : Nat) : Tree → Prop
  | .leaf _ => True
  | .bracketed _ => True
  | .binary _ operator _ => priority ≤ operator.priority

/-- Tighter operators stand deeper, and operators of one priority associate to the left. -/
inductive Conventional : Tree → Prop where
  | leaf (word : Word) : Conventional (.leaf word)
  | bracketed
      {inner : Tree}
      (conventional : Conventional inner) :
      Conventional (.bracketed inner)
  | binary
      {left right : Tree}
      {operator : Operator}
      (onLeft : Conventional left)
      (leftBinds : left.Binds operator.priority)
      (onRight : Conventional right)
      (rightBinds : right.Binds (operator.priority + 1)) :
      Conventional (.binary left operator right)

/-- The tree with one more operator and its right side, which goes as deep on the right edge as it binds. -/
def append
    (tree : Tree)
    (operator : Operator)
    (operand : Tree) :
    Tree :=
  match tree with
  | .leaf word => .binary (.leaf word) operator operand
  | .bracketed inner => .binary (.bracketed inner) operator operand
  | .binary left root right =>
      if operator.priority ≤ root.priority then
        .binary (.binary left root right) operator operand
      else
        .binary left root (right.append operator operand)

end Tree

/-! ## The tree of a chain -/

mutual

/-- The conventional tree of a flat chain. -/
def Expression.tree : Expression → Tree
  | .single operand => operand.tree
  | .link before operator operand =>
      (Expression.tree before).append operator operand.tree

/-- The tree of an operand: a word, or the tree of its group in brackets. -/
def Operand.tree : Operand Word → Tree
  | .atom word => .leaf word
  | .group body => .bracketed (Expression.tree body)

end

theorem Operand.binds_tree
    (operand : Operand Word)
    (priority : Nat) :
    operand.tree.Binds priority := by
  cases operand with
  | atom word =>
      rw [Operand.tree]
      trivial
  | group body =>
      rw [Operand.tree]
      trivial

/-- An operator behind a single operand has it as its left side. -/
theorem Operand.append_tree
    (operand : Operand Word)
    (operator : Operator)
    (other : Tree) :
    operand.tree.append operator other =
      .binary operand.tree operator other := by
  cases operand with
  | atom word => rw [Operand.tree, Tree.append]
  | group body => rw [Operand.tree, Tree.append]

namespace Tree

/-- Appending keeps a tree conventional, and keeps looser operators away from its root. -/
theorem Conventional.append
    {tree operand : Tree}
    {operator : Operator}
    (conventional : tree.Conventional)
    (operandConventional : operand.Conventional)
    (operandBinds : ∀ priority, operand.Binds priority) :
    (tree.append operator operand).Conventional ∧
      ∀ priority ≤ operator.priority, tree.Binds priority →
        (tree.append operator operand).Binds priority := by
  induction conventional with
  | leaf word =>
      rw [Tree.append]
      constructor
      · exact .binary (.leaf word) trivial operandConventional (operandBinds _)
      · intro priority below _
        exact below
  | bracketed conventional _ =>
      rw [Tree.append]
      constructor
      · exact
          .binary (.bracketed conventional) trivial operandConventional
            (operandBinds _)
      · intro priority below _
        exact below
  | @binary left right root onLeft leftBinds onRight rightBinds _ hypothesis =>
      rw [Tree.append]
      split
      · rename_i looser
        constructor
        · exact
            .binary (.binary onLeft leftBinds onRight rightBinds) looser
              operandConventional (operandBinds _)
        · intro priority below _
          exact below
      · rename_i tighter
        rcases hypothesis with ⟨deeper, keeps⟩
        constructor
        · exact
            .binary onLeft leftBinds deeper
              (keeps _ (Nat.lt_of_not_le tighter) rightBinds)
        · intro priority _ binds
          exact binds

end Tree

mutual

/-- The tree of a chain is conventional. -/
theorem Expression.conventional_tree :
    (expression : Expression) → expression.tree.Conventional
  | .single operand => by
      rw [Expression.tree]
      exact operand.conventional_tree
  | .link before operator operand => by
      rw [Expression.tree]
      exact
        ((Expression.conventional_tree before).append
          operand.conventional_tree operand.binds_tree).1

theorem Operand.conventional_tree :
    (operand : Operand Word) → operand.tree.Conventional
  | .atom word => by
      rw [Operand.tree]
      exact .leaf word
  | .group body => by
      rw [Operand.tree]
      exact .bracketed (Expression.conventional_tree body)

end

/-! ## The chain of a tree -/

/-- Two chains joined by an operator. -/
def Chain.join
    {α : Type}
    (left : Chain α)
    (operator : Operator) :
    (right : Chain α) → Chain α
  | .single operand => .link left operator operand
  | .link before next operand =>
      .link (left.join operator before) next operand

/-- Every operator of the chain, those in groups left out, has at least the given priority. -/
def Chain.AllBind {α : Type} (priority : Nat) : Chain α → Prop
  | .single _ => True
  | .link before operator _ =>
      before.AllBind priority ∧ priority ≤ operator.priority

theorem Chain.AllBind.weaken
    {α : Type}
    {chain : Chain α}
    {priority other : Nat}
    (allBind : chain.AllBind priority)
    (below : other ≤ priority) :
    chain.AllBind other := by
  match chain, allBind with
  | .single _, _ => trivial
  | .link _ _ _, ⟨before, last⟩ =>
      exact ⟨before.weaken below, Nat.le_trans below last⟩

theorem Chain.AllBind.join
    {α : Type}
    {left right : Chain α}
    {operator : Operator}
    {priority : Nat}
    (onLeft : left.AllBind priority)
    (binds : priority ≤ operator.priority)
    (onRight : right.AllBind priority) :
    (left.join operator right).AllBind priority := by
  match right, onRight with
  | .single _, _ => exact ⟨onLeft, binds⟩
  | .link _ _ _, ⟨before, last⟩ => exact ⟨onLeft.join binds before, last⟩

theorem Expression.text_join
    (left : Expression)
    (operator : Operator) :
    (right : Expression) →
    Expression.text (left.join operator right) =
      left.text ++ operator.symbol :: right.text
  | .single operand => by
      rw [Chain.join, Expression.text_link, Expression.text_single]
  | .link before next operand => by
      rw [Chain.join, Expression.text_link, Expression.text_join left operator before,
        Expression.text_link, List.append_assoc, List.cons_append]

namespace Tree

/-- The flat chain of a tree. -/
def chain : Tree → Expression
  | .leaf word => .single (.atom word)
  | .bracketed inner => .single (.group inner.chain)
  | .binary left operator right => left.chain.join operator right.chain

/-- A tree has the text of its chain. -/
theorem text_chain
    (tree : Tree) :
    tree.chain.text = tree.text := by
  induction tree with
  | leaf word => rw [chain, Expression.text_single, Operand.text_atom, text]
  | bracketed inner hypothesis =>
      rw [chain, Expression.text_single, Operand.text_group, hypothesis, text]
  | binary left operator right onLeft onRight =>
      rw [chain, Expression.text_join, onLeft, onRight, text]

/-- In a conventional tree no operator outside of brackets is looser than the one at the root. -/
theorem Conventional.allBind_chain
    {tree : Tree}
    {priority : Nat}
    (conventional : tree.Conventional)
    (binds : tree.Binds priority) :
    tree.chain.AllBind priority := by
  induction conventional generalizing priority with
  | leaf word => trivial
  | bracketed _ _ => trivial
  | @binary left right operator _ leftBinds _ rightBinds onLeft onRight =>
      have rootBinds : priority ≤ operator.priority := binds
      exact
        ((onLeft leftBinds).weaken rootBinds).join rootBinds
          ((onRight rightBinds).weaken (Nat.le_succ_of_le rootBinds))

end Tree

/-- The tree of two chains, the right one of which is tighter than the operator between them. -/
theorem Expression.tree_join
    {left : Expression}
    {operator : Operator}
    (leftBinds : left.tree.Binds operator.priority) :
    {right : Expression} →
    right.AllBind (operator.priority + 1) →
    Expression.tree (left.join operator right) =
      .binary left.tree operator right.tree
  | .single operand, _ => by
      rw [Chain.join, Expression.tree, Expression.tree]
      cases root : left.tree with
      | leaf word => rw [Tree.append]
      | bracketed inner => rw [Tree.append]
      | binary first rootOperator second =>
          rw [root] at leftBinds
          have looser : operator.priority ≤ rootOperator.priority := leftBinds
          rw [Tree.append, if_pos looser]
  | .link before next operand, ⟨allBefore, tighter⟩ => by
      rw [Chain.join, Expression.tree, Expression.tree_join leftBinds allBefore,
        Tree.append, if_neg (Nat.not_le_of_lt tighter), Expression.tree]

namespace Tree

/-- A conventional tree is the tree of its chain. -/
theorem Conventional.tree_chain
    {tree : Tree}
    (conventional : tree.Conventional) :
    tree.chain.tree = tree := by
  induction conventional with
  | leaf word => rw [chain, Expression.tree, Operand.tree]
  | bracketed _ hypothesis =>
      rw [chain, Expression.tree, Operand.tree, hypothesis]
  | binary _ leftBinds rightConventional rightBinds onLeft onRight =>
      rw [← onLeft] at leftBinds
      rw [chain,
        Expression.tree_join leftBinds (rightConventional.allBind_chain rightBinds),
        onLeft, onRight]

/-- No text has two conventional trees. -/
theorem eq_of_text_eq
    {first second : Tree}
    (firstConventional : first.Conventional)
    (secondConventional : second.Conventional)
    (same : first.text = second.text) :
    first = second := by
  rw [← text_chain, ← text_chain] at same
  rw [← firstConventional.tree_chain, ← secondConventional.tree_chain,
    Expression.text_injective same]

end Tree

/-- Appending to a tree appends to its chain. -/
theorem Tree.chain_append
    (tree : Tree)
    (operator : Operator)
    (operand : Operand Word)
    (single : operand.tree.chain = .single operand) :
    (tree.append operator operand.tree).chain =
      .link tree.chain operator operand := by
  induction tree with
  | leaf word => rw [append, chain, chain, single, Chain.join, chain]
  | bracketed inner _ => rw [append, chain, chain, single, Chain.join, chain]
  | binary left root right _ hypothesis =>
      rw [append]
      split
      · rw [chain, single, Chain.join]
      · rw [chain, hypothesis, Chain.join, chain]

mutual

/-- The chain of the tree of a chain is that chain again. -/
theorem Expression.chain_tree :
    (expression : Expression) → expression.tree.chain = expression
  | .single operand => by
      rw [Expression.tree, operand.chain_tree]
  | .link before operator operand => by
      rw [Expression.tree,
        Tree.chain_append _ operator operand operand.chain_tree,
        Expression.chain_tree before]

theorem Operand.chain_tree :
    (operand : Operand Word) → operand.tree.chain = .single operand
  | .atom word => by
      rw [Operand.tree, Tree.chain]
  | .group body => by
      rw [Operand.tree, Tree.chain, Expression.chain_tree body]

end

/-- The tree of a chain has the text of the chain. -/
theorem Expression.text_tree
    (expression : Expression) :
    expression.tree.text = expression.text := by
  rw [← Tree.text_chain, Expression.chain_tree]

end Formulary
