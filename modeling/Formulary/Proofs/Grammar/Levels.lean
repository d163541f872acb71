import Formulary.Proofs.Formula.Reading
import Formulary.Proofs.Grammar.Unambiguity

/-!
# The bracket levels of a text

A bracket level of a text is what stands between a pair of brackets, or in
the whole text, but not in a pair of brackets inside of it.
`operatorLevels` lists the operators of every level.  In the text of a syntax
tree the levels are the chains of the tree: `operatorLevels_text`.
-/

namespace Formulary

/--
The operators of the bracket levels of a text, each level when its closing
bracket or the end of the text is reached.  The operators of the current
level and of those around it have been collected up to here.
-/
def collectLevels :
    (text : List Char) →
    (current : List Operator) →
    (around : List (List Operator)) →
    List (List Operator)
  | [], current, around => current :: around
  | '(' :: rest, current, around => collectLevels rest [] (current :: around)
  | ')' :: rest, current, around =>
      current :: collectLevels rest (around.headD []) around.tail
  | character :: rest, current, around =>
      match Operator.ofChar? character with
      | some operator => collectLevels rest (current ++ [operator]) around
      | none => collectLevels rest current around

/-- The operators of the bracket levels of a text, those of the whole text at the end. -/
def operatorLevels (text : List Char) : List (List Operator) :=
  collectLevels text [] []

theorem collectLevels_operator
    (operator : Operator)
    (rest : List Char)
    (current : List Operator)
    (around : List (List Operator)) :
    collectLevels (operator.symbol :: rest) current around =
      collectLevels rest (current ++ [operator]) around := by
  cases operator <;> rfl

/-- The characters of a word belong to no operator and no bracket. -/
theorem collectLevels_word
    {word : List Char}
    (inWord : ∀ character ∈ word, isWordCharacter character = true)
    (rest : List Char)
    (current : List Operator)
    (around : List (List Operator)) :
    collectLevels (word ++ rest) current around =
      collectLevels rest current around := by
  induction word with
  | nil => rfl
  | cons character word hypothesis =>
      have accepted := inWord character List.mem_cons_self
      have noOperator : Operator.ofChar? character = none := by
        cases found : Operator.ofChar? character with
        | none => rfl
        | some operator =>
            rw [← Operator.symbol_of_ofChar? found,
              operator.isWordCharacter_symbol] at accepted
            cases accepted
      rw [List.cons_append, collectLevels, noOperator]
      · exact
          hypothesis fun other member =>
            inWord other (List.mem_cons_of_mem _ member)
      · rintro rfl
        cases accepted
      · rintro rfl
        cases accepted

mutual

/-- The levels inside a syntax tree are collected, and then its operators are those of the level around. -/
theorem Expression.collectLevels_append
    {rest : List Char}
    {around : List (List Operator)} :
    (expression : Expression) →
    (current : List Operator) →
    collectLevels (Expression.text expression ++ rest) current around =
      (Chain.inner expression).map Chain.operators ++
        collectLevels rest (current ++ Chain.operators expression) around
  | .single operand, current => by
      rw [Expression.text_single, Chain.inner, Chain.operators_single,
        List.append_nil, Operand.collectLevels_append operand current]
  | .link before operator operand, current => by
      rw [Expression.text_link, Chain.inner, Chain.operators_link,
        List.append_assoc, List.cons_append,
        Expression.collectLevels_append before current,
        collectLevels_operator, Operand.collectLevels_append operand,
        List.map_append, List.append_assoc, List.append_assoc]

theorem Operand.collectLevels_append
    {rest : List Char}
    {around : List (List Operator)} :
    (operand : Operand Word) →
    (current : List Operator) →
    collectLevels (operand.text ++ rest) current around =
      operand.inner.map Chain.operators ++ collectLevels rest current around
  | .atom word, current => by
      rw [Operand.text_atom, Operand.inner,
        collectLevels_word word.isWordCharacter_of_mem]
      rfl
  | .group body, current => by
      rw [Operand.text_group, Operand.inner, List.cons_append,
        List.append_assoc, List.singleton_append, collectLevels,
        Expression.collectLevels_append body [], collectLevels,
        List.map_append, List.append_assoc]
      rfl

end

/-- The levels of the text of a syntax tree are the operators of its chains. -/
theorem Expression.operatorLevels_text
    (expression : Expression) :
    operatorLevels expression.text =
      (expression.inner ++ [expression]).map Chain.operators := by
  rw [operatorLevels, ← List.append_nil expression.text,
    expression.collectLevels_append, List.nil_append, collectLevels,
    List.map_append, List.map_singleton]

end Formulary
