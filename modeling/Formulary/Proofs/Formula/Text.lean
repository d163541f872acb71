import Formulary.Proofs.Formula.Mapping

/-!
# The text of a formula by recursion

The row of tokens is written without recursion on groups, from a stack of the
chains that have been begun.  What is left on the stack stands for a row of
tokens: the steps that are left of each chain, and the bracket that closes it
if there is a chain around it.  A chain of which nothing has been written
stands for the row that recursion gives.  So the text of a formula is its
spelling, where an atom is spelled by the parameter names.
-/

namespace Formulary

variable {α : Type}

/-! ## What is left to write -/

/-- The tokens of the steps that are left of a chain; the first operand of a chain has no operator in front. -/
def stepTokens (begun : Bool) : (steps : List (Step α)) → List (Token α)
  | [] => []
  | (operator, operand) :: steps =>
      (if begun then [.operator operator] else []) ++
        (operand.tokensRecursive ++ stepTokens true steps)

/-- The tokens that a stack stands for. -/
def stackTokens : (stack : List (Chain.Writing α)) → List (Token α)
  | [] => []
  | writing :: around =>
      stepTokens writing.begun writing.steps ++
        ((if around.isEmpty then [] else [.closing]) ++ stackTokens around)

/-- The steps of a chain stand for its tokens by recursion, and those behind them for what follows. -/
theorem Chain.stepTokens_stepsBefore
    (chain : Chain α)
    (collected : List (Step α)) :
    stepTokens false (chain.stepsBefore collected) =
      chain.tokensRecursive ++ stepTokens true collected := by
  induction chain generalizing collected with
  | single operand =>
      rw [Chain.stepsBefore, stepTokens, if_neg Bool.false_ne_true,
        List.nil_append, Chain.tokensRecursive]
  | link before operator operand hypothesis =>
      rw [Chain.stepsBefore, hypothesis, stepTokens, if_pos rfl,
        Chain.tokensRecursive, List.append_assoc, List.singleton_append,
        List.cons_append]

/-- A chain of which nothing has been written stands for its tokens by recursion. -/
theorem Chain.stepTokens_start
    (chain : Chain α) :
    stepTokens (Writing.start chain).begun (Writing.start chain).steps =
      chain.tokensRecursive := by
  have tokens := chain.stepTokens_stepsBefore []
  rw [stepTokens, List.append_nil] at tokens
  exact tokens

theorem Chain.reverse_writeOperator
    (begun : Bool)
    (operator : Operator)
    (written : List (Token α)) :
    (writeOperator begun operator written).reverse =
      written.reverse ++ if begun then [.operator operator] else [] := by
  cases begun with
  | true => exact List.reverse_cons
  | false => exact (List.append_nil _).symm

theorem Chain.reverse_writeClosing
    (around : List (Writing α))
    (written : List (Token α)) :
    (writeClosing around written).reverse =
      written.reverse ++ if around.isEmpty then [] else [.closing] := by
  cases around with
  | nil => exact (List.append_nil _).symm
  | cons writing around => exact List.reverse_cons

/-- What the stack stands for is written behind the tokens there already. -/
theorem Chain.reverse_write
    (stack : List (Writing α))
    (written : List (Token α)) :
    (write stack written).reverse = written.reverse ++ stackTokens stack := by
  fun_induction write stack written with
  | case1 written => exact (List.append_nil _).symm
  | case2 written begun around hypothesis =>
      rw [hypothesis, Chain.reverse_writeClosing, stackTokens, stepTokens,
        List.nil_append, List.append_assoc]
  | case3 written begun operator value steps around hypothesis =>
      rw [hypothesis, List.reverse_cons, Chain.reverse_writeOperator,
        stackTokens, stackTokens, stepTokens, Operand.tokensRecursive]
      simp only [List.append_assoc]
  | case4 written begun operator body steps around hypothesis =>
      rw [hypothesis, List.reverse_cons, Chain.reverse_writeOperator,
        stackTokens, stackTokens, stackTokens, stepTokens,
        Chain.stepTokens_start, Operand.tokensRecursive, List.isEmpty_cons,
        if_neg Bool.false_ne_true]
      simp only [List.append_assoc, List.cons_append, List.nil_append]

/-- The tokens of a chain are those that recursion gives. -/
theorem Chain.tokens_eq_tokensRecursive
    (chain : Chain α) :
    chain.tokens = chain.tokensRecursive := by
  rw [Chain.tokens, Chain.reverse_write, stackTokens, stackTokens,
    Chain.stepTokens_start, List.isEmpty_nil, if_pos rfl, List.append_nil,
    List.append_nil, List.reverse_nil, List.nil_append]

/-! ## The text of the tokens -/

mutual

/-- The text of the tokens of a chain is the spelling of the chain. -/
theorem Chain.flatMap_tokenText
    (names : List String) :
    (chain : Chain Atom) →
    chain.tokensRecursive.flatMap (Formula.tokenText names) =
      chain.spell (Formula.atomText names)
  | .single operand => by
      rw [Chain.tokensRecursive, Chain.spell,
        Operand.flatMap_tokenText names operand]
  | .link before operator operand => by
      rw [Chain.tokensRecursive, List.flatMap_append, List.flatMap_cons,
        Chain.flatMap_tokenText names before,
        Operand.flatMap_tokenText names operand, Chain.spell]
      rfl

/-- The text of the tokens of an operand is the spelling of the operand. -/
theorem Operand.flatMap_tokenText
    (names : List String) :
    (operand : Operand Atom) →
    operand.tokensRecursive.flatMap (Formula.tokenText names) =
      operand.spell (Formula.atomText names)
  | .atom value => by
      rw [Operand.tokensRecursive, List.flatMap_singleton, Operand.spell]
      rfl
  | .group body => by
      rw [Operand.tokensRecursive, List.cons_append, List.flatMap_cons,
        List.flatMap_append, Chain.flatMap_tokenText names body,
        List.flatMap_singleton, Operand.spell]
      rfl

end

/-- The text of a formula is its spelling by parameter names. -/
theorem Formula.text_eq_spell
    (formula : Formula)
    (names : List String) :
    formula.text names = formula.spell (atomText names) := by
  rw [text, Chain.tokens_eq_tokensRecursive, Chain.flatMap_tokenText]

end Formulary
