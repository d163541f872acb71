import Formulary.Formula.Evaluation
import Formulary.Proofs.Formula.Mapping

/-!
# Evaluation by frames and by recursion

A frame stands for the value that its steps come to, where a group has its
value by recursion: `Frame.value`.  Advancing a frame keeps that value, if the
group it meets is taken for known.  So evaluating a frame in front of
suspended ones hands its value to the first of them, the value of that one to
the next, and so on: `runFrames_eq`.

`evaluate_eq_recursion` says what this comes to for a formula.
-/

namespace Formulary

variable {α : Type}

/-! ## Steps -/

/-- The steps of a chain are its operands, each behind the operator in front of it. -/
theorem Chain.stepsBefore_zip
    (chain : Chain α)
    (operators : List Operator)
    (operands : List (Operand α)) :
    chain.stepsBefore (operators.zip operands) =
      (.add :: chain.operatorsBefore operators).zip
        (chain.operandsBefore operands) := by
  induction chain generalizing operators operands with
  | single operand => rfl
  | link before operator operand hypothesis =>
      exact hypothesis (operator :: operators) (operand :: operands)

/-- An atom has its value as an operand. -/
theorem Atom.evaluateRecursive
    (arguments : List Number)
    (atom : Atom) :
    (Operand.atom atom).evaluateRecursive arguments = atom.value arguments := by
  match atom with
  | .literal number => rfl
  | .variable index =>
      rw [Operand.evaluateRecursive, Atom.value]
      cases arguments[index]? <;> rfl

variable (arguments : List Number)

/-- The running value behind a step, where the operand has its value by recursion. -/
def combine (total : Number) (step : Step Atom) : Number :=
  step.1.apply total (step.2.evaluateRecursive arguments)

/-- The steps of a chain combine to its value by recursion, and those behind them go on from there. -/
theorem Chain.foldl_stepsBefore
    (chain : Chain Atom)
    (collected : List (Step Atom)) :
    (chain.stepsBefore collected).foldl (combine arguments) Number.zero =
      collected.foldl (combine arguments)
        (Formula.evaluateRecursive arguments chain) := by
  induction chain generalizing collected with
  | single operand => rfl
  | link before operator operand hypothesis =>
      exact hypothesis ((operator, operand) :: collected)

/-! ## The value of a frame -/

namespace Frame

/-- The value that the steps of a frame come to. -/
def value (frame : Frame) : Number :=
  match frame.pending, frame.steps with
  | some value, (operator, _) :: steps =>
      steps.foldl (combine arguments) (operator.apply frame.total value)
  | _, steps => steps.foldl (combine arguments) frame.total

theorem value_start
    (formula : Formula) :
    (start formula).value arguments = formula.evaluateRecursive arguments :=
  Chain.foldl_stepsBefore arguments formula []

variable {arguments}

/-- A step whose operand is an atom makes no difference to the value of a frame. -/
theorem value_atom
    (total : Number)
    (operator : Operator)
    (atom : Atom)
    (steps : List (Step Atom)) :
    (Frame.mk total ((operator, .atom atom) :: steps) none).value arguments =
      (Frame.mk (operator.apply total (atom.value arguments)) steps none).value
        arguments := by
  simp only [value, List.foldl_cons, combine, Atom.evaluateRecursive]

/-- A frame that waits for a group has the value of the frame before, as soon as it gets that of the group. -/
theorem value_of_advanceFrom_some
    {total : Number}
    {pending : Option Number}
    {steps : List (Step Atom)}
    {waiting : Frame}
    {body : Formula}
    (met :
      advanceFrom arguments total pending steps = (waiting, some body)) :
    (waiting.resume (body.evaluateRecursive arguments)).value arguments =
      (Frame.mk total steps pending).value arguments := by
  induction steps generalizing total pending with
  | nil => cases pending <;> cases met
  | cons step steps hypothesis =>
      rcases step with ⟨operator, operand⟩
      cases pending with
      | some value => exact hypothesis met
      | none =>
          cases operand with
          | atom atom => exact (hypothesis met).trans (value_atom ..).symm
          | group body =>
              cases met
              rfl

/-- A frame that has no step left has its value as its total. -/
theorem total_of_advanceFrom_none
    {total : Number}
    {pending : Option Number}
    {steps : List (Step Atom)}
    {done : Frame}
    (met : advanceFrom arguments total pending steps = (done, none)) :
    done.total = (Frame.mk total steps pending).value arguments := by
  induction steps generalizing total pending with
  | nil => cases pending <;> cases met <;> rfl
  | cons step steps hypothesis =>
      rcases step with ⟨operator, operand⟩
      cases pending with
      | some value => exact hypothesis met
      | none =>
          cases operand with
          | atom atom => exact (hypothesis met).trans (value_atom ..).symm
          | group body => cases met

end Frame

/-! ## The run -/

/-- Each suspended frame takes over the value of what is evaluated in front of it. -/
theorem runFrames_eq
    (frame : Frame)
    (suspended : List Frame) :
    runFrames arguments frame suspended =
      suspended.foldl
        (fun value parent => (parent.resume value).value arguments)
        (frame.value arguments) := by
  fun_induction runFrames arguments frame suspended with
  | case1 frame suspended waiting body met smaller hypothesis =>
      rw [hypothesis, List.foldl_cons, Frame.value_start,
        Frame.value_of_advanceFrom_some met]
  | case2 frame done met parent suspended smaller hypothesis =>
      rw [hypothesis, List.foldl_cons, Frame.total_of_advanceFrom_none met]
  | case3 frame done met =>
      rw [Frame.total_of_advanceFrom_none met, List.foldl_nil]

/-- The stack of frames and the recursion give every formula the same value. -/
theorem Formula.evaluate_eq_evaluateRecursive
    (formula : Formula) :
    formula.evaluate arguments = formula.evaluateRecursive arguments := by
  rw [Formula.evaluate, runFrames_eq, Frame.value_start, List.foldl_nil]

/--
The stack of frames computes the recursive fold: the value of a formula is
that of the recursion, which begins with zero, adds the first operand and
combines every other one by the operator in front of it, from left to right.
-/
theorem evaluate_eq_recursion
    (formula : Formula) :
    formula.evaluate arguments = formula.evaluateRecursive arguments ∧
      formula.evaluate arguments =
        ((Operator.add :: formula.operators).zip formula.operands).foldl
          (fun total step =>
            step.1.apply total (step.2.evaluateRecursive arguments))
          Number.zero := by
  have recursion := formula.evaluate_eq_evaluateRecursive arguments
  refine ⟨recursion, recursion.trans ?_⟩
  have steps := Chain.stepsBefore_zip formula [] []
  have folded := Chain.foldl_stepsBefore arguments formula []
  rw [List.zip_nil_left] at steps
  rw [steps, List.foldl_nil] at folded
  exact folded.symm

end Formulary
