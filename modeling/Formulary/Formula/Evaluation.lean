import Formulary.Formula.Steps

/-!
# Evaluating formulas

A chain is evaluated from left to right, beginning with zero: its first
operand is added to zero, and every other one is combined with the running
value by the operator in front of it.  A group has the value of its chain.

The evaluation keeps a stack of frames instead of calling itself.  A frame
that meets a group is suspended until a frame for the group is done, and then
takes the value of the group over.  `Formula.evaluateRecursive` states the
same value by recursion.
-/

namespace Formulary

/-! ## Frames -/

/-- A formula under evaluation. -/
structure Frame where
  /-- The value of the operands combined so far. -/
  total : Number
  /-- The steps that are left. -/
  steps : List (Step Atom)
  /-- The value of the group that the steps begin with, as soon as it is known. -/
  pending : Option Number

namespace Frame

/-- The frame of a formula before its first step. -/
def start (formula : Formula) : Frame :=
  ⟨Number.zero, formula.steps, none⟩

/-- The frame of which the group that its steps begin with has a value. -/
def resume (frame : Frame) (value : Number) : Frame :=
  { frame with pending := some value }

/--
Take steps up to a group whose value is not known.  The result is the frame
then, and the group, or nothing when no step is left.
-/
def advanceFrom
    (arguments : List Number)
    (total : Number) :
    (pending : Option Number) →
    (steps : List (Step Atom)) →
    Frame × Option Formula
  | pending, [] => (⟨total, [], pending⟩, none)
  | some value, (operator, _) :: steps =>
      advanceFrom arguments (operator.apply total value) none steps
  | none, (operator, .atom atom) :: steps =>
      advanceFrom arguments (operator.apply total (atom.value arguments)) none
        steps
  | none, (operator, .group body) :: steps =>
      (⟨total, (operator, .group body) :: steps, none⟩, some body)

/-- Take the steps of a frame up to a group whose value is not known. -/
def advance
    (arguments : List Number)
    (frame : Frame) :
    Frame × Option Formula :=
  advanceFrom arguments frame.total frame.pending frame.steps

/-- The work behind the operand that the steps of a frame begin with. -/
def weightBehind (frame : Frame) : Nat :=
  totalWeight stepWeight frame.steps.tail

/-- The work that a frame stands for. -/
def weight (frame : Frame) : Nat :=
  match frame.pending with
  | some _ => frame.weightBehind + 1
  | none => totalWeight stepWeight frame.steps + 1

/-- The work that a frame stands for while the group that it begins with is evaluated. -/
def suspendedWeight (frame : Frame) : Nat :=
  frame.weightBehind + 2

/-- A group and the frame that waits for it are less work than the frame was before. -/
theorem weight_of_advanceFrom
    {arguments : List Number}
    {total : Number}
    {pending : Option Number}
    {steps : List (Step Atom)}
    {frame : Frame}
    {body : Formula}
    (met : advanceFrom arguments total pending steps = (frame, some body)) :
    (start body).weight + frame.suspendedWeight <
      (Frame.mk total steps pending).weight := by
  induction steps generalizing total pending with
  | nil => cases pending <;> cases met
  | cons step steps hypothesis =>
      rcases step with ⟨operator, operand⟩
      cases pending with
      | some value =>
          have smaller := hypothesis met
          simp only [weight, weightBehind, List.tail_cons] at smaller ⊢
          exact smaller
      | none =>
          cases operand with
          | atom atom =>
              have smaller := hypothesis met
              simp only [weight, totalWeight_cons] at smaller ⊢
              omega
          | group body =>
              cases met
              have bound := body.totalWeight_stepsBefore []
              rw [totalWeight_nil, Nat.add_zero] at bound
              simp only [weight, start, suspendedWeight, weightBehind,
                Chain.steps, List.tail_cons, totalWeight_cons, stepWeight,
                Operand.weight]
              omega

theorem weight_of_advance
    {arguments : List Number}
    {frame waiting : Frame}
    {body : Formula}
    (met : frame.advance arguments = (waiting, some body)) :
    (start body).weight + waiting.suspendedWeight < frame.weight :=
  weight_of_advanceFrom met

/-- A frame that was waiting is less work once it is resumed. -/
theorem weight_resume
    (frame : Frame)
    (value : Number) :
    (frame.resume value).weight < frame.suspendedWeight :=
  Nat.lt_succ_self _

end Frame

/-! ## Evaluation -/

/-- Evaluate a frame and then the frames that are suspended, of which the first one waits for it. -/
def runFrames
    (arguments : List Number)
    (frame : Frame)
    (suspended : List Frame) :
    Number :=
  match met : frame.advance arguments with
  | (waiting, some body) =>
      have := Frame.weight_of_advance met
      runFrames arguments (.start body) (waiting :: suspended)
  | (done, none) =>
      match suspended with
      | parent :: suspended =>
          have := parent.weight_resume done.total
          runFrames arguments (parent.resume done.total) suspended
      | [] => done.total
termination_by frame.weight + totalWeight Frame.suspendedWeight suspended
decreasing_by
  all_goals
    simp only [totalWeight_cons]
    omega

/-- The value of a formula under an argument list. -/
def Formula.evaluate (formula : Formula) (arguments : List Number) : Number :=
  runFrames arguments (.start formula) []

/-! ## The value by recursion -/

mutual

/-- The value of a formula under an argument list, by recursion. -/
def Formula.evaluateRecursive (arguments : List Number) : Formula → Number
  | .single operand =>
      Operator.add.apply Number.zero (operand.evaluateRecursive arguments)
  | .link before operator operand =>
      operator.apply
        (Formula.evaluateRecursive arguments before)
        (operand.evaluateRecursive arguments)

/-- The value of an operand under an argument list, by recursion. -/
def Operand.evaluateRecursive (arguments : List Number) : Operand Atom → Number
  | .atom (.literal value) => value
  | .atom (.variable index) =>
      match arguments[index]? with
      | some value => value
      | none => .nan
  | .group body => Formula.evaluateRecursive arguments body

end

end Formulary
