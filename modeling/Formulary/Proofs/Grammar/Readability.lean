import Formulary.Proofs.Formula.Mapping

/-!
# Reading a chain back from its text

The text of a chain tells its operators, its groups and the spellings of its
atoms, if an atom is spelled with characters that are no operators and no
brackets.  A minus sign may stand in front of them.

The proof reads two equal texts from their ends.  The last atom of a text is
the longest row of operand characters there, and a closing bracket at the end
belongs to a group.  What stands in front of an operand is empty or ends in an
opening bracket or an operator, and in front of an operator stands an operand.
So a minus in front of a row is a sign exactly if it stands where an operand
begins.
-/

namespace Formulary

/-! ## Characters of operands -/

/-- A letter, a digit or a point. -/
def isWordCharacter (character : Char) : Bool :=
  character.isAlpha || character.isDigit || character == '.'

theorem Operator.isWordCharacter_symbol
    (operator : Operator) :
    isWordCharacter operator.symbol = false := by
  cases operator <;> decide

/-- A character of a word, or the mark of a variable without a name. -/
def isOperandCharacter (character : Char) : Bool :=
  isWordCharacter character || character == '$'

theorem isOperandCharacter_of_isWordCharacter
    {character : Char}
    (inWord : isWordCharacter character = true) :
    isOperandCharacter character = true := by
  rw [isOperandCharacter, inWord, Bool.true_or]

theorem Operator.isOperandCharacter_symbol
    (operator : Operator) :
    isOperandCharacter operator.symbol = false := by
  cases operator <;> decide

/-- No sign, or a minus. -/
inductive IsSign : List Char → Prop where
  | none : IsSign []
  | minus : IsSign ['-']

/-- A row of operand characters, of which there is at least one. -/
structure IsRow (row : List Char) : Prop where
  nonempty : row ≠ []
  accepted : ∀ character ∈ row, isOperandCharacter character = true

/-- Word characters make a row, if there is at least one. -/
theorem isRow_of_word
    {row : List Char}
    (nonempty : row ≠ [])
    (inWord : ∀ character ∈ row, isWordCharacter character = true) :
    IsRow row where
  nonempty := nonempty
  accepted character member :=
    isOperandCharacter_of_isWordCharacter (inWord character member)

/-- A row ends in an operand character. -/
theorem IsRow.exists_append
    {row : List Char}
    (isRow : IsRow row) :
    ∃ front last, row = front ++ [last] ∧ isOperandCharacter last = true := by
  rcases List.eq_nil_or_concat row with empty | ⟨front, last, equal⟩
  · exact absurd empty isRow.nonempty
  · rw [List.concat_eq_append] at equal
    refine ⟨front, last, equal, isRow.accepted last ?_⟩
    rw [equal]
    exact List.mem_append_right front (List.mem_singleton_self last)

/-- Atoms are spelled with a sign or none and a row, and spelled alike only if they have the same key. -/
structure Legible {α κ : Type} (spelling : α → List Char) (key : α → κ) : Prop where
  exists_row :
    ∀ value,
      ∃ sign row, spelling value = sign ++ row ∧ IsSign sign ∧ IsRow row
  key_eq :
    ∀ {left right : α}, spelling left = spelling right → key left = key right

/-! ## Rows at the end of a text -/

/-- The characters do not end in an operand character. -/
def StopsRow (before : List Char) : Prop :=
  ∀ character, before.getLast? = some character →
    isOperandCharacter character = false

theorem stopsRow_nil : StopsRow [] := by
  intro character last
  cases last

theorem stopsRow_concat
    (before : List Char)
    {character : Char}
    (other : isOperandCharacter character = false) :
    StopsRow (before ++ [character]) := by
  intro last equal
  rw [List.getLast?_concat, Option.some.injEq] at equal
  rw [← equal]
  exact other

/-- Nothing of a row belongs to what stands in front of it. -/
theorem StopsRow.eq_nil
    {before middle rest : List Char}
    (stops : StopsRow (before ++ middle))
    (row :
      ∀ character ∈ middle ++ rest, isOperandCharacter character = true) :
    middle = [] := by
  rcases List.eq_nil_or_concat middle with empty | ⟨front, last, equal⟩
  · exact empty
  · rw [List.concat_eq_append] at equal
    subst equal
    have inside : isOperandCharacter last = true := by
      apply row last
      rw [List.append_assoc]
      exact List.mem_append_right front List.mem_cons_self
    have outside : isOperandCharacter last = false := by
      apply stops last
      rw [← List.append_assoc, List.getLast?_concat]
    rw [inside] at outside
    cases outside

/-- The last row of a text is the longest one at its end. -/
theorem append_row_inj
    {left right leftRow rightRow : List Char}
    (leftStops : StopsRow left)
    (rightStops : StopsRow right)
    (isLeft : IsRow leftRow)
    (isRight : IsRow rightRow)
    (equal : left ++ leftRow = right ++ rightRow) :
    left = right ∧ leftRow = rightRow := by
  rcases List.append_eq_append_iff.1 equal with
    ⟨middle, rightEq, leftEq⟩ | ⟨middle, leftEq, rightEq⟩
  · rw [rightEq] at rightStops
    have empty := rightStops.eq_nil (leftEq ▸ isLeft.accepted)
    rw [empty, List.append_nil] at rightEq
    rw [empty, List.nil_append] at leftEq
    exact ⟨rightEq.symm, leftEq⟩
  · rw [leftEq] at leftStops
    have empty := leftStops.eq_nil (rightEq ▸ isRight.accepted)
    rw [empty, List.append_nil] at leftEq
    rw [empty, List.nil_append] at rightEq
    exact ⟨leftEq, rightEq.symm⟩

/-! ## What stands in front of an operand -/

/-- What stands in front of an expression: nothing, or an opening bracket at the end. -/
def OpensExpression (before : List Char) : Prop :=
  before = [] ∨ ∃ front, before = front ++ ['(']

/-- The characters end as an operand does: in an operand character or a closing bracket. -/
inductive EndsOperand : List Char → Prop where
  | row
      (front : List Char)
      {last : Char}
      (accepted : isOperandCharacter last = true) :
      EndsOperand (front ++ [last])
  | group (front : List Char) : EndsOperand (front ++ [')'])

/-- What stands in front of an operand: that of its expression, or an operand and an operator. -/
inductive FrontsOperand : List Char → Prop where
  | opens
      {before : List Char}
      (opens : OpensExpression before) :
      FrontsOperand before
  | operator
      {before : List Char}
      (ends : EndsOperand before)
      (operator : Operator) :
      FrontsOperand (before ++ [operator.symbol])

theorem IsRow.endsOperand
    {row : List Char}
    (isRow : IsRow row)
    (front : List Char) :
    EndsOperand (front ++ row) := by
  rcases isRow.exists_append with ⟨start, last, rfl, accepted⟩
  rw [← List.append_assoc]
  exact .row _ accepted

/-- An operator does not open an expression. -/
theorem not_opensExpression_concat
    (before : List Char)
    (operator : Operator) :
    ¬OpensExpression (before ++ [operator.symbol]) := by
  rintro (empty | ⟨front, equal⟩)
  · exact List.append_ne_nil_of_right_ne_nil _ (List.cons_ne_nil _ _) empty
  · have same : operator.symbol = '(' :=
      List.singleton_inj.1 (List.append_inj' equal rfl).2
    cases operator <;> exact absurd same (by decide)

/-- What stands in front of an operand ends in no row. -/
theorem FrontsOperand.stopsRow
    {before : List Char}
    (fronts : FrontsOperand before) :
    StopsRow before := by
  cases fronts with
  | opens opens =>
      rcases opens with rfl | ⟨front, rfl⟩
      · exact stopsRow_nil
      · exact stopsRow_concat front (by decide)
  | operator ends operator =>
      exact stopsRow_concat _ operator.isOperandCharacter_symbol

/-- What stands in front of an operand does not end in one. -/
theorem FrontsOperand.not_endsOperand
    {before : List Char}
    (fronts : FrontsOperand before) :
    ¬EndsOperand before := by
  intro ends
  cases ends with
  | row front accepted =>
      have stopped := fronts.stopsRow _ List.getLast?_concat
      rw [accepted] at stopped
      cases stopped
  | group front =>
      generalize whole : front ++ [')'] = before at fronts
      cases fronts with
      | opens opens =>
          rcases opens with rfl | ⟨other, rfl⟩
          · exact
              List.append_ne_nil_of_right_ne_nil _ (List.cons_ne_nil _ _) whole
          · exact absurd (List.append_inj' whole rfl).2 (by decide)
      | operator ends operator =>
          have same : ')' = operator.symbol :=
            List.singleton_inj.1 (List.append_inj' whole rfl).2
          cases operator <;> exact absurd same (by decide)

/-- Where an operand begins, a minus is a sign and no operator. -/
theorem FrontsOperand.not_concat_minus
    {before : List Char}
    (fronts : FrontsOperand before) :
    ¬FrontsOperand (before ++ ['-']) := by
  intro further
  generalize whole : before ++ ['-'] = behind at further
  cases further with
  | opens opens =>
      rw [← whole] at opens
      exact not_opensExpression_concat before .subtract opens
  | operator ends operator =>
      rw [← (List.append_inj' whole rfl).1] at ends
      exact fronts.not_endsOperand ends

/-- In front of a row, the sign and what stands in front of it are unique. -/
theorem append_sign_inj
    {left right leftSign rightSign : List Char}
    (leftFronts : FrontsOperand left)
    (rightFronts : FrontsOperand right)
    (isLeft : IsSign leftSign)
    (isRight : IsSign rightSign)
    (equal : left ++ leftSign = right ++ rightSign) :
    left = right ∧ leftSign = rightSign := by
  cases isLeft with
  | none =>
      cases isRight with
      | none => exact List.append_inj' equal rfl
      | minus =>
          rw [List.append_nil] at equal
          rw [equal] at leftFronts
          exact absurd leftFronts rightFronts.not_concat_minus
  | minus =>
      cases isRight with
      | none =>
          rw [List.append_nil] at equal
          rw [← equal] at rightFronts
          exact absurd rightFronts leftFronts.not_concat_minus
      | minus => exact List.append_inj' equal rfl

theorem FrontsOperand.stopsRow_append
    {before sign : List Char}
    (fronts : FrontsOperand before)
    (isSign : IsSign sign) :
    StopsRow (before ++ sign) := by
  cases isSign with
  | none =>
      rw [List.append_nil]
      exact fronts.stopsRow
  | minus => exact stopsRow_concat before (by decide)

/-! ## Reading from the end -/

section

variable {α κ : Type} {spelling : α → List Char} {key : α → κ}
variable (legible : Legible spelling key)

include legible

/-- The spelling of the last atom of a text and what stands in front of it are unique. -/
theorem Legible.append_inj
    {left right : List Char}
    (leftFronts : FrontsOperand left)
    (rightFronts : FrontsOperand right)
    {leftValue rightValue : α}
    (equal : left ++ spelling leftValue = right ++ spelling rightValue) :
    left = right ∧ spelling leftValue = spelling rightValue := by
  rcases legible.exists_row leftValue with
    ⟨leftSign, leftRow, leftEq, isLeftSign, isLeftRow⟩
  rcases legible.exists_row rightValue with
    ⟨rightSign, rightRow, rightEq, isRightSign, isRightRow⟩
  rw [leftEq, rightEq, ← List.append_assoc, ← List.append_assoc] at equal
  rcases
      append_row_inj (leftFronts.stopsRow_append isLeftSign)
        (rightFronts.stopsRow_append isRightSign) isLeftRow isRightRow equal with
    ⟨sameFront, sameRow⟩
  rcases
      append_sign_inj leftFronts rightFronts isLeftSign isRightSign
        sameFront with
    ⟨same, sameSign⟩
  exact ⟨same, by rw [leftEq, rightEq, sameSign, sameRow]⟩

/-- A text that ends in an atom does not end in a closing bracket. -/
theorem Legible.append_ne_append_closing
    (left right : List Char)
    (value : α) :
    left ++ spelling value ≠ right ++ [')'] := by
  intro equal
  rcases legible.exists_row value with ⟨sign, row, spelled, _, isRow⟩
  rcases isRow.exists_append with ⟨front, last, rfl, accepted⟩
  rw [spelled, ← List.append_assoc, ← List.append_assoc] at equal
  have same : last = ')' :=
    List.singleton_inj.1 (List.append_inj' equal rfl).2
  rw [same] at accepted
  exact absurd accepted (by decide)

theorem Operand.endsOperand_spell
    (front : List Char)
    (operand : Operand α) :
    EndsOperand (front ++ operand.spell spelling) := by
  cases operand with
  | atom value =>
      rcases legible.exists_row value with ⟨sign, row, spelled, _, isRow⟩
      rw [Operand.spell, spelled, ← List.append_assoc]
      exact isRow.endsOperand _
  | group body =>
      rw [Operand.spell, ← List.cons_append, ← List.append_assoc]
      exact .group _

theorem Chain.endsOperand_spell
    (front : List Char)
    (chain : Chain α) :
    EndsOperand (front ++ chain.spell spelling) := by
  cases chain with
  | single operand =>
      rw [Chain.spell]
      exact operand.endsOperand_spell legible front
  | link before operator operand =>
      rw [Chain.spell, List.append_cons, ← List.append_assoc]
      exact operand.endsOperand_spell legible _

/-- In front of the last operand of a longer chain stand its other operands and an operator. -/
theorem Chain.frontsOperand_spell
    (front : List Char)
    (chain : Chain α)
    (operator : Operator) :
    FrontsOperand (front ++ chain.spell spelling ++ [operator.symbol]) :=
  .operator (chain.endsOperand_spell legible front) operator

mutual

/-- The last chain of a text, up to keys, and what stands in front of it are unique. -/
theorem Chain.append_spell_inj
    {left right : List Char}
    (leftOpens : OpensExpression left)
    (rightOpens : OpensExpression right) :
    (leftChain rightChain : Chain α) →
    left ++ leftChain.spell spelling = right ++ rightChain.spell spelling →
    left = right ∧ leftChain.map key = rightChain.map key
  | .single leftOperand, .single rightOperand, equal => by
      rw [Chain.spell, Chain.spell] at equal
      rcases
          Operand.append_spell_inj (.opens leftOpens) (.opens rightOpens)
            leftOperand rightOperand equal with
        ⟨sameFront, sameOperand⟩
      rw [Chain.map_single, Chain.map_single, sameOperand]
      exact ⟨sameFront, rfl⟩
  | .single leftOperand, .link before operator rightOperand, equal => by
      rw [Chain.spell, Chain.spell, ← List.append_assoc,
        List.append_cons] at equal
      have sameFront :=
        (Operand.append_spell_inj (.opens leftOpens)
          (before.frontsOperand_spell legible right operator)
          leftOperand rightOperand equal).1
      rw [sameFront] at leftOpens
      exact absurd leftOpens (not_opensExpression_concat _ operator)
  | .link before operator leftOperand, .single rightOperand, equal => by
      rw [Chain.spell, Chain.spell, ← List.append_assoc,
        List.append_cons] at equal
      have sameFront :=
        (Operand.append_spell_inj
          (before.frontsOperand_spell legible left operator)
          (.opens rightOpens) leftOperand rightOperand equal).1
      rw [← sameFront] at rightOpens
      exact absurd rightOpens (not_opensExpression_concat _ operator)
  | .link leftBefore leftOperator leftOperand,
    .link rightBefore rightOperator rightOperand, equal => by
      rw [Chain.spell, Chain.spell, ← List.append_assoc, ← List.append_assoc,
        List.append_cons, List.append_cons (right ++ _)] at equal
      rcases
          Operand.append_spell_inj
            (leftBefore.frontsOperand_spell legible left leftOperator)
            (rightBefore.frontsOperand_spell legible right rightOperator)
            leftOperand rightOperand equal with
        ⟨sameFront, sameOperand⟩
      rcases List.append_inj' sameFront rfl with ⟨sameBefore, sameSymbol⟩
      have sameOperator : leftOperator = rightOperator :=
        Operator.symbol_injective (List.singleton_inj.1 sameSymbol)
      rcases
          Chain.append_spell_inj leftOpens rightOpens leftBefore rightBefore
            sameBefore with
        ⟨same, sameChain⟩
      rw [Chain.map_link, Chain.map_link, sameChain, sameOperator, sameOperand]
      exact ⟨same, rfl⟩

/-- The last operand of a text, up to keys, and what stands in front of it are unique. -/
theorem Operand.append_spell_inj
    {left right : List Char}
    (leftFronts : FrontsOperand left)
    (rightFronts : FrontsOperand right) :
    (leftOperand rightOperand : Operand α) →
    left ++ leftOperand.spell spelling =
      right ++ rightOperand.spell spelling →
    left = right ∧ leftOperand.map key = rightOperand.map key
  | .atom leftValue, .atom rightValue, equal => by
      rw [Operand.spell, Operand.spell] at equal
      rcases legible.append_inj leftFronts rightFronts equal with
        ⟨sameFront, sameSpelling⟩
      rw [Operand.map_atom, Operand.map_atom, legible.key_eq sameSpelling]
      exact ⟨sameFront, rfl⟩
  | .atom leftValue, .group body, equal => by
      rw [Operand.spell, Operand.spell, ← List.cons_append,
        ← List.append_assoc] at equal
      exact absurd equal (legible.append_ne_append_closing _ _ leftValue)
  | .group body, .atom rightValue, equal => by
      rw [Operand.spell, Operand.spell, ← List.cons_append,
        ← List.append_assoc] at equal
      exact absurd equal.symm (legible.append_ne_append_closing _ _ rightValue)
  | .group leftBody, .group rightBody, equal => by
      rw [Operand.spell, Operand.spell, List.append_cons,
        List.append_cons right, ← List.append_assoc, ← List.append_assoc] at equal
      have sameInside := (List.append_inj' equal rfl).1
      rcases
          Chain.append_spell_inj (Or.inr ⟨left, rfl⟩) (Or.inr ⟨right, rfl⟩)
            leftBody rightBody sameInside with
        ⟨sameFront, sameBody⟩
      rw [Operand.map_group, Operand.map_group, sameBody]
      exact ⟨(List.append_inj' sameFront rfl).1, rfl⟩

end

/-- Chains with the same text have the same keys in the same places. -/
theorem Chain.map_key_eq_of_spell_eq
    {left right : Chain α}
    (equal : left.spell spelling = right.spell spelling) :
    left.map key = right.map key :=
  (Chain.append_spell_inj legible (Or.inl rfl) (Or.inl rfl) left right
    (congrArg ([] ++ ·) equal)).2

end

end Formulary
