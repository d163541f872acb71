import Formulary.Proofs.Grammar.Readability

/-!
# Unambiguity of the grammar

A text has at most one syntax tree.  Words are rows of word characters without
a sign, and no two of them have the same text; so what holds of the text of
chains in general holds of syntax trees.
-/

namespace Formulary

/-! ## Word characters -/

/-- The characters of a word, of which there is at least one, are word characters. -/
theorem Word.isWordCharacter_of_mem
    (word : Word) :
    ∀ character ∈ word.text, isWordCharacter character = true := by
  intro character member
  cases word with
  | numeral text shape =>
      rcases shape with ⟨digit, others⟩
      rcases List.mem_cons.1 member with same | later
      · simp [isWordCharacter, same, digit]
      · have other := others character later
        simp only [Bool.or_eq_true] at other
        rcases other with digit | point
        · simp [isWordCharacter, digit]
        · simp [isWordCharacter, point]
  | name text shape =>
      rcases shape with ⟨letter, others, final⟩
      rcases List.mem_cons.1 member with same | later
      · simp [isWordCharacter, same, letter]
      · rcases List.mem_append.1 later with early | late
        · simp [isWordCharacter, others character early]
        · simp [isWordCharacter, final character late]

theorem Word.text_ne_nil (word : Word) : word.text ≠ [] := by
  cases word with
  | numeral text shape =>
      rcases shape with ⟨digit, others⟩
      exact List.cons_ne_nil _ _
  | name text shape =>
      rcases shape with ⟨letter, others, final⟩
      exact List.cons_ne_nil _ _

theorem Operand.text_ne_nil (operand : Operand Word) : operand.text ≠ [] := by
  cases operand with
  | atom word =>
      rw [Operand.text_atom]
      exact word.text_ne_nil
  | group body =>
      rw [Operand.text_group]
      exact List.cons_ne_nil _ _

theorem Expression.text_ne_nil (expression : Expression) : expression.text ≠ [] := by
  cases expression with
  | single operand =>
      rw [Expression.text_single]
      exact operand.text_ne_nil
  | link before operator operand =>
      rw [Expression.text_link]
      exact List.append_ne_nil_of_right_ne_nil _ (List.cons_ne_nil _ _)

/-- A digit is no letter, so the first character tells numerals from names. -/
theorem isAlpha_of_isDigit
    {character : Char}
    (digit : character.isDigit = true) :
    character.isAlpha = false := by
  rw [Bool.eq_false_iff]
  intro letter
  have low : character.val ≤ 57 :=
    decide_eq_true_iff.1 (Bool.and_eq_true_iff.1 digit).2
  rw [UInt32.le_iff_toNat_le] at low
  rcases Bool.or_eq_true_iff.1 letter with upper | lower
  · have least : 65 ≤ character.val :=
      (decide_eq_true_iff.1 upper).1
    rw [UInt32.le_iff_toNat_le] at least
    exact absurd (Nat.le_trans least low) (by decide)
  · have least : 97 ≤ character.val :=
      decide_eq_true_iff.1 (Bool.and_eq_true_iff.1 lower).1
    rw [UInt32.le_iff_toNat_le] at least
    exact absurd (Nat.le_trans least low) (by decide)

theorem isDigit_of_isAlpha
    {character : Char}
    (letter : character.isAlpha = true) :
    character.isDigit = false := by
  rw [Bool.eq_false_iff]
  intro digit
  rw [isAlpha_of_isDigit digit] at letter
  exact Bool.false_ne_true letter

/-- Words with the same characters are equal. -/
theorem Word.text_injective : Function.Injective Word.text := by
  intro left right equal
  cases left with
  | numeral leftText leftShape =>
      cases right with
      | numeral rightText rightShape =>
          have same : leftText = rightText := equal
          subst same
          rfl
      | name rightText rightShape =>
          have same : leftText = rightText := equal
          subst same
          rcases leftShape with ⟨digit, _⟩
          rcases rightShape with ⟨letter, _, _⟩
          rw [isAlpha_of_isDigit digit] at letter
          exact absurd letter Bool.false_ne_true
  | name leftText leftShape =>
      cases right with
      | numeral rightText rightShape =>
          have same : leftText = rightText := equal
          subst same
          rcases rightShape with ⟨digit, _⟩
          rcases leftShape with ⟨letter, _, _⟩
          rw [isAlpha_of_isDigit digit] at letter
          exact absurd letter Bool.false_ne_true
      | name rightText rightShape =>
          have same : leftText = rightText := equal
          subst same
          rfl

/-- The texts of words are rows, which tell the words apart. -/
theorem Word.legible : Legible Word.text id where
  exists_row word :=
    ⟨[], word.text, rfl, .none,
      isRow_of_word word.text_ne_nil word.isWordCharacter_of_mem⟩
  key_eq equal := Word.text_injective equal

/-- A text has at most one syntax tree. -/
theorem Expression.text_injective : Function.Injective Expression.text := by
  intro left right equal
  have same := Chain.map_key_eq_of_spell_eq Word.legible equal
  rw [Chain.map_id, Chain.map_id] at same
  exact same

end Formulary
