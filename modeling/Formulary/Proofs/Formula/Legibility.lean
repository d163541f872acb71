import Mathlib.Logic.Function.Basic
import Formulary.Proofs.Formula.Equality
import Formulary.Proofs.Formula.Text
import Formulary.Proofs.Grammar.Readability
import Formulary.Proofs.Number.Encoding

/-!
# The text of a formula identifies it

Two formulas have one text exactly if they are equal.  A literal may have a
minus sign, but the sign stands where an operand begins, and a minus operator
behind an operand.  Infinities and not-a-number are written with letters, and
a variable with a mark that is in no number.

Equal numbers may have several scales or two signs of zero, and have one text
nevertheless; so a formula is identified up to equality and not more.
-/

namespace Formulary

/-! ## The text of atoms -/

/-- The text of a size is a row of word characters. -/
theorem Decimal.isWordCharacter_of_mem_sizeText
    {mantissa scale : Nat}
    {character : Char}
    (member : character ∈ sizeText mantissa scale) :
    isWordCharacter character = true := by
  rcases exists_cons_sizeText mantissa scale with
    ⟨first, rest, digits, isDigit, others⟩
  rw [digits] at member
  rcases List.mem_cons.1 member with rfl | behind
  · rw [isWordCharacter, isDigit, Bool.or_true, Bool.true_or]
  · rw [isWordCharacter, Bool.or_assoc, others character behind, Bool.or_true]

theorem Decimal.sizeText_ne_nil
    (mantissa scale : Nat) :
    sizeText mantissa scale ≠ [] := by
  rcases exists_cons_sizeText mantissa scale with ⟨first, rest, digits, _, _⟩
  rw [digits]
  exact List.cons_ne_nil first rest

/-- The text of a number has a sign or none and a row of word characters. -/
theorem Number.exists_text
    (number : Number) :
    ∃ sign row,
      number.text = sign ++ row ∧
        IsSign sign ∧
          row ≠ [] ∧ ∀ character ∈ row, isWordCharacter character = true := by
  match number with
  | .finite decimal =>
      have nonempty :=
        Decimal.sizeText_ne_nil decimal.normalize.mantissa
          decimal.normalize.scale
      have inWord :
          ∀ character ∈
              Decimal.sizeText decimal.normalize.mantissa
                decimal.normalize.scale,
            isWordCharacter character = true :=
        fun _ member => Decimal.isWordCharacter_of_mem_sizeText member
      by_cases below :
        (decimal.normalize.negative && !decimal.normalize.isZero) = true
      · exact ⟨['-'], _, if_pos below, .minus, nonempty, inWord⟩
      · exact ⟨[], _, if_neg below, .none, nonempty, inWord⟩
  | .infinite false =>
      exact
        ⟨[], "Infinity".toList, rfl, .none, by decide,
          List.all_eq_true.1 rfl⟩
  | .infinite true =>
      exact
        ⟨['-'], "Infinity".toList, rfl, .minus, by decide,
          List.all_eq_true.1 rfl⟩
  | .nan =>
      exact ⟨[], "NaN".toList, rfl, .none, by decide, List.all_eq_true.1 rfl⟩

/-- The mark of a variable without a name is in no number. -/
theorem Number.not_mem_text
    (number : Number) :
    '$' ∉ number.text := by
  rcases number.exists_text with ⟨sign, row, text, isSign, _, inWord⟩
  rw [text]
  intro member
  rcases List.mem_append.1 member with inSign | inRow
  · cases isSign with
    | none => exact absurd inSign List.not_mem_nil
    | minus => exact absurd (List.mem_singleton.1 inSign) (by decide)
  · exact absurd (inWord '$' inRow) (by decide)

namespace Formula

theorem atomText_literal
    (value : Number) :
    atomText [] (.literal value) = value.text :=
  rfl

theorem atomText_variable
    (index : Nat) :
    atomText [] (.variable index) = '$' :: Nat.toDigits 10 index :=
  rfl

/-- Atoms of one text have one key. -/
theorem key_eq_of_atomText_eq
    {left right : Atom}
    (same : atomText [] left = atomText [] right) :
    left.key = right.key := by
  match left, right with
  | .literal left, .literal right =>
      rw [Atom.key, Atom.key, Number.key_eq_of_text_eq same]
  | .literal left, .variable right =>
      rw [atomText_literal, atomText_variable] at same
      have marked : '$' ∈ left.text := by
        rw [same]
        exact List.mem_cons_self
      exact absurd marked left.not_mem_text
  | .variable left, .literal right =>
      rw [atomText_literal, atomText_variable] at same
      have marked : '$' ∈ right.text := by
        rw [← same]
        exact List.mem_cons_self
      exact absurd marked right.not_mem_text
  | .variable left, .variable right =>
      rw [atomText_variable, atomText_variable] at same
      have digits := congrArg numeralValue (List.cons.inj same).2
      rw [numeralValue_toDigits, numeralValue_toDigits] at digits
      rw [digits]

/-- Atoms of one key have one text. -/
theorem atomText_eq_of_key_eq
    {left right : Atom}
    (same : left.key = right.key) :
    atomText [] left = atomText [] right := by
  match left, right with
  | .literal left, .literal right =>
      exact Number.text_eq_of_key_eq (Atom.Key.literal.inj same)
  | .literal _, .variable _ => cases same
  | .variable _, .literal _ => cases same
  | .variable _, .variable _ => rw [Atom.Key.variable.inj same]

/-- The texts of atoms can be told apart in a row, up to keys. -/
theorem legible_atomText : Legible (atomText []) Atom.key where
  exists_row atom := by
    match atom with
    | .literal value =>
        rcases value.exists_text with
          ⟨sign, row, text, isSign, nonempty, inWord⟩
        exact ⟨sign, row, text, isSign, isRow_of_word nonempty inWord⟩
    | .variable index =>
        refine ⟨[], _, rfl, .none, List.cons_ne_nil _ _, ?_⟩
        intro character member
        rcases List.mem_cons.1 member with rfl | inDigits
        · rfl
        · apply isOperandCharacter_of_isWordCharacter
          rw [isWordCharacter, isDigit_of_mem_toDigits inDigits, Bool.or_true,
            Bool.true_or]
  key_eq := key_eq_of_atomText_eq

/-! ## The text of formulas -/

/-- Formulas with the same keys in the same places have one text. -/
theorem spell_eq_of_map_key_eq
    {left right : Formula}
    (same : left.map Atom.key = right.map Atom.key) :
    left.spell (atomText []) = right.spell (atomText []) := by
  have factors : (atomText []).FactorsThrough Atom.key :=
    fun _ _ => atomText_eq_of_key_eq
  rcases (Function.factorsThrough_iff _).1 factors with ⟨spelling, through⟩
  rw [through, ← Chain.spell_map, ← Chain.spell_map, same]

/--
Two formulas have the same text exactly if they are equal: the text of a
formula tells its operators, its groups and its atoms, whatever numbers its
literals are.
-/
theorem display_eq_iff
    (left right : Formula) :
    left.display = right.display ↔ (left == right) = true := by
  rw [beq_iff_map_key, display, displayWith, display, displayWith,
    String.ofList_inj, text_eq_spell, text_eq_spell]
  exact
    ⟨Chain.map_key_eq_of_spell_eq legible_atomText, spell_eq_of_map_key_eq⟩

end Formula

end Formulary
