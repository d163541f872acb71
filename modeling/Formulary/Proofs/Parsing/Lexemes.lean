import Formulary.Proofs.Formula.Reading
import Formulary.Proofs.Parsing.Words

/-!
# The words and operators of a text

`lexemes` lists the numerals, names and operators of a text from left to
right and passes over everything else.  In the text of a syntax tree only
brackets are passed over, and the lexemes are the words and operators of the
tree in its reading: `lexemes_text`.
-/

namespace Formulary

/-- A digit or a point. -/
def isNumeralCharacter (character : Char) : Bool :=
  character.isDigit || character == '.'

/-- Neither an opening nor a closing bracket. -/
def isNoBracket (character : Char) : Bool :=
  character != '(' && character != ')'

/--
The numerals, names and operators of a text.  A numeral is a digit with the
digits and points behind it, a name is a letter with the letters and then the
digits behind it.
-/
def lexemes (text : List Char) : List (Lexeme (List Char)) :=
  match text with
  | [] => []
  | first :: rest =>
      if first.isDigit then
        .atom (first :: rest.takeWhile isNumeralCharacter) ::
          lexemes (rest.dropWhile isNumeralCharacter)
      else if first.isAlpha then
        let behind := rest.dropWhile Char.isAlpha
        .atom
            (first ::
              (rest.takeWhile Char.isAlpha ++ behind.takeWhile Char.isDigit)) ::
          lexemes (behind.dropWhile Char.isDigit)
      else
        match Operator.ofChar? first with
        | some operator => .operator operator :: lexemes rest
        | none => lexemes rest
termination_by text.length
decreasing_by
  · exact Nat.lt_succ_of_le (List.dropWhile_sublist _).length_le
  · exact
      Nat.lt_succ_of_le
        (Nat.le_trans (List.dropWhile_sublist _).length_le
          (List.dropWhile_sublist _).length_le)
  · exact Nat.lt_succ_self _
  · exact Nat.lt_succ_self _

@[simp]
theorem lexemes_nil : lexemes [] = [] := by
  rw [lexemes]

/-- The word at the beginning of a text is its first lexeme. -/
theorem lexemes_of_splitWord?
    {text rest : List Char}
    {word : Word}
    (found : splitWord? text = some (word, rest)) :
    lexemes text = .atom word.text :: lexemes rest := by
  cases text with
  | nil => cases found
  | cons first others =>
      rw [splitWord?] at found
      split at found
      · rename_i digit
        cases found
        rw [lexemes, if_pos digit]
        rfl
      · rename_i noDigit
        split at found
        · rename_i letter
          cases found
          rw [lexemes, if_neg noDigit, if_pos letter]
          rfl
        · cases found

/-- A word that is not continued is one lexeme. -/
theorem lexemes_word
    (word : Word)
    {rest : List Char}
    (stops : StopsWord rest) :
    lexemes (word.text ++ rest) = .atom word.text :: lexemes rest :=
  lexemes_of_splitWord? (splitWord?_append word stops)

/-- A character that begins no word is an operator or is passed over. -/
theorem lexemes_of_noWord
    {first : Char}
    (noDigit : first.isDigit = false)
    (noLetter : first.isAlpha = false)
    (rest : List Char) :
    lexemes (first :: rest) =
      match Operator.ofChar? first with
      | some operator => .operator operator :: lexemes rest
      | none => lexemes rest := by
  rw [lexemes, noDigit, noLetter, if_neg Bool.false_ne_true,
    if_neg Bool.false_ne_true]

/-- An operator is a lexeme of its own. -/
theorem lexemes_operator
    (operator : Operator)
    (rest : List Char) :
    lexemes (operator.symbol :: rest) = .operator operator :: lexemes rest := by
  have noWord := operator.isWordCharacter_symbol
  simp only [isWordCharacter, Bool.or_eq_false_iff] at noWord
  rw [lexemes_of_noWord noWord.1.2 noWord.1.1, Operator.ofChar?_symbol]

theorem lexemes_opening
    (rest : List Char) :
    lexemes ('(' :: rest) = lexemes rest :=
  lexemes_of_noWord rfl rfl rest

theorem lexemes_closing
    (rest : List Char) :
    lexemes (')' :: rest) = lexemes rest :=
  lexemes_of_noWord rfl rfl rest

theorem stopsWord_closing
    (rest : List Char) :
    StopsWord (')' :: rest) := by
  intro character head
  rw [List.head?_cons, Option.some.injEq] at head
  rw [← head]
  rfl

mutual

/-- The lexemes of a syntax tree come in front of those of the text behind it. -/
theorem Expression.lexemes_append
    {rest : List Char} :
    (expression : Expression) →
    StopsWord rest →
    lexemes (Expression.text expression ++ rest) =
      (Chain.reading expression).map (Lexeme.map Word.text) ++ lexemes rest
  | .single operand, stops => by
      rw [Expression.text_single, Chain.reading_single,
        Operand.lexemes_append operand stops]
  | .link before operator operand, stops => by
      rw [Expression.text_link, Chain.reading_link, List.append_assoc,
        List.cons_append,
        Expression.lexemes_append before (stopsWord_symbol operator _),
        lexemes_operator, Operand.lexemes_append operand stops,
        List.map_append, List.append_assoc]
      rfl

theorem Operand.lexemes_append
    {rest : List Char} :
    (operand : Operand Word) →
    StopsWord rest →
    lexemes (operand.text ++ rest) =
      operand.reading.map (Lexeme.map Word.text) ++ lexemes rest
  | .atom word, stops => by
      rw [Operand.text_atom, Operand.reading_atom, lexemes_word word stops]
      rfl
  | .group body, stops => by
      rw [Operand.text_group, Operand.reading_group, List.cons_append,
        List.append_assoc, List.singleton_append, lexemes_opening,
        Expression.lexemes_append body (stopsWord_closing rest),
        lexemes_closing]

end

/-- The lexemes of the text of a syntax tree are its words and operators in order. -/
theorem Expression.lexemes_text
    (expression : Expression) :
    lexemes expression.text =
      (Chain.reading expression).map (Lexeme.map Word.text) := by
  have whole := expression.lexemes_append stopsWord_nil
  rw [List.append_nil, lexemes_nil, List.append_nil] at whole
  exact whole

/-! ## Nothing but brackets is passed over -/

/-- Word characters are no brackets. -/
theorem isNoBracket_of_isWordCharacter
    {character : Char}
    (inWord : isWordCharacter character = true) :
    isNoBracket character = true := by
  rw [isNoBracket, Bool.and_eq_true, bne_iff_ne, bne_iff_ne]
  constructor
  · rintro rfl
    cases inWord
  · rintro rfl
    cases inWord

mutual

/-- Without its brackets, the text of a syntax tree is what its words and operators spell. -/
theorem Expression.filter_text :
    (expression : Expression) →
    (Expression.text expression).filter isNoBracket =
      (Chain.reading expression).flatMap (Lexeme.spell Word.text)
  | .single operand => by
      rw [Expression.text_single, Chain.reading_single,
        Operand.filter_text operand]
  | .link before operator operand => by
      have symbol : isNoBracket operator.symbol = true := by
        cases operator <;> rfl
      rw [Expression.text_link, Chain.reading_link, List.filter_append,
        List.filter_cons_of_pos symbol, List.flatMap_append,
        List.flatMap_cons, Expression.filter_text before,
        Operand.filter_text operand]
      rfl

theorem Operand.filter_text :
    (operand : Operand Word) →
    operand.text.filter isNoBracket =
      operand.reading.flatMap (Lexeme.spell Word.text)
  | .atom word => by
      rw [Operand.text_atom, Operand.reading_atom, List.flatMap_singleton,
        List.filter_eq_self.2]
      · rfl
      · intro character member
        exact
          isNoBracket_of_isWordCharacter
            (word.isWordCharacter_of_mem character member)
  | .group body => by
      rw [Operand.text_group, Operand.reading_group, List.filter_cons_of_neg,
        List.filter_append, Expression.filter_text body]
      · exact List.append_nil _
      · exact Bool.false_ne_true

end

/-- The lexemes of the text of a syntax tree spell the text without its brackets. -/
theorem Expression.flatMap_lexemes_text
    (expression : Expression) :
    (lexemes expression.text).flatMap (Lexeme.spell id) =
      expression.text.filter isNoBracket := by
  rw [expression.lexemes_text, expression.filter_text, List.flatMap_map]
  congr 1
  funext lexeme
  cases lexeme with
  | atom word => rfl
  | operator operator => rfl

end Formulary
