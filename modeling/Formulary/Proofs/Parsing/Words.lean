import Formulary.Proofs.Parsing.Completeness

/-!
# The word at the beginning of a text

`splitWord?` takes the numeral or the name off the front of a text.  What it
takes is the longest one: a word of the grammar is taken whole unless a word
character follows it.
-/

namespace Formulary

/-- The numeral or the name at the beginning of a text, with the text behind it. -/
def splitWord? : List Char → Option (Word × List Char)
  | [] => none
  | first :: rest =>
      if digit : first.isDigit = true then
        some
          (.numeral
              (first ::
                rest.takeWhile fun character =>
                  character.isDigit || character == '.')
              (.intro digit (List.all_eq_true.1 List.all_takeWhile)),
            rest.dropWhile fun character =>
              character.isDigit || character == '.')
      else if letter : first.isAlpha = true then
        let behind := rest.dropWhile Char.isAlpha
        some
          (.name
              (first ::
                (rest.takeWhile Char.isAlpha ++ behind.takeWhile Char.isDigit))
              (.intro letter (List.all_eq_true.1 List.all_takeWhile)
                (List.all_eq_true.1 List.all_takeWhile)),
            behind.dropWhile Char.isDigit)
      else
        none

/-- The word and the text behind it are the whole text. -/
theorem eq_append_of_splitWord?
    {text rest : List Char}
    {word : Word}
    (found : splitWord? text = some (word, rest)) :
    text = word.text ++ rest := by
  cases text with
  | nil => cases found
  | cons first others =>
      rw [splitWord?] at found
      split at found
      · cases found
        rw [Word.text, List.cons_append, List.takeWhile_append_dropWhile]
      · split at found
        · cases found
          rw [Word.text, List.cons_append, List.append_assoc,
            List.takeWhile_append_dropWhile, List.takeWhile_append_dropWhile]
        · cases found

/-- A word takes at least one character off a text. -/
theorem length_lt_of_splitWord?
    {text rest : List Char}
    {word : Word}
    (found : splitWord? text = some (word, rest)) :
    rest.length < text.length := by
  rw [eq_append_of_splitWord? found, List.length_append]
  exact Nat.lt_add_of_pos_left (List.length_pos_iff.2 word.text_ne_nil)

/-- A character that is neither a digit nor a letter begins no word. -/
theorem splitWord?_of_noWord
    {first : Char}
    (noDigit : first.isDigit = false)
    (noLetter : first.isAlpha = false)
    (rest : List Char) :
    splitWord? (first :: rest) = none := by
  rw [splitWord?, dif_neg (Bool.eq_false_iff.1 noDigit),
    dif_neg (Bool.eq_false_iff.1 noLetter)]

theorem splitWord?_symbol
    (operator : Operator)
    (rest : List Char) :
    splitWord? (operator.symbol :: rest) = none := by
  have noWord := operator.isWordCharacter_symbol
  simp only [isWordCharacter, Bool.or_eq_false_iff] at noWord
  exact splitWord?_of_noWord noWord.1.2 noWord.1.1 rest

/-- A word that is not continued is taken whole. -/
theorem splitWord?_append
    (word : Word)
    {rest : List Char}
    (stops : StopsWord rest) :
    splitWord? (word.text ++ rest) = some (word, rest) := by
  cases word with
  | numeral text shape =>
      cases shape with
      | @intro first others digit allowed =>
          have rejected :
              ∀ character, rest.head? = some character →
                (character.isDigit || character == '.') = false := by
            intro character head
            exact (stops.kinds head).2.2
          simp only [Word.text, List.cons_append, splitWord?, dif_pos digit,
            takeWhile_append_of_head? allowed rejected,
            dropWhile_append_of_head? allowed rejected]
  | name text shape =>
      cases shape with
      | @intro first letters digits letter others final =>
          have stopsDigits :
              ∀ character, rest.head? = some character →
                character.isDigit = false := by
            intro character head
            exact (stops.kinds head).2.1
          have stopsLetters :
              ∀ character, (digits ++ rest).head? = some character →
                character.isAlpha = false := by
            intro character head
            cases digits with
            | nil => exact (stops.kinds head).1
            | cons digit digits =>
                rw [List.cons_append, List.head?_cons, Option.some.injEq] at head
                rw [← head]
                exact isAlpha_of_isDigit (final digit List.mem_cons_self)
          have noDigit := Bool.eq_false_iff.1 (isDigit_of_isAlpha letter)
          simp only [Word.text, List.cons_append, List.append_assoc, splitWord?,
            dif_neg noDigit, dif_pos letter,
            takeWhile_append_of_head? others stopsLetters,
            dropWhile_append_of_head? others stopsLetters,
            takeWhile_append_of_head? final stopsDigits,
            dropWhile_append_of_head? final stopsDigits]

end Formulary
