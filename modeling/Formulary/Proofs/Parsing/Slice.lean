import Formulary.Proofs.Parsing.Brackets
import Formulary.Proofs.Parsing.Run

/-!
# Positions and what is left of a level

A reader walks a text by positions, while the grammar is about lists of
characters.  `slice` joins the two: what is left of a level is the slice from
the cursor to the end of the level, and a token takes characters off its
front.  Each kind of token is described in these terms.
-/

namespace Formulary.FormulaText

variable (text : FormulaText)

/-! ## Slices -/

theorem slice_eq
    (start stop : Nat) :
    text.slice start stop =
      (text.formula.toList.drop start).take (stop - start) := by
  rw [slice, Array.toList_extract, text.characters_eq, List.extract_eq_take_drop]

theorem size_characters :
    text.characters.size = text.formula.toList.length := by
  rw [text.characters_eq, List.size_toArray]

theorem getElem?_characters
    (position : Nat) :
    text.characters[position]? = text.formula.toList[position]? := by
  rw [text.characters_eq, List.getElem?_toArray]

/-- The whole text is the slice from its beginning to its end. -/
theorem slice_all :
    text.slice 0 text.characters.size = text.formula.toList := by
  rw [slice_eq, size_characters, List.drop_zero, Nat.sub_zero, List.take_length]

theorem length_slice_le
    (start stop : Nat) :
    (text.slice start stop).length ≤ stop - start := by
  rw [slice_eq, List.length_take]
  exact Nat.min_le_left _ _

/-- The first character of a slice stands at its beginning. -/
theorem head?_slice
    (start stop : Nat) :
    (text.slice start stop).head? =
      if start < stop then text.characters[start]? else none := by
  rw [slice_eq, getElem?_characters]
  split
  · rw [List.head?_take, if_neg (by omega), List.head?_drop]
  · rw [show stop - start = 0 by omega, List.take_zero]
    rfl

/-- The characters behind the front of a slice are a slice as well. -/
theorem slice_add
    {start stop : Nat}
    {front rest : List Char}
    (split : text.slice start stop = front ++ rest) :
    text.slice (start + front.length) stop = rest := by
  have dropped := congrArg (List.drop front.length) split
  rw [List.drop_left, slice_eq, List.drop_take, List.drop_drop] at dropped
  rw [slice_eq, ← dropped, Nat.sub_sub]

/-- The front of a slice is a slice as well. -/
theorem slice_front
    {start stop : Nat}
    {front rest : List Char}
    (split : text.slice start stop = front ++ rest) :
    text.slice start (start + front.length) = front := by
  have bound := congrArg List.length split
  rw [slice_eq, List.length_take, List.length_append] at bound
  have taken := congrArg (List.take front.length) split
  rw [List.take_left, slice_eq, List.take_take, Nat.min_eq_left (by omega)] at taken
  rw [slice_eq, Nat.add_sub_cancel_left]
  exact taken

/-- A slice up to a position, and the slice from there on. -/
theorem slice_append
    {start middle stop : Nat}
    (before : start ≤ middle)
    (behind : middle ≤ stop) :
    text.slice start middle ++ text.slice middle stop =
      text.slice start stop := by
  rw [slice_eq, slice_eq, slice_eq,
    show stop - start = (middle - start) + (stop - middle) by omega,
    List.take_add, List.drop_drop, Nat.add_sub_cancel' before]

/-- A slice that is not empty begins with a character of the text. -/
theorem slice_of_getElem?
    {start stop : Nat}
    {character : Char}
    (before : start < stop)
    (found : text.characters[start]? = some character) :
    text.slice start stop = character :: text.slice (start + 1) stop := by
  cases sliced : text.slice start stop with
  | nil =>
      have head := text.head?_slice start stop
      rw [sliced, if_pos before, found] at head
      exact absurd head (by simp)
  | cons first rest =>
      have head := text.head?_slice start stop
      rw [sliced, if_pos before, found, List.head?_cons, Option.some.injEq] at head
      subst head
      have tail : text.slice (start + [first].length) stop = rest :=
        text.slice_add sliced
      rw [← tail]
      rfl

/-! ## What is left of a level -/

/-- The characters of a level that are not read. -/
def left (level : Level) : List Char :=
  text.slice level.cursor level.span.stop

theorem nextCharacter?_eq
    (level : Level) :
    text.nextCharacter? level = (text.left level).head? := by
  rw [nextCharacter?, left, head?_slice]

/-- A row of characters of one kind ends where their longest row at the front ends. -/
theorem runEnd_eq
    (accept : Char → Bool)
    (stop position : Nat) :
    text.runEnd accept stop position =
      position + ((text.slice position stop).takeWhile accept).length := by
  fun_induction runEnd text accept stop position with
  | case1 position missing =>
      have empty : text.slice position stop = [] := by
        rw [← List.head?_eq_none_iff, head?_slice, missing]
        split <;> rfl
      rw [empty]
      rfl
  | case2 position character found inside hypothesis =>
      rw [hypothesis, text.slice_of_getElem? inside.1 found,
        List.takeWhile_cons_of_pos inside.2, List.length_cons]
      omega
  | case3 position character found outside =>
      by_cases before : position < stop
      · rw [text.slice_of_getElem? before found,
          List.takeWhile_cons_of_neg fun accepted => outside ⟨before, accepted⟩]
        rfl
      · have empty : text.slice position stop = [] := by
          rw [← List.head?_eq_none_iff, head?_slice, if_neg before]
        rw [empty]
        rfl

/-! ## Tokens -/

variable {text} {reader : Reader} {first : Char} {rest : List Char}

/-- A slice that begins with a character leaves the rest behind that character. -/
theorem slice_succ
    {start stop : Nat}
    (sliced : text.slice start stop = first :: rest) :
    text.slice (start + 1) stop = rest := by
  rw [← List.singleton_append] at sliced
  exact text.slice_add sliced

/-- A numeral is the longest row of digits and points. -/
theorem readNumeral_eq
    (ahead : text.left reader.level = first :: rest) :
    text.readNumeral reader =
      let word :=
        first :: rest.takeWhile fun character =>
          character.isDigit || character == '.'
      text.readOperand reader
        (.atom (.atom (.literal (Number.ofText word))))
        (reader.level.cursor + word.length) := by
  have split :
      text.slice reader.level.cursor reader.level.span.stop =
        (first :: rest.takeWhile fun character =>
          character.isDigit || character == '.') ++
          rest.dropWhile fun character =>
            character.isDigit || character == '.' := by
    rw [List.cons_append, List.takeWhile_append_dropWhile]
    exact ahead
  simp only [readNumeral]
  rw [runEnd_eq, slice_succ ahead, Nat.add_assoc, Nat.add_comm 1,
    ← List.length_cons (a := first), text.slice_front split]

/-- A name is the longest row of letters with the longest row of digits behind it. -/
theorem readName_eq
    (ahead : text.left reader.level = first :: rest) :
    text.readName reader =
      let word :=
        first ::
          (rest.takeWhile Char.isAlpha ++
            (rest.dropWhile Char.isAlpha).takeWhile Char.isDigit)
      match text.parameters.idxOf? (String.ofList word) with
      | none =>
          .error
            (.unknownParameter text.formula (String.ofList word) text.parameters)
      | some index =>
          text.readOperand reader (.atom (.atom (.variable index)))
            (reader.level.cursor + word.length) := by
  have behind := slice_succ ahead
  have letters :
      text.slice (reader.level.cursor + 1 + (rest.takeWhile Char.isAlpha).length)
          reader.level.span.stop =
        rest.dropWhile Char.isAlpha :=
    text.slice_add (by rw [List.takeWhile_append_dropWhile]; exact behind)
  have split :
      text.slice reader.level.cursor reader.level.span.stop =
        (first ::
          (rest.takeWhile Char.isAlpha ++
            (rest.dropWhile Char.isAlpha).takeWhile Char.isDigit)) ++
          (rest.dropWhile Char.isAlpha).dropWhile Char.isDigit := by
    rw [List.cons_append, List.append_assoc, List.takeWhile_append_dropWhile,
      List.takeWhile_append_dropWhile]
    exact ahead
  have stop :
      text.runEnd Char.isDigit reader.level.span.stop
          (text.runEnd Char.isAlpha reader.level.span.stop
            (reader.level.cursor + 1)) =
        reader.level.cursor +
          (first ::
            (rest.takeWhile Char.isAlpha ++
              (rest.dropWhile Char.isAlpha).takeWhile Char.isDigit)).length := by
    rw [runEnd_eq, runEnd_eq, behind, letters, List.length_cons,
      List.length_append]
    omega
  cases found :
      text.parameters.idxOf?
        (String.ofList
          (first ::
            (rest.takeWhile Char.isAlpha ++
              (rest.dropWhile Char.isAlpha).takeWhile Char.isDigit))) with
  | none => simp only [readName, stop, text.slice_front split, found]
  | some index => simp only [readName, stop, text.slice_front split, found]

/-- The bracket that closes a group is found by a count of brackets from the group on. -/
theorem closing_eq
    {position stop : Nat}
    (ahead : text.slice position stop = '(' :: rest) :
    (text.closings[position]?).join =
      (closingDistance 0 (text.formula.toList.drop (position + 1))).map
        (position + 1 + ·) := by
  have head := text.head?_slice position stop
  rw [ahead, List.head?_cons, getElem?_characters] at head
  split at head
  · rw [text.closings_eq, closingPositions_getElem? head.symm, Option.join_some]
  · exact absurd head (by simp)

/-- What is left of a level, and the text behind the level. -/
theorem drop_formula
    {start stop : Nat}
    (before : start ≤ stop) :
    text.formula.toList.drop start =
      text.slice start stop ++ text.formula.toList.drop stop := by
  rw [slice_eq, show stop = start + (stop - start) by omega,
    ← List.drop_drop, Nat.add_sub_cancel_left, List.take_append_drop]

end Formulary.FormulaText
