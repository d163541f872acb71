import Formulary.Number.Text
import Formulary.Parsing.Brackets
import Formulary.Parsing.Draft
import Formulary.Parsing.Error

/-!
# Reading the tokens of a formula text

A reader stands in one bracket level of a text: it has a position in it, the
chain being read with its outer chains, and the groups that were put off.
Each token moves the position ahead; a group is passed over as a whole.

The work left to a reader is measured by `Reader.weight`, and
`readToken_weight` says that each token takes some of it away.
-/

namespace Formulary

/-- A formula text with what is known of it before it is read. -/
structure FormulaText where
  /-- The text. -/
  formula : String
  /-- Its characters by position. -/
  characters : Array Char
  /-- The closing bracket of each opening one. -/
  closings : Array (Option Nat)
  /-- The names that variables may have. -/
  parameters : List String
  precedence : Precedence
  characters_eq : characters = formula.toList.toArray := by rfl
  closings_eq : closings = closingPositions formula.toList := by rfl

namespace FormulaText

/-- A text with its bracket pairs. -/
def ofString
    (precedence : Precedence)
    (parameters : List String)
    (formula : String) :
    FormulaText where
  formula
  characters := formula.toList.toArray
  closings := closingPositions formula.toList
  parameters
  precedence

/-- The characters from one position up to another. -/
def slice (text : FormulaText) (start stop : Nat) : List Char :=
  (text.characters.extract start stop).toList

/-- The characters of a span, as errors name them. -/
def expression (text : FormulaText) (span : Span) : String :=
  String.ofList (text.slice span.start span.stop)

/-- The first position not below a given one, and not above `stop`, with a character of another kind. -/
def runEnd
    (text : FormulaText)
    (accept : Char → Bool)
    (stop position : Nat) :
    Nat :=
  match text.characters[position]? with
  | none => position
  | some character =>
      if position < stop ∧ accept character then
        runEnd text accept stop (position + 1)
      else
        position
termination_by stop - position

theorem le_runEnd
    (text : FormulaText)
    (accept : Char → Bool)
    (stop position : Nat) :
    position ≤ text.runEnd accept stop position := by
  fun_induction runEnd text accept stop position with
  | case1 => exact Nat.le_refl _
  | case2 position character found inside hypothesis =>
      exact Nat.le_trans (Nat.le_succ position) hypothesis
  | case3 => exact Nat.le_refl _

end FormulaText

/-- A bracket level being read: its text, the next position, and the chains. -/
structure Level where
  span : Span
  cursor : Nat
  nest : Nest Slot

namespace Level

/-- The level of a span before anything is read. -/
def begin (span : Span) : Level :=
  ⟨span, span.start, ⟨.empty, []⟩⟩

/-- A position as errors count it. -/
def offset (level : Level) (position : Nat) : Nat :=
  position - level.span.start

end Level

/-- A level being read, and the groups put off, the one to be read next in front. -/
structure Reader where
  level : Level
  deferred : List Span

namespace Reader

/-- The work that a group put off stands for. -/
def deferredWeight (span : Span) : Nat :=
  2 * span.length + 1

/--
The work left: two for each character that is not read, and one for each
chain and each group that is not finished.
-/
def weight (reader : Reader) : Nat :=
  2 * (reader.level.span.stop - reader.level.cursor) +
    reader.level.nest.outers.length +
    totalWeight deferredWeight reader.deferred

/-- The reader behind a token, with another draft. -/
def advance (reader : Reader) (draft : Draft Slot) (cursor : Nat) : Reader :=
  { reader with
    level :=
      { reader.level with
        cursor
        nest := { reader.level.nest with draft } } }

end Reader

namespace FormulaText

variable (text : FormulaText)

/-! ## Operands -/

/-- Add an operand that begins at the cursor and ends before a position. -/
def readOperand
    (reader : Reader)
    (operand : Operand Slot)
    (stop : Nat) :
    Except ParseError Reader :=
  match reader.level.nest.draft.addOperand? operand with
  | some draft => .ok (reader.advance draft stop)
  | none =>
      .error
        (.missingOperator text.formula
          (text.expression reader.level.span)
          (reader.level.offset reader.level.cursor))

/-- Read a numeral: digits and points behind a digit. -/
def readNumeral (reader : Reader) : Except ParseError Reader :=
  let start := reader.level.cursor
  let stop :=
    text.runEnd (fun character => character.isDigit || character == '.')
      reader.level.span.stop (start + 1)
  text.readOperand reader
    (.atom (.atom (.literal (Number.ofText (text.slice start stop)))))
    stop

/-- Read a name: letters, then digits.  It must be a parameter. -/
def readName (reader : Reader) : Except ParseError Reader :=
  let start := reader.level.cursor
  let limit := reader.level.span.stop
  let stop :=
    text.runEnd Char.isDigit limit
      (text.runEnd Char.isAlpha limit (start + 1))
  let name := String.ofList (text.slice start stop)
  match text.parameters.idxOf? name with
  | none =>
      .error (.unknownParameter text.formula name text.parameters)
  | some index =>
      text.readOperand reader (.atom (.atom (.variable index))) stop

/-- The error of an opening bracket that is not closed within its level. -/
def closingFault (level : Level) : ParseError :=
  .missingClosing text.formula (text.expression level.span)

/-- Pass over a group, which is put off. -/
def readGroup (reader : Reader) : Except ParseError Reader :=
  let start := reader.level.cursor
  match (text.closings[start]?).join with
  | none => .error (text.closingFault reader.level)
  | some closing =>
      if reader.level.span.stop ≤ closing then
        .error (text.closingFault reader.level)
      else if closing ≤ start + 1 then
        .error
          (.emptyGroup text.formula
            (text.expression reader.level.span)
            (reader.level.offset start))
      else
        let span : Span := ⟨start + 1, closing⟩
        match text.readOperand reader (.atom (.unread span)) (closing + 1) with
        | .error fault => .error fault
        | .ok reader => .ok { reader with deferred := span :: reader.deferred }

/-! ## Operators -/

/-- The error of an operator at a position with nothing on one of its sides. -/
def operandFault
    (level : Level)
    (operator : Operator)
    (position : Nat) :
    ParseError :=
  .missingOperand text.formula (text.expression level.span)
    operator.symbol (level.offset position)

/-- Read an operator; the result says whether it moves to another chain. -/
def readOperator
    (reader : Reader)
    (operator : Operator) :
    Except ParseError (Reader × Bool) :=
  let level := reader.level
  match level.nest.draft with
  | .complete chain =>
      let attachment := attach text.precedence operator ⟨chain, level.nest.outers⟩
      .ok
        ({ reader with
            level :=
              { level with
                cursor := level.cursor + 1
                nest := attachment.nest operator } },
          attachment.moved)
  | _ => .error (text.operandFault level operator level.cursor)

/-! ## Tokens -/

/-- Read the token that begins with a character; the result says whether it moves to another chain. -/
def readToken
    (reader : Reader)
    (character : Char) :
    Except ParseError (Reader × Bool) :=
  if character.isDigit then
    (text.readNumeral reader).map (·, false)
  else if character.isAlpha then
    (text.readName reader).map (·, false)
  else if character = '(' then
    (text.readGroup reader).map (·, false)
  else if character = ')' then
    .error
      (.unexpectedClosing text.formula
        (text.expression reader.level.span)
        (reader.level.offset reader.level.cursor))
  else
    match Operator.ofChar? character with
    | some operator => text.readOperator reader operator
    | none =>
        .error
          (.illegalCharacter text.formula
            (text.expression reader.level.span)
            character
            (reader.level.offset reader.level.cursor))

/-- The next character of the level, if there is one left. -/
def nextCharacter? (level : Level) : Option Char :=
  if level.cursor < level.span.stop then
    text.characters[level.cursor]?
  else
    none

theorem cursor_lt_of_nextCharacter?
    {level : Level}
    {character : Char}
    (found : text.nextCharacter? level = some character) :
    level.cursor < level.span.stop := by
  unfold nextCharacter? at found
  split at found
  · assumption
  · simp at found

/-! ## The work that a token takes away -/

/-- An operand that is read is added to the draft, and the reader is behind it. -/
theorem readOperand_eq_ok
    {reader result : Reader}
    {operand : Operand Slot}
    {stop : Nat}
    (read : text.readOperand reader operand stop = .ok result) :
    ∃ draft,
      reader.level.nest.draft.addOperand? operand = some draft ∧
        result = reader.advance draft stop := by
  unfold readOperand at read
  split at read
  · rename_i draft added
    exact ⟨draft, added, (Except.ok.inj read).symm⟩
  · cases read

theorem readOperand_weight
    {reader result : Reader}
    {operand : Operand Slot}
    {stop : Nat}
    (read : text.readOperand reader operand stop = .ok result)
    (ahead : reader.level.cursor < stop)
    (inside : reader.level.cursor < reader.level.span.stop) :
    result.weight < reader.weight := by
  rcases text.readOperand_eq_ok read with ⟨draft, _, rfl⟩
  simp only [Reader.weight, Reader.advance]
  omega

/-- A group that is read is closed within its level and not empty; it is added to the draft and put off. -/
theorem readGroup_eq_ok
    {reader result : Reader}
    (read : text.readGroup reader = .ok result) :
    ∃ closing draft,
      (text.closings[reader.level.cursor]?).join = some closing ∧
        reader.level.cursor + 1 < closing ∧
        closing < reader.level.span.stop ∧
        reader.level.nest.draft.addOperand?
            (.atom (.unread ⟨reader.level.cursor + 1, closing⟩)) =
          some draft ∧
        result =
          { reader.advance draft (closing + 1) with
            deferred :=
              ⟨reader.level.cursor + 1, closing⟩ :: reader.deferred } := by
  simp only [readGroup] at read
  split at read
  · cases read
  · rename_i closing found
    split at read
    · cases read
    · rename_i inside
      split at read
      · cases read
      · rename_i nonempty
        split at read
        · cases read
        · rename_i passed operand
          rcases text.readOperand_eq_ok operand with ⟨draft, added, rfl⟩
          cases read
          exact
            ⟨closing, draft, found, Nat.lt_of_not_le nonempty,
              Nat.lt_of_not_le inside, added, rfl⟩

theorem readGroup_weight
    {reader result : Reader}
    (read : text.readGroup reader = .ok result) :
    result.weight < reader.weight := by
  rcases text.readGroup_eq_ok read with
    ⟨closing, draft, _, nonempty, inside, _, rfl⟩
  simp only [Reader.weight, Reader.advance, totalWeight_cons,
    Reader.deferredWeight, Span.length]
  omega

theorem readOperator_weight
    {reader result : Reader}
    {operator : Operator}
    {moved : Bool}
    (read : text.readOperator reader operator = .ok (result, moved))
    (inside : reader.level.cursor < reader.level.span.stop) :
    result.weight < reader.weight := by
  simp only [readOperator] at read
  split at read
  · rename_i chain _
    simp only [Except.ok.injEq, Prod.mk.injEq] at read
    have opened :
        (attach text.precedence operator
          ⟨chain, reader.level.nest.outers⟩).site.outers.length ≤
            reader.level.nest.outers.length + 1 :=
      attach_length text.precedence operator ⟨chain, reader.level.nest.outers⟩
    rw [← read.1]
    simp only [Reader.weight, Attachment.nest]
    omega
  · simp at read

/-- A token that is read is a numeral, a name, a group or an operator. -/
theorem readToken_eq_ok
    {reader result : Reader}
    {character : Char}
    {moved : Bool}
    (read : text.readToken reader character = .ok (result, moved)) :
    (character.isDigit = true ∧ text.readNumeral reader = .ok result) ∨
      (character.isAlpha = true ∧ text.readName reader = .ok result) ∨
      (character = '(' ∧ text.readGroup reader = .ok result) ∨
      ∃ operator,
        Operator.ofChar? character = some operator ∧
          text.readOperator reader operator = .ok (result, moved) := by
  have unpair
      {outcome : Except ParseError Reader}
      (mapped : outcome.map (·, false) = .ok (result, moved)) :
      outcome = .ok result := by
    cases outcome with
    | error fault => cases mapped
    | ok reached =>
        cases mapped
        rfl
  simp only [readToken] at read
  split at read
  · rename_i digit
    exact .inl ⟨digit, unpair read⟩
  · split at read
    · rename_i letter
      exact .inr (.inl ⟨letter, unpair read⟩)
    · split at read
      · rename_i opening
        exact .inr (.inr (.inl ⟨opening, unpair read⟩))
      · split at read
        · cases read
        · split at read
          · rename_i operator found
            exact .inr (.inr (.inr ⟨operator, found, read⟩))
          · cases read

theorem readName_eq_ok
    {reader result : Reader}
    (read : text.readName reader = .ok result) :
    ∃ operand stop,
      reader.level.cursor < stop ∧
        text.readOperand reader operand stop = .ok result := by
  simp only [readName] at read
  split at read
  · cases read
  · refine ⟨_, _, ?_, read⟩
    exact
      Nat.le_trans (text.le_runEnd _ _ (reader.level.cursor + 1))
        (text.le_runEnd _ _ _)

/-- A token that is read is an operand that ends further on, a group or an operator. -/
theorem taken_of_readToken
    {reader result : Reader}
    {character : Char}
    {moved : Bool}
    (read : text.readToken reader character = .ok (result, moved)) :
    (∃ operand stop,
        reader.level.cursor < stop ∧
          text.readOperand reader operand stop = .ok result) ∨
      text.readGroup reader = .ok result ∨
      ∃ operator, text.readOperator reader operator = .ok (result, moved) := by
  rcases text.readToken_eq_ok read with
    ⟨_, numeral⟩ | ⟨_, name⟩ | ⟨_, group⟩ | ⟨operator, _, attached⟩
  · exact .inl ⟨_, _, text.le_runEnd _ _ (reader.level.cursor + 1), numeral⟩
  · exact .inl (text.readName_eq_ok name)
  · exact .inr (.inl group)
  · exact .inr (.inr ⟨operator, attached⟩)

theorem readToken_weight
    {reader result : Reader}
    {character : Char}
    {moved : Bool}
    (read : text.readToken reader character = .ok (result, moved))
    (inside : reader.level.cursor < reader.level.span.stop) :
    result.weight < reader.weight := by
  rcases text.taken_of_readToken read with
    ⟨operand, stop, ahead, added⟩ | group | ⟨operator, attached⟩
  · exact text.readOperand_weight added ahead inside
  · exact text.readGroup_weight group
  · exact text.readOperator_weight attached inside

end FormulaText

end Formulary
