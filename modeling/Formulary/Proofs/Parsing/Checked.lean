import Formulary.Parsing.Parser
import Formulary.Proofs.Grammar.Basic

/-!
# The checked parser

The parser reads characters and notes brackets by position, cuts slices out of
the text, and counts positions from the beginning of a level.  Its definitions
give a result for every position.

The checked parser makes the same accesses, but stops with a breach where a
position lies outside of the text or the table, or in front of the one it is
counted from, where a level ends in which nothing was read, where a step takes
no work away, and where the formula of a group is missing.

These are all the accesses there are.  The chain at hand and the chains around
it are parts of the state of a parse, and so are the groups put off; nothing
leads to them by a number, so there is nothing to check about them.  What is
found by a number is a character of the text, the entry for a bracket, and the
formula of a finished group, which is kept under the beginning of its span.
-/

namespace Formulary

/-- What does not happen while a text is parsed. -/
inductive Breach where
  /-- There is nothing at the position. -/
  | outside (position : Nat)
  /-- A position comes in front of the one from which it is counted. -/
  | negative
  /-- A level ends in which nothing was read. -/
  | emptyLevel
  /-- A step takes no work away. -/
  | idle
  /-- The formula of a group is not there when it is asked for. -/
  | missingGroup
deriving DecidableEq

/-- A result, unless there was a breach. -/
abbrev Checked (α : Type) :=
  Except Breach α

/-! ## The checked parser -/

/-- Note closing brackets in a table that has an entry for every bracket. -/
def checkedNoteClosings :
    (text : List Char) →
    (position : Nat) →
    (opened : List Nat) →
    (closings : Array (Option Nat)) →
    Checked (Array (Option Nat))
  | [], _, _, closings => .ok closings
  | '(' :: text, position, opened, closings =>
      checkedNoteClosings text (position + 1) (position :: opened) closings
  | ')' :: text, position, opening :: opened, closings =>
      if opening < closings.size then
        checkedNoteClosings text (position + 1) opened
          (closings.setIfInBounds opening (some position))
      else
        .error (.outside opening)
  | _ :: text, position, opened, closings =>
      checkedNoteClosings text (position + 1) opened closings

/-- A position of the text as errors count it. -/
def Level.checkedOffset (level : Level) (position : Nat) : Checked Nat :=
  if level.span.start ≤ position then
    .ok (level.offset position)
  else
    .error .negative

namespace FormulaText

variable (text : FormulaText)

/-- The character at a position. -/
def checkedCharacter (position : Nat) : Checked Char :=
  match text.characters[position]? with
  | some character => .ok character
  | none => .error (.outside position)

/-- The entry for a bracket at a position. -/
def checkedClosing (position : Nat) : Checked (Option Nat) :=
  match text.closings[position]? with
  | some closing => .ok closing
  | none => .error (.outside position)

/-- The characters from one position up to another. -/
def checkedSlice (start stop : Nat) : Checked (List Char) :=
  if stop < start then
    .error .negative
  else if text.characters.size < stop then
    .error (.outside stop)
  else
    .ok (text.slice start stop)

/-- The characters of a span, as errors name them. -/
def checkedExpression (span : Span) : Checked String := do
  let characters ← text.checkedSlice span.start span.stop
  .ok (String.ofList characters)

/-- The end of a row of characters of one kind. -/
def checkedRunEnd
    (accept : Char → Bool)
    (stop position : Nat) :
    Checked Nat :=
  if position < stop then
    match text.checkedCharacter position with
    | .error breach => .error breach
    | .ok character =>
        if accept character then
          checkedRunEnd accept stop (position + 1)
        else
          .ok position
  else
    .ok position
termination_by stop - position

/-- Report a fault of the level at a position of the text. -/
def checkedFault
    {α : Type}
    (level : Level)
    (position : Nat)
    (fault : (expression : String) → (offset : Nat) → ParseError) :
    Checked (Except ParseError α) := do
  let expression ← text.checkedExpression level.span
  let offset ← level.checkedOffset position
  .ok (.error (fault expression offset))

/-- Add an operand that begins at the cursor and ends before a position. -/
def checkedReadOperand
    (reader : Reader)
    (operand : Operand Slot)
    (stop : Nat) :
    Checked (Except ParseError Reader) :=
  match reader.level.nest.draft.addOperand? operand with
  | some draft => .ok (.ok (reader.advance draft stop))
  | none =>
      text.checkedFault reader.level reader.level.cursor
        (.missingOperator text.formula)

/-- Read a numeral. -/
def checkedReadNumeral
    (reader : Reader) :
    Checked (Except ParseError Reader) := do
  let start := reader.level.cursor
  let stop ←
    text.checkedRunEnd (fun character => character.isDigit || character == '.')
      reader.level.span.stop (start + 1)
  let digits ← text.checkedSlice start stop
  text.checkedReadOperand reader
    (.atom (.atom (.literal (Number.ofText digits)))) stop

/-- Read a name, which must be a parameter. -/
def checkedReadName
    (reader : Reader) :
    Checked (Except ParseError Reader) := do
  let start := reader.level.cursor
  let limit := reader.level.span.stop
  let letters ← text.checkedRunEnd Char.isAlpha limit (start + 1)
  let stop ← text.checkedRunEnd Char.isDigit limit letters
  let characters ← text.checkedSlice start stop
  let name := String.ofList characters
  match text.parameters.idxOf? name with
  | none =>
      .ok (.error (.unknownParameter text.formula name text.parameters))
  | some index =>
      text.checkedReadOperand reader (.atom (.atom (.variable index))) stop

/-- The error of an opening bracket that is not closed within its level. -/
def checkedClosingFault
    {α : Type}
    (level : Level) :
    Checked (Except ParseError α) := do
  let expression ← text.checkedExpression level.span
  .ok (.error (.missingClosing text.formula expression))

/-- Pass over a group, which is put off. -/
def checkedReadGroup
    (reader : Reader) :
    Checked (Except ParseError Reader) := do
  let start := reader.level.cursor
  match ← text.checkedClosing start with
  | none => text.checkedClosingFault reader.level
  | some closing =>
      if reader.level.span.stop ≤ closing then
        text.checkedClosingFault reader.level
      else if closing ≤ start + 1 then
        text.checkedFault reader.level start (.emptyGroup text.formula)
      else
        let span : Span := ⟨start + 1, closing⟩
        let outcome ←
          text.checkedReadOperand reader (.atom (.unread span)) (closing + 1)
        match outcome with
        | .error fault => .ok (.error fault)
        | .ok reader =>
            .ok (.ok { reader with deferred := span :: reader.deferred })

/-- Read an operator. -/
def checkedReadOperator
    (reader : Reader)
    (operator : Operator) :
    Checked (Except ParseError (Reader × Bool)) :=
  match reader.level.nest.draft with
  | .complete _ => .ok (text.readOperator reader operator)
  | _ =>
      text.checkedFault reader.level reader.level.cursor fun expression =>
        .missingOperand text.formula expression operator.symbol

/-- Read the token that begins with a character. -/
def checkedReadToken
    (reader : Reader)
    (character : Char) :
    Checked (Except ParseError (Reader × Bool)) :=
  if character.isDigit then do
    let outcome ← text.checkedReadNumeral reader
    .ok (outcome.map (·, false))
  else if character.isAlpha then do
    let outcome ← text.checkedReadName reader
    .ok (outcome.map (·, false))
  else if character = '(' then do
    let outcome ← text.checkedReadGroup reader
    .ok (outcome.map (·, false))
  else if character = ')' then
    text.checkedFault reader.level reader.level.cursor
      (.unexpectedClosing text.formula)
  else
    match Operator.ofChar? character with
    | some operator => text.checkedReadOperator reader operator
    | none =>
        text.checkedFault reader.level reader.level.cursor fun expression =>
          .illegalCharacter text.formula expression character

/--
The chain of a level without more tokens.  The operator that lacks an operand
is looked up in the text.
-/
def checkedCompleteChain
    (level : Level) :
    Checked (Except ParseError Sketch) :=
  match level.nest.draft with
  | .complete chain => .ok (.ok chain)
  | .empty => .error .emptyLevel
  | .expecting _ _ =>
      match level.span.stop with
      | 0 => .error .negative
      | last + 1 => do
          let symbol ← text.checkedCharacter last
          text.checkedFault level last fun expression =>
            .missingOperand text.formula expression symbol

/-- Read the next token, or finish the chain of a level that has no more tokens. -/
def checkedStep
    (progress : Progress) :
    Checked (Except ParseError TurnResult) :=
  let reader := progress.reader
  if reader.level.cursor < reader.level.span.stop then do
    let character ← text.checkedCharacter reader.level.cursor
    let outcome ← text.checkedReadToken reader character
    .ok (outcome.map fun result => .continuing { progress with reader := result.1 })
  else do
    let outcome ← text.checkedCompleteChain reader.level
    .ok (outcome.map fun chain => finishChain reader chain progress.finished)

/--
Take steps until every level is finished.  Only the text and the table of
brackets are accessed by position, in the steps; chains are handed on as they are.
-/
def checkedReadLevels
    (progress : Progress) :
    Checked (Except ParseError (List FinishedLevel)) :=
  match text.checkedStep progress with
  | .error breach => .error breach
  | .ok (.error fault) => .ok (.error fault)
  | .ok (.ok (.finished levels)) => .ok (.ok levels)
  | .ok (.ok (.continuing reached)) =>
      if reached.reader.weight < progress.reader.weight then
        checkedReadLevels reached
      else
        .error .idle
termination_by progress.reader.weight

end FormulaText

/-- The table has the formula of the group that a slot stands for. -/
def Slot.isFilled (groups : Array (Option Formula)) : Slot → Bool
  | .atom _ => true
  | .unread span => (groups[span.start]?).join.isSome

/-- The formula of a level whose groups are in the table. -/
def FinishedLevel.checkedFormula
    (groups : Array (Option Formula))
    (level : FinishedLevel) :
    Checked Formula :=
  if level.sketch.atoms.all (Slot.isFilled groups) then
    .ok (level.sketch.substitute (fillSlot groups))
  else
    .error .missingGroup

/--
The formula of the last level.  The table has the formula of each group under
the beginning of its span, where it is put before a level asks for it.
-/
def checkedAssembleOnto
    (groups : Array (Option Formula)) :
    (levels : List FinishedLevel) → Checked Formula
  | [] => .error .missingGroup
  | [level] => level.checkedFormula groups
  | level :: levels => do
      let formula ← level.checkedFormula groups
      if level.span.start < groups.size then
        checkedAssembleOnto
          (groups.setIfInBounds level.span.start (some formula))
          levels
      else
        .error (.outside level.span.start)

/-- Parse a text, with a check of every access. -/
def Formula.checkedParse
    (precedence : Precedence)
    (parameters : List String)
    (formula : String) :
    Checked (Except ParseError Formula) :=
  if formula.isEmpty then
    .ok (.error .emptyFormula)
  else do
    let text := FormulaText.ofString precedence parameters formula
    let _ ←
      checkedNoteClosings formula.toList 0 []
        (Array.replicate formula.toList.length none)
    match ← text.checkedReadLevels text.start with
    | .error fault => .ok (.error fault)
    | .ok levels => do
        let parsed ←
          checkedAssembleOnto (Array.replicate text.characters.size none) levels
        .ok (.ok parsed)

end Formulary
