/-!
# Control sequences

A terminal takes some characters of a text as commands: control characters,
and what follows an escape character up to the end of its sequence or string.
Text for a reader who is no terminal is written without them.

The first main statement says that text without control characters stays as
it is, the second that nothing but shown characters is left of a text.
-/

namespace Formulary

/-- A control character that is a blank: a tab, a line feed, a form feed or a carriage return. -/
def isControlBlank (character : Char) : Bool :=
  character == '\t' || character == '\n' ||
    character == '\x0c' || character == '\r'

/-- No control character of ASCII, blanks apart. -/
def isShown (character : Char) : Bool :=
  isControlBlank character || (' ' ≤ character && character != '\x7f')

/-- A character in front of the last one of a sequence that comes behind its parameters. -/
def isIntermediate (character : Char) : Bool :=
  ' ' ≤ character && character ≤ '/'

/-- A character of the parameters of a sequence. -/
def isParameter (character : Char) : Bool :=
  '0' ≤ character && character ≤ '?'

/-- The last character of a sequence with parameters. -/
def isFinal (character : Char) : Bool :=
  '@' ≤ character && character ≤ '~'

/-- The string terminator, which counts as one byte among those of a character as well. -/
def hasStringTerminator (character : Char) : Bool :=
  (String.utf8EncodeChar character).contains 0x9c

/-- What a terminal is in the middle of. -/
inductive ControlState where
  /-- Plain text. -/
  | text
  /-- Behind an escape character. -/
  | escape
  /-- Behind an escape character and intermediate characters. -/
  | escapeIntermediates
  /-- Inside a control sequence, which a final character ends. -/
  | sequence
  /-- At the beginning of a device control string. -/
  | device
  /-- Behind parameters of a device control string. -/
  | deviceParameters
  /-- Behind intermediate characters of a device control string. -/
  | deviceIntermediates
  /-- Inside a string, which the string terminator ends. -/
  | string
  /-- Inside a command of the operating system, which a bell ends. -/
  | systemCommand
deriving DecidableEq

namespace ControlState

/-- The state behind a character that comes right behind an escape character. -/
def afterEscape (character : Char) : ControlState :=
  if character = '[' then
    sequence
  else if character = ']' then
    systemCommand
  else if character = 'P' then
    device
  else if character = 'X' ∨ character = '^' ∨ character = '_' then
    string
  else if isIntermediate character then
    escapeIntermediates
  else if isParameter character ∨ isFinal character then
    text
  else
    escape

/--
The state behind a character that is not shown.  An escape character begins
anew in every state, a cancel and a substitute character return to text, and
a character without a meaning in the state keeps it.
-/
def after (state : ControlState) (character : Char) : ControlState :=
  if character = '\x1b' then
    escape
  else if character = '\x18' ∨ character = '\x1a' then
    text
  else
    match state with
    | .text => text
    | .escape => afterEscape character
    | .escapeIntermediates =>
        if isParameter character ∨ isFinal character then text else state
    | .sequence =>
        if isFinal character then text else state
    | .device =>
        if isIntermediate character then
          deviceIntermediates
        else if isParameter character then
          deviceParameters
        else if isFinal character then
          string
        else
          state
    | .deviceParameters =>
        if isIntermediate character then
          deviceIntermediates
        else if '<' ≤ character ∧ character ≤ '~' then
          string
        else
          state
    | .deviceIntermediates =>
        if isParameter character ∨ isFinal character then string else state
    | .string =>
        if hasStringTerminator character then text else state
    | .systemCommand =>
        if character = '\x07' then text else state

/-- A control character that is a blank is shown in the state. -/
def showsBlanks : ControlState → Bool
  | .escape => true
  | .escapeIntermediates => true
  | .sequence => true
  | _ => false

end ControlState

/--
The characters that are shown of a text.  A blank inside a sequence is shown
and suspends the sequence: characters are shown up to the next control
character, where the sequence goes on.  A character outside ASCII ends a
suspended sequence.
-/
def shownFrom :
    (state : ControlState) →
    (suspended : Bool) →
    (text : List Char) →
    List Char
  | _, _, [] => []
  | state, suspended, character :: text =>
      if (suspended || state == .text) && isShown character then
        character ::
          shownFrom
            (if character.toNat < 128 then state else .text) suspended text
      else if state.showsBlanks && isControlBlank character then
        character :: shownFrom state true text
      else
        shownFrom (state.after character) false text

/-- The text without control characters, blanks apart, and without control sequences. -/
def withoutControls (text : List Char) : List Char :=
  shownFrom .text false text

/-- Text without control characters stays as it is. -/
theorem withoutControls_of_shown
    (text : List Char)
    (shown : ∀ character ∈ text, isShown character = true) :
    withoutControls text = text := by
  unfold withoutControls
  induction text with
  | nil => rfl
  | cons character text hypothesis =>
      have first : isShown character = true :=
        shown character (List.mem_cons_self ..)
      have others := hypothesis fun other member =>
        shown other (List.mem_cons_of_mem _ member)
      simp [shownFrom, first, others]

/-- Nothing but shown characters is left of a text in any state. -/
theorem isShown_of_mem_shownFrom
    (text : List Char) :
    ∀ (state : ControlState) (suspended : Bool) (character : Char),
      character ∈ shownFrom state suspended text →
        isShown character = true := by
  induction text with
  | nil =>
      intro state suspended character member
      simp [shownFrom] at member
  | cons first text hypothesis =>
      intro state suspended character member
      rw [shownFrom] at member
      split at member
      · next shows =>
          rcases List.mem_cons.1 member with same | later
          · rw [same]
            exact (Bool.and_eq_true_iff.1 shows).2
          · exact hypothesis _ _ _ later
      · split at member
        · next blank =>
            rcases List.mem_cons.1 member with same | later
            · rw [same, isShown, (Bool.and_eq_true_iff.1 blank).2]
              rfl
            · exact hypothesis _ _ _ later
        · exact hypothesis _ _ _ member

/-- Nothing but shown characters is left of a text. -/
theorem isShown_of_mem_withoutControls
    (text : List Char)
    (character : Char)
    (member : character ∈ withoutControls text) :
    isShown character = true :=
  isShown_of_mem_shownFrom text .text false character member

end Formulary
