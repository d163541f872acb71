import Formulary.Json.Value

/-!
# The tokens of a JSON text

The text is taken apart character by character.  Between tokens only spaces,
tabs and line ends may stand.  A text token runs up to the first quote that
is not escaped and holds no control character; a word is a run of the
characters of numbers and of `true`, `false` and `null`.
-/

namespace Formulary

/-- A token of a JSON text. -/
inductive JsonToken where
  | openBrace
  | closeBrace
  | openBracket
  | closeBracket
  | colon
  | comma
  | null
  | bool (value : Bool)
  | number
  | text (text : JsonText)

namespace JsonToken

/-! ## Texts -/

/-- The value of a hexadecimal digit. -/
def hexDigit? (digit : Char) : Option Nat :=
  if digit.isDigit then
    some (digit.toNat - '0'.toNat)
  else if 'a' ≤ digit ∧ digit ≤ 'f' then
    some (digit.toNat - 'a'.toNat + 10)
  else if 'A' ≤ digit ∧ digit ≤ 'F' then
    some (digit.toNat - 'A'.toNat + 10)
  else
    none

/-- The value of four hexadecimal digits. -/
def hexCode? (first second third fourth : Char) : Option Nat := do
  let first ← hexDigit? first
  let second ← hexDigit? second
  let third ← hexDigit? third
  let fourth ← hexDigit? fourth
  some (((first * 16 + second) * 16 + third) * 16 + fourth)

/-- The character of an escape of one letter. -/
def simpleEscape? : Char → Option Char
  | '"' => some '"'
  | '\\' => some '\\'
  | '/' => some '/'
  | 'b' => some '\x08'
  | 'f' => some '\x0c'
  | 'n' => some '\n'
  | 'r' => some '\x0d'
  | 't' => some '\t'
  | _ => none

/-- A part of a text: a character, or one half of a pair of escapes. -/
inductive Unit16 where
  | character (character : Char)
  | high (code : Nat)
  | low (code : Nat)

/-- The part that a sixteen-bit code stands for. -/
def Unit16.ofCode (code : Nat) : Unit16 :=
  if 0xD800 ≤ code ∧ code < 0xDC00 then
    .high (code - 0xD800)
  else if 0xDC00 ≤ code ∧ code < 0xE000 then
    .low (code - 0xDC00)
  else
    .character (Char.ofNat code)

/-- The parts of a text, the last one in front; nothing when an escape is malformed. -/
def partsOf? : (written : List Char) → (parts : List Unit16) → Option (List Unit16)
  | [], parts => some parts
  | '\\' :: 'u' :: first :: second :: third :: fourth :: rest, parts => do
      let code ← hexCode? first second third fourth
      partsOf? rest (.ofCode code :: parts)
  | '\\' :: escape :: rest, parts => do
      let character ← simpleEscape? escape
      partsOf? rest (.character character :: parts)
  | character :: rest, parts =>
      if character = '\\' then
        none
      else
        partsOf? rest (.character character :: parts)

/--
The characters of parts, given with the last one in front.  A high half must
be followed by a low one, and a low one must follow a high one.
-/
def joinParts? : (parts : List Unit16) → (characters : List Char) → Option (List Char)
  | [], characters => some characters
  | .character character :: parts, characters =>
      joinParts? parts (character :: characters)
  | .low low :: .high high :: parts, characters =>
      joinParts? parts
        (Char.ofNat (0x10000 + high * 0x400 + low) :: characters)
  | _, _ => none

/-- The token of a text between quotes, unless an escape in it is malformed. -/
def ofWritten? (written : List Char) : Option JsonToken := do
  let parts ← partsOf? written []
  some
    (.text
      { written
        meaning? := (joinParts? parts []).map String.ofList })

/-! ## Words -/

/-- At least one digit, and nothing else. -/
def isDigits (text : List Char) : Bool :=
  !text.isEmpty && text.all Char.isDigit

/-- Digits without a leading zero in front of another one. -/
def isWholeNumber : List Char → Bool
  | ['0'] => true
  | '0' :: _ => false
  | digits => isDigits digits

/-- The exponent of a number, or none. -/
def isExponent : List Char → Bool
  | [] => true
  | _ :: '+' :: digits => isDigits digits
  | _ :: '-' :: digits => isDigits digits
  | _ :: digits => isDigits digits

/-- The fraction of a number, or none. -/
def isFraction : List Char → Bool
  | [] => true
  | _ :: digits => isDigits digits

/-- The characters that begin an exponent. -/
def isExponentMark (character : Char) : Bool :=
  character == 'e' || character == 'E'

/-- A number without its sign. -/
def isUnsignedNumber (word : List Char) : Bool :=
  let plain := word.takeWhile (!isExponentMark ·)
  isWholeNumber (plain.takeWhile (· != '.')) &&
    isFraction (plain.dropWhile (· != '.')) &&
    isExponent (word.dropWhile (!isExponentMark ·))

/-- A number. -/
def isNumber : List Char → Bool
  | '-' :: word => isUnsignedNumber word
  | word => isUnsignedNumber word

/-- The token of a word, if it is one. -/
def ofWord? (word : List Char) : Option JsonToken :=
  if word = "null".toList then
    some .null
  else if word = "true".toList then
    some (.bool true)
  else if word = "false".toList then
    some (.bool false)
  else if isNumber word then
    some .number
  else
    none

/-- The characters of words. -/
def isWordCharacter (character : Char) : Bool :=
  character.isAlphanum || character == '+' || character == '-' ||
    character == '.'

/-- The token of a character that is one by itself. -/
def ofMark? : Char → Option JsonToken
  | '{' => some .openBrace
  | '}' => some .closeBrace
  | '[' => some .openBracket
  | ']' => some .closeBracket
  | ':' => some .colon
  | ',' => some .comma
  | _ => none

/-- The characters that may stand between tokens. -/
def isSpace (character : Char) : Bool :=
  character == ' ' || character == '\t' || character == '\n' ||
    character == '\x0d'

/-! ## The tokens of a text -/

/-- Where a text is being taken apart; the characters of the open token are reversed. -/
inductive Place where
  | between
  | word (characters : List Char)
  | text (characters : List Char)
  | escape (characters : List Char)

/-- The tokens found, the last one in front, and the place reached. -/
structure Lexer where
  tokens : List JsonToken
  place : Place

namespace Lexer

/-- The tokens up to the end of the open word, if one is open. -/
def closeWord? (lexer : Lexer) : Option (List JsonToken) :=
  match lexer.place with
  | .between => some lexer.tokens
  | .word characters => do
      some ((← ofWord? characters.reverse) :: lexer.tokens)
  | _ => none

/-- Take a character that is outside of texts. -/
def takeOutside? (lexer : Lexer) (character : Char) : Option Lexer := do
  let tokens ← lexer.closeWord?
  if isSpace character then
    some ⟨tokens, .between⟩
  else if character = '"' then
    some ⟨tokens, .text []⟩
  else
    some ⟨(← ofMark? character) :: tokens, .between⟩

/-- Take one character. -/
def take? (lexer : Lexer) (character : Char) : Option Lexer :=
  match lexer.place with
  | .between =>
      if isWordCharacter character then
        some { lexer with place := .word [character] }
      else
        lexer.takeOutside? character
  | .word characters =>
      if isWordCharacter character then
        some { lexer with place := .word (character :: characters) }
      else
        lexer.takeOutside? character
  | .text characters =>
      if character = '"' then do
        some ⟨(← ofWritten? characters.reverse) :: lexer.tokens, .between⟩
      else if character = '\\' then
        some { lexer with place := .escape (character :: characters) }
      else if character.toNat < 0x20 then
        none
      else
        some { lexer with place := .text (character :: characters) }
  | .escape characters =>
      if character.toNat < 0x20 then
        none
      else
        some { lexer with place := .text (character :: characters) }

end Lexer

/-- The tokens of a text; nothing when it cannot be taken apart. -/
def ofText? (text : List Char) : Option (List JsonToken) := do
  let lexer ← text.foldlM Lexer.take? ⟨[], .between⟩
  let tokens ← lexer.closeWord?
  some tokens.reverse

end JsonToken

end Formulary
