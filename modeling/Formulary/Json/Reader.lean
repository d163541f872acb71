import Formulary.Json.Token

/-!
# Reading JSON texts

A document is one value.  Its tokens are taken one after the other, with a
stack of the arrays and objects that are still open, so that the depth of a
document is not limited by that of the call stack.
-/

namespace Formulary

namespace JsonValue

/-- An array or object that is still open, its parts in reverse. -/
inductive Container where
  | array (items : List JsonValue)
  | object (members : List (JsonText × JsonValue)) (key : JsonText)

/-- What the next token has to be. -/
inductive Expected where
  /-- A value. -/
  | value
  /-- A value or the end of an array that has no items yet. -/
  | firstItem
  /-- A key of an object with these members. -/
  | key (members : List (JsonText × JsonValue))
  /-- A key or the end of an object that has no members yet. -/
  | firstKey
  /-- The colon behind a key of an object with these members. -/
  | colon (members : List (JsonText × JsonValue)) (key : JsonText)
  /-- A comma or the end of the innermost container. -/
  | separator
  /-- Nothing: the document is complete. -/
  | nothing (document : JsonValue)

/-- The open containers, innermost first, and what comes next. -/
structure Reader where
  containers : List Container
  expected : Expected

namespace Reader

/-- The reader behind a complete value. -/
def complete (containers : List Container) (value : JsonValue) : Reader :=
  match containers with
  | [] => ⟨[], .nothing value⟩
  | .array items :: containers =>
      ⟨.array (value :: items) :: containers, .separator⟩
  | .object members key :: containers =>
      ⟨.object ((key, value) :: members) key :: containers, .separator⟩

/-- Take the first token of a value. -/
def takeValue? (containers : List Container) : JsonToken → Option Reader
  | .null => some (complete containers .null)
  | .bool value => some (complete containers (.bool value))
  | .number => some (complete containers .number)
  | .text quoted => some (complete containers (.text quoted))
  | .openBracket => some ⟨.array [] :: containers, .firstItem⟩
  | .openBrace => some ⟨containers, .firstKey⟩
  | _ => none

/-- Take a token behind a value inside a container. -/
def takeSeparator? (containers : List Container) (token : JsonToken) : Option Reader :=
  match containers, token with
  | .array _ :: _, .comma => some ⟨containers, .value⟩
  | .array items :: outer, .closeBracket =>
      some (complete outer (.array items.reverse))
  | .object members _ :: outer, .comma => some ⟨outer, .key members⟩
  | .object members _ :: outer, .closeBrace =>
      some (complete outer (.object members.reverse))
  | _, _ => none

/-- Take one token. -/
def take? (reader : Reader) (token : JsonToken) : Option Reader :=
  match reader.expected, token with
  | .value, token => takeValue? reader.containers token
  | .firstItem, .closeBracket =>
      some (complete (reader.containers.drop 1) (.array []))
  | .firstItem, token => takeValue? reader.containers token
  | .firstKey, .closeBrace => some (complete reader.containers (.object []))
  | .firstKey, .text key => some { reader with expected := .colon [] key }
  | .key members, .text key =>
      some { reader with expected := .colon members key }
  | .colon members key, .colon =>
      some ⟨.object members key :: reader.containers, .value⟩
  | .separator, token => takeSeparator? reader.containers token
  | _, _ => none

end Reader

/-- The value that a text stands for; nothing when the text is malformed. -/
def ofString? (text : String) : Option JsonValue := do
  let tokens ← JsonToken.ofText? text.toList
  let reader ← tokens.foldlM Reader.take? ⟨[], .value⟩
  match reader.expected with
  | .nothing document => some document
  | _ => none

end JsonValue

end Formulary
