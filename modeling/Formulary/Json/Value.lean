/-!
# JSON documents

The values of JSON documents as far as configurations look at them.  A text
is kept as it is written and as what it stands for; escapes that stand for no
character leave it without a meaning, which matters only where the meaning
is asked for.
-/

namespace Formulary

/-- A text of a document: what stands between the quotes, and what that means. -/
structure JsonText where
  written : List Char
  meaning? : Option String

/-- A value of a document.  Numbers are not told apart. -/
inductive JsonValue where
  | null
  | bool (value : Bool)
  | number
  | text (text : JsonText)
  | array (items : List JsonValue)
  | object (members : List (JsonText × JsonValue))

end Formulary
