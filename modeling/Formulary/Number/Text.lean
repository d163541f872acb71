import Formulary.Binary64.Text
import Formulary.Decimal.Text
import Formulary.Number.Binary64
import Formulary.Text.Blank

/-!
# The text of formula values

Reading never fails: text that is no number is not-a-number.  Plain and
scientific decimal text is read exactly where a decimal has room for it, and
by way of a double otherwise.  Blank characters around the number and one
point behind it are ignored.
-/

namespace Formulary.Number

/-- The text without a point at its end, unless the point stands alone or follows another one. -/
def dropFinalPoint (text : List Char) : List Char :=
  match text.reverse with
  | '.' :: '.' :: _ => text
  | '.' :: second :: rest => (second :: rest).reverse
  | _ => text

/-- The value of decimal text, by way of a double where no decimal has room for it. -/
def ofDecimalText (text : List Char) : Number :=
  match Decimal.ofPlainText? text with
  | some decimal => .finite decimal
  | none =>
      match Decimal.ofScientificText? text with
      | some decimal => .finite decimal
      | none =>
          match Binary64.ofText? text with
          | some double => ofBinary64 double
          | none => .nan

/-- The value that a text stands for. -/
def ofText (text : List Char) : Number :=
  let text := trimBlanks text
  if text = "NaN".toList then
    .nan
  else if text = "Infinity".toList ∨ text = "+Infinity".toList then
    .infinite false
  else if text = "-Infinity".toList then
    .infinite true
  else
    ofDecimalText (dropFinalPoint text)

/-- The value that a string stands for. -/
def ofString (string : String) : Number :=
  ofText string.toList

/-- The text of a value; zero has no sign. -/
def text : Number → List Char
  | .finite decimal => decimal.text
  | .infinite false => "Infinity".toList
  | .infinite true => "-Infinity".toList
  | .nan => "NaN".toList

instance : ToString Number where
  toString number := String.ofList number.text

end Formulary.Number
