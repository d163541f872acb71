/-!
# Errors of formula texts

The ways in which a formula text can be malformed, and the one line that
reports each of them.  The expression of an error is the formula itself or
the text between two brackets of it; a position counts the characters of
that expression.
-/

namespace Formulary

/-- A fault of a formula text. -/
inductive ParseError where
  /-- A name that is no parameter. -/
  | unknownParameter
      (formula name : String)
      (parameters : List String)
  /-- A closing bracket without an opening one. -/
  | unexpectedClosing
      (formula expression : String)
      (position : Nat)
  /-- An opening bracket without a closing one. -/
  | missingClosing
      (formula expression : String)
  /-- A pair of brackets with nothing inside. -/
  | emptyGroup
      (formula expression : String)
      (position : Nat)
  /-- A character that begins no token. -/
  | illegalCharacter
      (formula expression : String)
      (character : Char)
      (position : Nat)
  /-- An operator with nothing on one of its sides. -/
  | missingOperand
      (formula expression : String)
      (operator : Char)
      (position : Nat)
  /-- Two operands with no operator between them. -/
  | missingOperator
      (formula expression : String)
      (position : Nat)
  /-- A text of no characters. -/
  | emptyFormula
deriving DecidableEq

namespace ParseError

/-- The beginning of a message about an expression of a formula. -/
def subject (formula expression : String) : String :=
  "expression [" ++ expression ++ "] in formula [" ++ formula ++ "]"

/-- The end of a message about a position. -/
def place (position : Nat) : String :=
  " at position " ++ String.ofList (Nat.toDigits 10 position)

/-- The line that reports the fault. -/
def message : ParseError → String
  | .unknownParameter formula name parameters =>
      "parameter [" ++ name ++ "] in formula [" ++ formula ++
        "] is not in parameter list [" ++ ",".intercalate parameters ++ "]"
  | .unexpectedClosing formula expression position =>
      subject formula expression ++ " has an unexpected close tag" ++
        place position
  | .missingClosing formula expression =>
      subject formula expression ++ " lacks a close tag"
  | .emptyGroup formula expression position =>
      subject formula expression ++ " has no expression between tags" ++
        place position
  | .illegalCharacter formula expression character position =>
      subject formula expression ++ " has an illegal character [" ++
        String.singleton character ++ "]" ++ place position
  | .missingOperand formula expression operator position =>
      subject formula expression ++ " lacks an operand for [" ++
        String.singleton operator ++ "]" ++ place position
  | .missingOperator formula expression position =>
      subject formula expression ++ " lacks an operator" ++ place position
  | .emptyFormula => "formula is empty"

end ParseError

end Formulary
