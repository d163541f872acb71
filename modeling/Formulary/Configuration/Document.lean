import Formulary.Configuration.Table
import Formulary.Json.Reader
import Formulary.Parsing.Precedence

/-!
# Configuration documents

A configuration is a JSON document with engine options and a table of
formulas; a table may also be a document of its own.  Structures are written
as objects, where unknown fields are ignored and known ones come at most
once, or as arrays of their fields in order.  Formulas are keyed by number,
and the last one with a number counts.
-/

namespace Formulary

/-- The options of an engine. -/
structure EngineOptions where
  /-- Results are kept by formula and arguments. -/
  cacheResults : Bool
  precedence : Precedence
deriving DecidableEq

instance : Inhabited EngineOptions :=
  ⟨⟨true, .climbing⟩⟩

/-- Engine options with a table of formulas. -/
structure Configuration where
  options : EngineOptions
  formulas : Table

/-- Why a document is no configuration. -/
inductive ConfigurationError where
  /-- The document is malformed or has another form. -/
  | malformed
  /-- A definition lists a parameter twice. -/
  | repeatedParameter (fault : RepeatedParameter)
deriving DecidableEq

namespace JsonValue

/-- The meaning of a text. -/
def text? : JsonValue → Option String
  | .text quoted => quoted.meaning?
  | _ => none

/-- The truth value. -/
def bool? : JsonValue → Option Bool
  | .bool value => some value
  | _ => none

/-- The texts of an array. -/
def texts? : JsonValue → Option (List String)
  | .array items => items.mapM text?
  | _ => none

end JsonValue

/-! ## Fields -/

/-- The members of an object by the meanings of their keys, all of which must have one. -/
def namedMembers?
    (members : List (JsonText × JsonValue)) :
    Option (List (String × JsonValue)) :=
  members.mapM fun member => do
    some (← member.1.meaning?, member.2)

/--
The field with one of the names, read by `read`, or the default if it is
absent.  A field that is given twice or cannot be read is refused.
-/
def optionalField?
    {Value : Type}
    (members : List (String × JsonValue))
    (names : List String)
    (read : JsonValue → Option Value)
    (default : Value) :
    Option Value :=
  match members.filter fun member => names.contains member.1 with
  | [] => some default
  | [member] => read member.2
  | _ => none

/-- The field with a name, read by `read`.  It must be there. -/
def requiredField?
    {Value : Type}
    (members : List (String × JsonValue))
    (name : String)
    (read : JsonValue → Option Value) :
    Option Value :=
  match members.filter fun member => member.1 == name with
  | [member] => read member.2
  | _ => none

/-! ## Parts of a configuration -/

/-- The precedence mode with a name. -/
def Precedence.ofName? : String → Option Precedence
  | "climbing" => some .climbing
  | "single-level" => some .singleLevel
  | _ => none

/-- A precedence mode: its name, or an object of its name and null. -/
def Precedence.ofJson? : JsonValue → Option Precedence
  | .text quoted => quoted.meaning? >>= ofName?
  | .object [(key, .null)] => key.meaning? >>= ofName?
  | _ => none

/-- Engine options: an object, or an array of at most the two fields. -/
def EngineOptions.ofJson? : JsonValue → Option EngineOptions
  | .object members => do
      let members ← namedMembers? members
      let cacheResults ←
        optionalField? members ["cache_results"] JsonValue.bool? true
      let precedence ←
        optionalField? members ["precedence"] Precedence.ofJson? .climbing
      some { cacheResults, precedence }
  | .array [] => some default
  | .array [cacheResults] => do
      some { cacheResults := ← cacheResults.bool?, precedence := .climbing }
  | .array [cacheResults, precedence] => do
      some
        { cacheResults := ← cacheResults.bool?
          precedence := ← Precedence.ofJson? precedence }
  | _ => none

/-- A definition: an object, or an array of its text and perhaps its parameters. -/
def Definition.ofJson? : JsonValue → Option Definition
  | .object members => do
      let members ← namedMembers? members
      let expression ← requiredField? members "expression" JsonValue.text?
      let parameters ←
        optionalField? members ["parameters", "parameter"] JsonValue.texts? []
      some { expression, parameters }
  | .array [expression] => do
      some { expression := ← expression.text?, parameters := [] }
  | .array [expression, parameters] => do
      some
        { expression := ← expression.text?
          parameters := ← parameters.texts? }
  | _ => none

/-- A formula number as a key: digits without a leading zero, below `2 ^ 32`. -/
def formulaIdOfKey? (key : JsonText) : Option FormulaId :=
  if JsonToken.isWholeNumber key.written then
    let value := Nat.ofDigitChars 10 key.written 0
    if value < UInt32.size then some (UInt32.ofNat value) else none
  else
    none

/-- A table: an object of definitions by number. -/
def Table.ofJson? : JsonValue → Option Table
  | .object members => do
      let entries ← members.mapM fun member => do
        some (← formulaIdOfKey? member.1, ← Definition.ofJson? member.2)
      some (Table.ofEntries entries)
  | _ => none

/-- A configuration: an object, or an array of both fields. -/
def Configuration.ofJson? : JsonValue → Option Configuration
  | .object members => do
      let members ← namedMembers? members
      let options ←
        optionalField? members ["options"] EngineOptions.ofJson? default
      let formulas ← requiredField? members "formulas" Table.ofJson?
      some { options, formulas }
  | .array [options, formulas] => do
      some
        { options := ← EngineOptions.ofJson? options
          formulas := ← Table.ofJson? formulas }
  | _ => none

/-! ## Loading -/

/-- Refuse a table with a repeated parameter. -/
def Table.validate (table : Table) : Except ConfigurationError Unit :=
  match table.repeated? with
  | some fault => .error (.repeatedParameter fault)
  | none => .ok ()

/-- The table that a text stands for, with validated definitions. -/
def Table.load (text : String) : Except ConfigurationError Table :=
  match JsonValue.ofString? text >>= Table.ofJson? with
  | none => .error .malformed
  | some table => table.validate.map fun _ => table

/-- The configuration that a text stands for, with validated definitions. -/
def Configuration.load (text : String) : Except ConfigurationError Configuration :=
  match JsonValue.ofString? text >>= Configuration.ofJson? with
  | none => .error .malformed
  | some configuration =>
      configuration.formulas.validate.map fun _ => configuration

end Formulary
