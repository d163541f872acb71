/-!
# Formula definitions

A definition is a formula text with the names of its parameters, and a table
holds definitions by their numbers, in ascending order.  The names of one
definition have to differ; validation finds the first one that does not, in
the definition with the lowest number.
-/

namespace Formulary

/-- The number of a configured formula. -/
abbrev FormulaId :=
  UInt32

/-- A formula text and the names of its parameters, in the order of arguments. -/
structure Definition where
  expression : String
  parameters : List String
deriving DecidableEq

/-- Where definitions are looked up. -/
abbrev Source :=
  FormulaId → Option Definition

/-- A parameter name that a definition lists twice. -/
structure RepeatedParameter where
  name : String
  expression : String
deriving DecidableEq

namespace RepeatedParameter

/-- The line that reports the repetition. -/
def message (fault : RepeatedParameter) : String :=
  "Invalid configuration: parameter [" ++ fault.name ++
    "] is listed twice for formula [" ++ fault.expression ++ "]"

end RepeatedParameter

/-- The first name that is among those seen before or equals one in front of it. -/
def firstRepeated? : (seen names : List String) → Option String
  | _, [] => none
  | seen, name :: names =>
      if name ∈ seen then
        some name
      else
        firstRepeated? (name :: seen) names

namespace Definition

/-- The first parameter name that is listed twice, if there is one. -/
def repeated? (definition : Definition) : Option RepeatedParameter :=
  (firstRepeated? [] definition.parameters).map
    (⟨·, definition.expression⟩)

end Definition

/-- Definitions by number, in ascending order of the numbers. -/
structure Table where
  entries : List (FormulaId × Definition)

namespace Table

/-- The table without definitions. -/
def empty : Table :=
  ⟨[]⟩

/-- Ordered entries with one more, which takes the place of an entry with its number. -/
def insertEntry
    (id : FormulaId)
    (definition : Definition) :
    List (FormulaId × Definition) → List (FormulaId × Definition)
  | [] => [(id, definition)]
  | entry :: entries =>
      if id < entry.1 then
        (id, definition) :: entry :: entries
      else if id = entry.1 then
        (id, definition) :: entries
      else
        entry :: insertEntry id definition entries

/-- The table with a definition added or replaced. -/
def insert (table : Table) (id : FormulaId) (definition : Definition) : Table :=
  ⟨insertEntry id definition table.entries⟩

/-- The table of definitions added one after the other. -/
def ofEntries (entries : List (FormulaId × Definition)) : Table :=
  entries.foldl (fun table entry => table.insert entry.1 entry.2) empty

/-- The definition with a number. -/
def get? (table : Table) (id : FormulaId) : Option Definition :=
  table.entries.lookup id

/-- The numbers of the definitions. -/
def ids (table : Table) : List FormulaId :=
  table.entries.map Prod.fst

/-- The number of definitions. -/
def size (table : Table) : Nat :=
  table.entries.length

/-- The table as a source of definitions. -/
def source (table : Table) : Source :=
  table.get?

/-- The first repeated parameter of the definition with the lowest number that has one. -/
def repeated? (table : Table) : Option RepeatedParameter :=
  table.entries.findSome? fun entry => entry.2.repeated?

end Table

end Formulary
