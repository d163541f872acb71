import Formulary.Engine.Event
import Formulary.Parsing.Parser

/-!
# The cache of parsed formulas

A definition is read and parsed when its formula is first asked for.  What
comes of it is kept: the formula, or the invalid one if the text has a fault
or there is no definition.  A later change of the source is not noticed.
-/

namespace Formulary

/-- Parsed formulas by number. -/
structure FormulaCache where
  entries : List (FormulaId × Formula)

/-- The message about a number without a definition. -/
def unknownFormulaMessage (id : FormulaId) : String :=
  "formula [" ++ idText id ++ "] is not configured"

namespace FormulaCache

/-- The cache without formulas. -/
def empty : FormulaCache :=
  ⟨[]⟩

/-- The formula that is kept for a number. -/
def get? (cache : FormulaCache) (id : FormulaId) : Option Formula :=
  cache.entries.lookup id

/-- A formula is kept for the number. -/
def contains (cache : FormulaCache) (id : FormulaId) : Bool :=
  (cache.get? id).isSome

/-- The number of formulas that are kept. -/
def size (cache : FormulaCache) : Nat :=
  cache.entries.length

/-- The cache with a formula for a number that has none yet. -/
def insert (cache : FormulaCache) (id : FormulaId) (formula : Formula) : FormulaCache :=
  ⟨(id, formula) :: cache.entries⟩

end FormulaCache

/-- The formula of what a source holds for a number, and the events of getting it. -/
def Source.parse
    (source : Source)
    (precedence : Precedence)
    (id : FormulaId) :
    Formula × List Event :=
  match source id with
  | none =>
      (Formula.invalid, [.read id, .fault (unknownFormulaMessage id)])
  | some definition =>
      let (formula, message?) :=
        Formula.parseOrInvalid precedence definition.parameters
          definition.expression
      (formula,
        .read id :: .parsed id definition.expression ::
          (message?.map Event.fault).toList)

namespace FormulaCache

/-- The formula for a number, which is read and parsed if it is not kept yet. -/
def getOrParse
    (cache : FormulaCache)
    (source : Source)
    (precedence : Precedence)
    (id : FormulaId) :
    Formula × FormulaCache × List Event :=
  match cache.get? id with
  | some formula => (formula, cache, [])
  | none =>
      let (formula, events) := source.parse precedence id
      (formula, cache.insert id formula, events)

end FormulaCache

end Formulary
