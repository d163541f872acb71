import Formulary.Configuration.Table
import Formulary.Number.Basic

/-!
# The cache of results

A result is kept under a formula number and an argument list.  Argument
lists are compared as numbers, so `2` and `2.00` share their results.
-/

namespace Formulary

/-- A result that is kept. -/
structure CachedResult where
  id : FormulaId
  arguments : List Number
  value : Number

namespace CachedResult

/-- The result is kept under a number and numerically equal arguments. -/
def answers
    (result : CachedResult)
    (id : FormulaId)
    (arguments : List Number) :
    Bool :=
  result.id == id && result.arguments == arguments

end CachedResult

/-- Results by number and arguments. -/
structure ResultCache where
  entries : List CachedResult

namespace ResultCache

/-- The cache without results. -/
def empty : ResultCache :=
  ⟨[]⟩

/-- The result that is kept under a number and arguments. -/
def get?
    (cache : ResultCache)
    (id : FormulaId)
    (arguments : List Number) :
    Option Number :=
  (cache.entries.find? (·.answers id arguments)).map CachedResult.value

/-- Entries with a result added, or replaced if there is one under its number and arguments. -/
def insertEntry (added : CachedResult) : List CachedResult → List CachedResult
  | [] => [added]
  | result :: results =>
      if result.answers added.id added.arguments then
        { result with value := added.value } :: results
      else
        result :: insertEntry added results

/-- The cache with a result added or replaced. -/
def insert
    (cache : ResultCache)
    (id : FormulaId)
    (arguments : List Number)
    (value : Number) :
    ResultCache :=
  ⟨insertEntry ⟨id, arguments, value⟩ cache.entries⟩

/-- The number of results that are kept for a formula. -/
def sizeFor (cache : ResultCache) (id : FormulaId) : Nat :=
  cache.entries.countP (·.id == id)

/-- The number of results that are kept. -/
def size (cache : ResultCache) : Nat :=
  cache.entries.length

/-- No result is kept. -/
def isEmpty (cache : ResultCache) : Bool :=
  cache.size == 0

end ResultCache

end Formulary
