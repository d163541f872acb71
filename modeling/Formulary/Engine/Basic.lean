import Formulary.Configuration.Document
import Formulary.Engine.FormulaCache
import Formulary.Engine.ResultCache
import Formulary.Formula.Evaluation

/-!
# The formula engine

An engine evaluates formulas by number.  It keeps parsed formulas and, if
its options say so, results.  A result that is kept is given again without a
look at the formula.

The source of definitions does not belong to the engine: each request is
given the source as it is at that time.
-/

namespace Formulary

/-- The options and the caches of an engine. -/
structure Engine where
  options : EngineOptions
  formulas : FormulaCache
  results : ResultCache

/-- The answer to a request, the engine afterwards, and what happened. -/
structure Answer (Value : Type) where
  value : Value
  engine : Engine
  events : List Event

namespace Engine

/-- An engine with nothing in its caches. -/
def fresh (options : EngineOptions) : Engine :=
  ⟨options, .empty, .empty⟩

/-- The formula for a number. -/
def formula
    (engine : Engine)
    (source : Source)
    (id : FormulaId) :
    Answer Formula :=
  let (formula, formulas, events) :=
    engine.formulas.getOrParse source engine.options.precedence id
  { value := formula
    engine := { engine with formulas }
    events }

/-- The value of the formula for a number, computed and kept if the options say so. -/
def compute
    (engine : Engine)
    (source : Source)
    (id : FormulaId)
    (arguments : List Number) :
    Answer Number :=
  let parsed := engine.formula source id
  let value := parsed.value.evaluate arguments
  if engine.options.cacheResults then
    { value
      engine :=
        { parsed.engine with
          results := parsed.engine.results.insert id arguments value }
      events := parsed.events }
  else
    { parsed with value }

/-- The value of the formula for a number under an argument list. -/
def evaluate
    (engine : Engine)
    (source : Source)
    (id : FormulaId)
    (arguments : List Number) :
    Answer Number :=
  if engine.options.cacheResults then
    match engine.results.get? id arguments with
    | some value => ⟨value, engine, [.hit id arguments]⟩
    | none => engine.compute source id arguments
  else
    engine.compute source id arguments

/-- The value of the formula for a number, with arguments given as texts. -/
def evaluateTexts
    (engine : Engine)
    (source : Source)
    (id : FormulaId)
    (arguments : List String) :
    Answer Number :=
  engine.evaluate source id (arguments.map Number.ofString)

end Engine

end Formulary
