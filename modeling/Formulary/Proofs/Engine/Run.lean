import Formulary.Engine.Session

/-!
# Runs of a session

A session answers requests one after the other, and its source may change
between them.  `Session.run` is the session behind a list of requests.

What a request finds depends on the source at the first request for the same
formula: `sourceAtFirst` is that source, as the list of requests has it.
-/

namespace Formulary

/-- What a session may be asked or told. -/
inductive Session.Request where
  /-- Ask for a value. -/
  | evaluate (id : FormulaId) (arguments : List Number)
  /-- Ask for a value, with arguments given as texts. -/
  | evaluateTexts (id : FormulaId) (arguments : List String)
  /-- Ask for a formula. -/
  | formula (id : FormulaId)
  /-- Replace the sink by an empty one. -/
  | replaceSink
  /-- Change the definitions. -/
  | redefine (source : Source)

namespace Session

namespace Request

/-- The number of the formula that is asked for. -/
def id? : Request → Option FormulaId
  | evaluate id _ => some id
  | evaluateTexts id _ => some id
  | formula id => some id
  | replaceSink => none
  | redefine _ => none

/-- The formula and the arguments whose value is asked for. -/
def evaluation? : Request → Option (FormulaId × List Number)
  | evaluate id arguments => some (id, arguments)
  | evaluateTexts id arguments => some (id, arguments.map Number.ofString)
  | formula _ => none
  | replaceSink => none
  | redefine _ => none

/-- The source behind a request. -/
def sourceAfter (source : Source) : Request → Source
  | redefine source => source
  | _ => source

end Request

/-- The session behind a request. -/
def after (session : Session) : Request → Session
  | .evaluate id arguments => session.record (session.evaluate id arguments)
  | .evaluateTexts id arguments =>
      session.record (session.evaluateTexts id arguments)
  | .formula id => session.record (session.formula id)
  | .replaceSink => session.replaceSink
  | .redefine source => session.redefine source

/-- The value that a request is answered with, if it asks for one. -/
def value? (session : Session) : Request → Option Number
  | .evaluate id arguments => some (session.evaluate id arguments).value
  | .evaluateTexts id arguments =>
      some (session.evaluateTexts id arguments).value
  | _ => none

/-- The session behind a list of requests. -/
def run (session : Session) (requests : List Request) : Session :=
  requests.foldl after session

end Session

/-- A request for a value asks for its formula and leaves the source alone. -/
theorem Session.Request.id?_of_evaluation?
    {request : Session.Request}
    {id : FormulaId}
    {arguments : List Number}
    (asks : request.evaluation? = some (id, arguments)) :
    request.id? = some id ∧
      ∀ source, request.sourceAfter source = source := by
  cases request with
  | evaluate => cases asks; exact ⟨rfl, fun _ => rfl⟩
  | evaluateTexts => cases asks; exact ⟨rfl, fun _ => rfl⟩
  | formula => cases asks
  | replaceSink => cases asks
  | redefine => cases asks

/-- A request for a value is answered and recorded. -/
theorem Session.after_of_evaluation?
    {request : Session.Request}
    {id : FormulaId}
    {arguments : List Number}
    (asks : request.evaluation? = some (id, arguments))
    (session : Session) :
    session.after request = session.record (session.evaluate id arguments) ∧
      session.value? request =
        some (session.evaluate id arguments).value := by
  cases request with
  | evaluate => cases asks; exact ⟨rfl, rfl⟩
  | evaluateTexts => cases asks; exact ⟨rfl, rfl⟩
  | formula => cases asks
  | replaceSink => cases asks
  | redefine => cases asks

/-- Other requests are not answered with a value. -/
theorem Session.value?_of_none
    {request : Session.Request}
    (silent : request.evaluation? = none)
    (session : Session) :
    session.value? request = none := by
  cases request with
  | evaluate => cases silent
  | evaluateTexts => cases silent
  | formula => rfl
  | replaceSink => rfl
  | redefine => rfl

/-! ## What the requests of a run say -/

/-- Some request asks for the formula with the number. -/
def isAccessed (id : FormulaId) (requests : List Session.Request) : Bool :=
  requests.any fun request => request.id? == some id

/-- The source behind a list of requests. -/
def sourceBehind (source : Source) (requests : List Session.Request) : Source :=
  requests.foldl Session.Request.sourceAfter source

theorem sourceBehind_concat
    (source : Source)
    (requests : List Session.Request)
    (request : Session.Request) :
    sourceBehind source (requests ++ [request]) =
      request.sourceAfter (sourceBehind source requests) := by
  rw [sourceBehind, List.foldl_append]
  rfl

/-- The source at the first request for a formula, or behind all requests if there is none. -/
def sourceAtFirst
    (id : FormulaId) :
    (source : Source) → (requests : List Session.Request) → Source
  | source, [] => source
  | source, request :: requests =>
      if request.id? == some id then
        source
      else
        sourceAtFirst id (request.sourceAfter source) requests

/-- The formula of the definition that a source holds, or the invalid one if it holds none. -/
def Source.formula
    (source : Source)
    (precedence : Precedence)
    (id : FormulaId) :
    Formula :=
  match source id with
  | none => Formula.invalid
  | some definition =>
      (Formula.parseOrInvalid precedence definition.parameters
        definition.expression).1

/-- An engine that asks a source for a formula gets that of the definition. -/
theorem Source.parse_formula
    (source : Source)
    (precedence : Precedence)
    (id : FormulaId) :
    (source.parse precedence id).1 = source.formula precedence id := by
  rw [Source.parse, Source.formula]
  cases source id with
  | none => rfl
  | some definition => rfl

/-- The formula of what the source holds at the first request for it. -/
def formulaAtFirst
    (options : EngineOptions)
    (source : Source)
    (requests : List Session.Request)
    (id : FormulaId) :
    Formula :=
  (sourceAtFirst id source requests).formula options.precedence id

/-- The arguments of the first request for a value of a formula under numerically equal arguments. -/
def firstArguments?
    (id : FormulaId)
    (arguments : List Number)
    (requests : List Session.Request) :
    Option (List Number) :=
  ((requests.filterMap Session.Request.evaluation?).find? fun call =>
    call.1 == id && call.2 == arguments).map Prod.snd

@[simp]
theorem isAccessed_concat
    (id : FormulaId)
    (requests : List Session.Request)
    (request : Session.Request) :
    isAccessed id (requests ++ [request]) =
      (isAccessed id requests || request.id? == some id) := by
  simp [isAccessed]

/-- The source of a formula that was asked for does not change any more. -/
theorem sourceAtFirst_append
    (id : FormulaId)
    (source : Source)
    (front back : List Session.Request) :
    sourceAtFirst id source (front ++ back) =
      if isAccessed id front then
        sourceAtFirst id source front
      else
        sourceAtFirst id (sourceBehind source front) back := by
  induction front generalizing source with
  | nil => rfl
  | cons request front hypothesis =>
      rw [List.cons_append, sourceAtFirst, sourceAtFirst, hypothesis]
      by_cases asks : (request.id? == some id) = true
      · simp [isAccessed, asks]
      · simp [isAccessed, asks, sourceBehind]

/-- A formula that was not asked for has the present source. -/
theorem sourceAtFirst_of_not_isAccessed
    {id : FormulaId}
    {requests : List Session.Request}
    (untouched : isAccessed id requests = false)
    (source : Source) :
    sourceAtFirst id source requests = sourceBehind source requests := by
  have appended := sourceAtFirst_append id source requests []
  rw [List.append_nil, untouched] at appended
  exact appended

/-- Only a change of the source changes the source of a formula that was not asked for. -/
theorem sourceAtFirst_concat
    {id : FormulaId}
    {requests : List Session.Request}
    {request : Session.Request}
    (source : Source)
    (settled :
      isAccessed id requests = true ∨
        ∀ source, request.sourceAfter source = source) :
    sourceAtFirst id source (requests ++ [request]) =
      sourceAtFirst id source requests := by
  rw [sourceAtFirst_append]
  split
  · rfl
  · rename_i untouched
    rcases settled with accessed | unchanged
    · exact absurd accessed untouched
    · rw [sourceAtFirst_of_not_isAccessed (Bool.eq_false_iff.2 untouched),
        sourceAtFirst, sourceAtFirst, unchanged, ite_self]

/-- Formulas asked for stay what they are, and the others change with the source only. -/
theorem formulaAtFirst_concat
    {id : FormulaId}
    {requests : List Session.Request}
    {request : Session.Request}
    (options : EngineOptions)
    (source : Source)
    (settled :
      isAccessed id requests = true ∨
        ∀ source, request.sourceAfter source = source) :
    formulaAtFirst options source (requests ++ [request]) id =
      formulaAtFirst options source requests id := by
  rw [formulaAtFirst, sourceAtFirst_concat source settled, formulaAtFirst]

/-- Requests that do not ask for a value do not count as first requests for one. -/
theorem firstArguments?_concat_of_none
    {request : Session.Request}
    (silent : request.evaluation? = none)
    (id : FormulaId)
    (arguments : List Number)
    (requests : List Session.Request) :
    firstArguments? id arguments (requests ++ [request]) =
      firstArguments? id arguments requests := by
  rw [firstArguments?, List.filterMap_append]
  simp [silent, firstArguments?]

/-- A request for a value is the first one of its kind if there is none before it. -/
theorem firstArguments?_concat_of_some
    {request : Session.Request}
    {asked : FormulaId}
    {given : List Number}
    (asks : request.evaluation? = some (asked, given))
    (id : FormulaId)
    (arguments : List Number)
    (requests : List Session.Request) :
    firstArguments? id arguments (requests ++ [request]) =
      (firstArguments? id arguments requests).or
        (if asked == id && given == arguments then some given else none) := by
  rw [firstArguments?, List.filterMap_append, List.find?_append]
  simp only [List.filterMap_cons, asks, List.filterMap_nil, firstArguments?]
  rw [Option.map_or]
  congr 1
  rw [List.find?_singleton]
  split
  · rfl
  · rfl

end Formulary
