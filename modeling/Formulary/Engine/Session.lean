import Formulary.Engine.Basic

/-!
# Sessions

A session is an engine at work: it has a source, whose definitions may
change, and a sink that collects messages, which may be replaced by an empty
one.  It counts how often the source was asked.
-/

namespace Formulary

/-- An engine with its source, the messages of its present sink and the reads so far. -/
structure Session where
  source : Source
  engine : Engine
  messages : List String
  reads : Nat

namespace Session

/-- A session with a fresh engine and an empty sink. -/
def start (source : Source) (options : EngineOptions) : Session :=
  ⟨source, Engine.fresh options, [], 0⟩

/-- The session after a request was answered. -/
def record
    {Value : Type}
    (session : Session)
    (answer : Answer Value) :
    Session :=
  { session with
    engine := answer.engine
    messages := session.messages ++ messagesOf answer.events
    reads := session.reads + readsOf answer.events }

/-- Ask for the value of a formula. -/
def evaluate
    (session : Session)
    (id : FormulaId)
    (arguments : List Number) :
    Answer Number :=
  session.engine.evaluate session.source id arguments

/-- Ask for the value of a formula, with arguments given as texts. -/
def evaluateTexts
    (session : Session)
    (id : FormulaId)
    (arguments : List String) :
    Answer Number :=
  session.engine.evaluateTexts session.source id arguments

/-- Ask for a formula. -/
def formula (session : Session) (id : FormulaId) : Answer Formula :=
  session.engine.formula session.source id

/-- Change the definitions that the source holds. -/
def redefine (session : Session) (source : Source) : Session :=
  { session with source }

/-- Replace the sink by an empty one. -/
def replaceSink (session : Session) : Session :=
  { session with messages := [] }

end Session

end Formulary
