import Formulary.Configuration.Table
import Formulary.Number.Text

/-!
# Events of an engine

What an engine does besides answering: it reads definitions, parses them,
finds results in its cache and meets faults.  Events are listed in the order
in which they happen; a log shows some of them.
-/

namespace Formulary

/-- The text of arguments, joined by underscores. -/
def argumentsText (arguments : List Number) : String :=
  "_".intercalate (arguments.map toString)

/-- The digits of a formula number. -/
def idText (id : FormulaId) : String :=
  String.ofList (Nat.toDigits 10 id.toNat)

/-- Something that an engine does besides answering. -/
inductive Event where
  /-- The source was asked for a definition. -/
  | read (id : FormulaId)
  /-- A formula text was parsed. -/
  | parsed (id : FormulaId) (expression : String)
  /-- A result was found in the cache. -/
  | hit (id : FormulaId) (arguments : List Number)
  /-- A fault was reported. -/
  | fault (message : String)

/-- How much an entry of a log matters. -/
inductive Severity where
  | error
  | warning
  | debug
  | trace
deriving DecidableEq

/-- An entry of a log. -/
structure LogEntry where
  severity : Severity
  text : String

namespace Event

/-- The message of a fault. -/
def message? : Event → Option String
  | .fault message => some message
  | _ => none

/-- The source was asked. -/
def isRead : Event → Bool
  | .read _ => true
  | _ => false

/-- What a log shows of the event. -/
def logEntry? : Event → Option LogEntry
  | .read _ => none
  | .parsed id expression =>
      some ⟨.debug, "Parsing formula " ++ idText id ++ ": " ++ expression⟩
  | .hit id arguments =>
      some
        ⟨.trace,
          "Formula " ++ idText id ++ " cache hit for [" ++
            argumentsText arguments ++ "]"⟩
  | .fault message => some ⟨.error, message⟩

end Event

/-- The messages among events. -/
def messagesOf (events : List Event) : List String :=
  events.filterMap Event.message?

/-- The number of times that events ask the source. -/
def readsOf (events : List Event) : Nat :=
  events.countP Event.isRead

end Formulary
