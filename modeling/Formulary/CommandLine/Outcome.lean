import Formulary.CommandLine.Request
import Formulary.Engine.Basic
import Formulary.Formula.Text
import Formulary.Text.Blank
import Formulary.Text.Control

/-!
# Carrying out requests

What the program prints and the code that it ends with, computed from a
request and the text of the file that the request names.
-/

namespace Formulary

/-- What the program prints and the code that it ends with. -/
structure Outcome where
  code : Nat
  output : String
  /-- The text of the error output. -/
  errors : String
deriving DecidableEq

namespace Outcome

/-- Success, with a line of output unless it is empty. -/
def success (output errors : String) : Outcome :=
  ⟨0, if output.isEmpty then "" else output ++ "\n", errors⟩

/-- Failure, with a line for the message behind other text of the error output. -/
def failure (message errors : String) : Outcome :=
  ⟨1, "", errors ++ "Error: " ++ message ++ "\n"⟩

end Outcome

/--
An entry of the log.  Its lines but the first are indented by four blanks, and
it is written without control characters.  A control sequence that does not
end in the message takes characters behind it away, the end of the line too.
-/
def logText (label message : String) : String :=
  let lines := "\n    ".intercalate ((label ++ message).splitOn "\n") ++ "\n"
  String.ofList (withoutControls lines.toList)

/-- The log entries that the program shows of events. -/
def shownLog (events : List Event) : List String :=
  (messagesOf events).map (logText "[ERROR abacus_formula::diagnostics] ")

/-- The warning about an argument that is no number, unless it says so itself. -/
def argumentWarning? (argument : String) : Option String :=
  if (Number.ofString argument).isNaN ∧
      trimBlanks argument.toList ≠ "NaN".toList then
    some
      (logText "[WARN abacus] "
        ("Argument [" ++ argument ++ "] is not a number"))
  else
    none

/-- Print the value of a formula. -/
def runEval
    (configuration : Configuration)
    (id : FormulaId)
    (arguments : List String) :
    Outcome :=
  let answer :=
    (Engine.fresh configuration.options).evaluateTexts
      configuration.formulas.source id arguments
  .success (toString answer.value)
    (String.join
      (arguments.filterMap argumentWarning? ++ shownLog answer.events))

/-- What a check finds: the lines to print and the number of invalid formulas. -/
structure CheckReport where
  lines : List String
  invalid : Nat

/-- Check the formulas with the given numbers, one after the other. -/
def checkFormulas
    (source : Source) :
    (engine : Engine) → (ids : List FormulaId) → CheckReport
  | _, [] => ⟨[], 0⟩
  | engine, id :: ids =>
      let answer := engine.formula source id
      let report := checkFormulas source answer.engine ids
      if answer.value.isInvalid then
        let lines :=
          (messagesOf answer.events).map fun message =>
            idText id ++ "\terror\t" ++ message
        ⟨lines ++ report.lines, report.invalid + 1⟩
      else
        ⟨(idText id ++ "\tok") :: report.lines, report.invalid⟩

/-- Parse every formula. -/
def runCheck (configuration : Configuration) : Outcome :=
  let table := configuration.formulas
  let report :=
    checkFormulas table.source (Engine.fresh configuration.options) table.ids
  let text := "\n".intercalate report.lines
  if report.invalid = 0 then
    .success text ""
  else
    .failure
      (String.ofList (Nat.toDigits 10 report.invalid) ++ " of " ++
        String.ofList (Nat.toDigits 10 table.size) ++
        " formulas are invalid")
      (text ++ "\n")

/-- Print a formula with explicit groups. -/
def runShow (configuration : Configuration) (id : FormulaId) : Outcome :=
  match configuration.formulas.get? id with
  | none => .failure ("Formula " ++ idText id ++ " is not configured") ""
  | some definition =>
      let answer :=
        (Engine.fresh configuration.options).formula
          configuration.formulas.source id
      if answer.value.isInvalid then
        .failure ("; ".intercalate (messagesOf answer.events)) ""
      else
        .success (answer.value.displayWith definition.parameters) ""

/-- Carry out a command on a configuration. -/
def Command.run (command : Command) (configuration : Configuration) : Outcome :=
  match command with
  | .eval id arguments => runEval configuration id arguments
  | .check => runCheck configuration
  | .show id => runShow configuration id

/-- A configuration with the options of the command line. -/
def Configuration.override
    (configuration : Configuration)
    (flags : Flags) :
    Configuration :=
  { configuration with options := flags.override configuration.options }

/--
The text that explains the commands and the options.  All questions for help
are answered with it.
-/
def helpText : String :=
  "Evaluate and check configured decimal formulas\n\n" ++
    "Usage: abacus [OPTIONS] <COMMAND>\n\n" ++
    "Commands:\n" ++
    "  eval   Evaluate a formula and print the result\n" ++
    "  check  Parse every formula and report the invalid ones\n" ++
    "  show   Print the parsed structure of a formula with explicit groups\n" ++
    "  help   Print this message or the help of the given subcommand(s)\n\n" ++
    "Options:\n" ++
    "      --no-cache                 " ++
    "Do not memoize results (overrides the config file)\n" ++
    "      --single-level-precedence  " ++
    "Group operators with the single-level precedence rule\n" ++
    "  -h, --help                     Print help\n" ++
    "  -V, --version                  Print version"

namespace Request

/-- The path of the file that the request needs. -/
def path? : Request → Option String
  | .run _ path _ => some path
  | _ => none

/-- Carry out a request, given the text of its file if that can be read. -/
def carryOut (request : Request) (file : Option String) : Outcome :=
  match request with
  | .version => .success "abacus 0.1.0" ""
  | .help => .success helpText ""
  | .refused => ⟨2, "", ""⟩
  | .run flags path command =>
      match file.map Configuration.load with
      | some (.ok configuration) =>
          command.run (configuration.override flags)
      | _ => .failure ("Failed to load '" ++ path ++ "'") ""

end Request

end Formulary
