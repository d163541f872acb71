import Formulary.Configuration.Document
import Formulary.Decimal.Text

/-!
# Requests of the command line

The program evaluates, checks and shows the formulas of a configuration.
This module reads what it is asked to do off the words of its command line.

Options may stand in front of the command and behind it, each once in either
place, up to the first argument of a formula.
-/

namespace Formulary

/-- The options of the command line, which override those of a configuration. -/
structure Flags where
  noCache : Bool
  singleLevel : Bool
deriving DecidableEq

/-- What the program is asked to do with a configuration. -/
inductive Command where
  /-- Evaluate a formula and print the result. -/
  | eval (id : FormulaId) (arguments : List String)
  /-- Parse every formula and report the invalid ones. -/
  | check
  /-- Print the parsed structure of a formula with explicit groups. -/
  | «show» (id : FormulaId)
deriving DecidableEq

/-- What the words of a command line mean. -/
inductive Request where
  | run (flags : Flags) (path : String) (command : Command)
  | version
  | help
  /-- The words have no meaning. -/
  | refused
deriving DecidableEq

namespace Flags

/-- No option is given. -/
def none : Flags :=
  ⟨false, false⟩

/-- The options that are given in either of two places. -/
def union (left right : Flags) : Flags :=
  ⟨left.noCache || right.noCache, left.singleLevel || right.singleLevel⟩

/-- The options with one more, unless it is given already. -/
def add? (flags : Flags) : String → Option Flags
  | "--no-cache" =>
      if flags.noCache then .none else some { flags with noCache := true }
  | "--single-level-precedence" =>
      if flags.singleLevel then
        .none
      else
        some { flags with singleLevel := true }
  | _ => .none

/-- The engine options as the command line overrides them. -/
def override (flags : Flags) (options : EngineOptions) : EngineOptions :=
  { cacheResults := options.cacheResults && !flags.noCache
    precedence :=
      if flags.singleLevel then .singleLevel else options.precedence }

end Flags

/-! ## Reading the words -/

/-- The names of the commands. -/
inductive CommandName where
  | eval
  | check
  | «show»
deriving DecidableEq

namespace CommandName

/-- The command with a name. -/
def ofWord? : String → Option CommandName
  | "eval" => some .eval
  | "check" => some .check
  | "show" => some .show
  | _ => none

end CommandName

/-- A word of the form of an option. -/
def isOptionLike (word : String) : Bool :=
  match word.toList with
  | '-' :: _ :: _ => true
  | _ => false

/-- A known option. -/
def isFlag (word : String) : Bool :=
  word == "--no-cache" || word == "--single-level-precedence"

/-- A known option with a value, which none of them takes. -/
def isFlagWithValue (word : String) : Bool :=
  let name := String.ofList (word.toList.takeWhile (· != '='))
  name != word && (isFlag name || name == "--help")

/-- A question for help.  Of letters behind one dash, the first decides. -/
def isHelp (word : String) : Bool :=
  match word.toList with
  | '-' :: 'h' :: _ => true
  | _ => word == "--help"

/-- A question for help even where an argument may stand: it has no other letters. -/
def isHelpAmongArguments (word : String) : Bool :=
  match word.toList with
  | '-' :: 'h' :: letters => letters.all (· == 'h')
  | _ => word == "--help"

/-- A question for the version.  Of letters behind one dash, the first decides. -/
def isVersion (word : String) : Bool :=
  match word.toList with
  | '-' :: 'V' :: _ => true
  | _ => word == "--version"

/--
The formula number that a word stands for: digits behind an optional sign,
where a minus sign leaves no number but zero.
-/
def formulaIdOfWord? (word : String) : Option FormulaId :=
  let (negative, digits) := splitSign word.toList
  if digits.isEmpty || !digits.all Char.isDigit then
    none
  else
    let value := Nat.ofDigitChars 10 digits 0
    if value < UInt32.size ∧ (negative → value = 0) then
      some (UInt32.ofNat value)
    else
      none

/--
The words may stand at the beginning of a command: a path that is not empty,
then a formula number, and behind it the arguments of an evaluation.
-/
def beginsCommand (name : CommandName) : (words : List String) → Bool
  | [] => true
  | [path] => !path.isEmpty
  | [path, id] =>
      name != .check && !path.isEmpty && (formulaIdOfWord? id).isSome
  | path :: id :: _ =>
      name == .eval && !path.isEmpty && (formulaIdOfWord? id).isSome

/-- The words behind a command: its options and its other words. -/
inductive CommandWords where
  | words (flags : Flags) (others : List String)
  | help
  | refused

/--
Sort the words behind a command.  Two dashes end the options.  The third
word of an evaluation that is no option ends them as well, and may itself
begin with a dash.
-/
def sortWords
    (name : CommandName)
    (flags : Flags)
    (others : List String) :
    (words : List String) → CommandWords
  | [] => .words flags others
  | word :: words =>
      let atArguments := name = .eval ∧ others.length = 2
      if word = "--" then
        .words flags (others ++ words)
      else if isFlag word then
        match flags.add? word with
        | some flags => sortWords name flags others words
        | none => .refused
      else if isFlagWithValue word then
        .refused
      else if isHelpAmongArguments word ∨ isHelp word ∧ ¬atArguments then
        if beginsCommand name others then .help else .refused
      else if atArguments then
        .words flags (others ++ word :: words)
      else if isOptionLike word then
        .refused
      else
        sortWords name flags (others ++ [word]) words

/-- The path of the configuration and the command of the words that are no options. -/
def commandOfWords? : CommandName → List String → Option (String × Command)
  | .eval, path :: id :: arguments => do
      some (path, .eval (← formulaIdOfWord? id) arguments)
  | .check, [path] => some (path, .check)
  | .show, [path, id] => do
      some (path, .show (← formulaIdOfWord? id))
  | _, _ => none

/-- The request of the words behind a question for help, which may name one command. -/
def requestOfHelp : (words : List String) → Request
  | [] => .help
  | [word] =>
      if word = "help" ∨ (CommandName.ofWord? word).isSome then
        .help
      else
        .refused
  | _ => .refused

/-- The request of the words behind a command. -/
def requestOfCommand
    (name : CommandName)
    (outer : Flags)
    (words : List String) :
    Request :=
  match sortWords name .none [] words with
  | .help => .help
  | .refused => .refused
  | .words flags others =>
      match commandOfWords? name others with
      | some (path, command) =>
          if path.isEmpty then
            .refused
          else
            .run (outer.union flags) path command
      | none => .refused

/-- The request of words behind some options. -/
def requestBehind (flags : Flags) : (words : List String) → Request
  | [] => .refused
  | word :: words =>
      if isVersion word then
        .version
      else if isHelp word then
        .help
      else if word = "help" then
        requestOfHelp words
      else
        match CommandName.ofWord? word with
        | some name => requestOfCommand name flags words
        | none =>
            match flags.add? word with
            | some flags => requestBehind flags words
            | none => .refused

/-- The request of a command line. -/
def Request.ofWords (words : List String) : Request :=
  requestBehind .none words

end Formulary
