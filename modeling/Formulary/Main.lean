import Formulary.CommandLine.Outcome

/-!
# The program

Reads the configuration that the command line names and prints the outcome.
-/

open Formulary

/-- The text of a file, if it can be read and is valid. -/
def readText? (path : String) : IO (Option String) := do
  try
    return String.fromUTF8? (← IO.FS.readBinFile path)
  catch _ =>
    return none

/-- The entry point of the program. -/
def main (words : List String) : IO UInt32 := do
  let request := Request.ofWords words
  let file ←
    match request.path? with
    | some path => readText? path
    | none => pure none
  let outcome := request.carryOut file
  IO.eprint outcome.errors
  IO.print outcome.output
  return UInt32.ofNat outcome.code
