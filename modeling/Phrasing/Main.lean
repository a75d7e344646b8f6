/-
# The program

Reads the files that the command line names, the standard input if it is asked for, and the
environment; carries the command out; and prints what it leaves behind.
-/
import Phrasing.Command.Run

namespace Phrasing.Command

/-- The locations of the files that a request may read. -/
def Request.locations : Request → List Text
  | .render r =>
    [Configuration.fileName] ++ (r.configuration.toList ++ r.context.toList).map Location.normal ++
      templateLocations r.template
  | .check template => templateLocations template
  | .enumerate _ => []
  | .styles _ configuration => configuration.toList.map Location.normal
where
  /-- The location of the file of a template, if it is in one. -/
  templateLocations : Text → List Text
    | '@' :: place => [Location.normal place]
    | _ => []

/-- Whether a request reads the standard input. -/
def Request.readsInput : Request → Bool
  | .render r => r.template = ['-']
  | .check template => template = ['-']
  | _ => false

/-- The names of the settings of the environment that matter. -/
def settingNames : List String := ["MSGC_CAPABILITY", "MSGC_DEBUG", "NO_COLOR", "TERM"]

/-- The bytes of a file, if it can be read. -/
def readFile? (location : Text) : IO (Option (List UInt8)) := do
  try
    return some (← IO.FS.readBinFile (Text.string location)).toList
  catch _ => return none

/-- What a request can see. -/
def observe (request : Option Request) : IO World := do
  let files ← ((request.map Request.locations).getD []).filterMapM fun location => do
    return (← readFile? location).map (location, ·)
  let input ←
    if (request.map Request.readsInput).getD false then (← IO.getStdin).readToEnd else pure ""
  let environment ← settingNames.filterMapM fun name => do
    return (← IO.getEnv name).map fun value => (name.toList, value.toList)
  let terminal ← (← IO.getStdout).isTty
  return {
    file? := fun location => Named.find? location files
    directory := (← IO.currentDir).toString.toList
    input := input.toList
    environment := environment
    output := if terminal then .terminal else .other }

/-- How the command line is used. -/
def usage : String :=
  "usage: msgc [-h] [-v] [--verbose] \x7brender,check,collapse,styles\x7d ..."

/-- Prints what a command leaves behind, and gives the exit code. -/
def present (outcome : Outcome) : IO UInt32 := do
  match outcome with
  | .misuse =>
    IO.eprintln usage
    return 2
  | .help =>
    IO.println usage
    return 0
  | .version =>
    IO.println versionText
    return 0
  | .finished exit output log =>
    IO.eprint (Text.string log)
    IO.print (Text.string output)
    return UInt32.ofNat exit
  | .broken f =>
    IO.eprintln f.message
    return 1

end Phrasing.Command

open Phrasing Phrasing.Command in
/-- Runs the command line. -/
def main (arguments : List String) : IO UInt32 := do
  let arguments := arguments.map String.toList
  let request := (Invocation.ofArguments arguments).toOption.map Invocation.request
  present (run (← observe request) arguments)
