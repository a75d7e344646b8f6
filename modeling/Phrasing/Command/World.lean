/-
# What commands work with

A command reads files and the standard input, looks at the environment, and leaves an exit code
and text on the standard output and the standard error output.  Notices go to the standard error
output, traces only if they are asked for.
-/
import Phrasing.Configuration.File
import Phrasing.Json.Read
import Phrasing.Location
import Phrasing.Session

namespace Phrasing.Command

/-- What a command can see: the regular files by their location, the location of the working
directory, the standard input, the environment, and where the output goes. -/
structure World where
  file? : Text → Option (List UInt8)
  directory : Text
  input : Text
  environment : Named Text
  output : Capability.Output

/-- Why a command fails. -/
inductive Fault where
  | failure (f : Failure)
  | configuration (f : ConfigurationFileFault)
  | templateMissing (location : Text)
  | contextMissing (location : Text)
  | contextNotAMapping (location : Text)
  | contextDocument (location : Text) (f : Yaml.Fault)
  | contextJson (e : JsonError)
  | contextValue (f : DataFault)
  | notText (f : Utf8Fault)
  /-- A setting has no equals sign. -/
  | setting (t : Text)

namespace Fault

/-- How a fault is worded. -/
def message : Fault → String
  | failure f => f.message
  | configuration f => f.message
  | templateMissing location => s!"Template file not found: {Text.string location}"
  | contextMissing location => s!"Context file not found: {Text.string location}"
  | contextNotAMapping location =>
    s!"Context file must contain a mapping: {Text.string location}"
  | contextDocument location f =>
    if f.isOfDocument then
      s!"Invalid YAML in context file {Text.string location}: {f.message}"
    else f.message
  | contextJson e => e.message
  | contextValue f =>
    if f.mistake = .type then s!"Invalid context value: {f.message}" else f.message
  | notText f => f.message
  | setting t => s!"Invalid value format '{Text.string t}'. Expected 'name=value'"

/-- The sort of mistake behind a fault; `none` for an error in a template or a configuration. -/
def mistake? : Fault → Option Mistake
  | failure f => f.mistake?
  | configuration f => f.mistake?
  | contextDocument _ f => some (if f.isOfDocument then .value else f.mistake)
  | contextJson (.number f) => some f.mistake
  | notText _ => some .encoding
  | _ => some .value

/-- Whether a fault is the user's, who is told so; other faults end the program. -/
def isOfUser (f : Fault) : Bool :=
  match f.mistake? with
  | none | some .value | some .encoding => true
  | some _ => false

end Fault

/-- What a command leaves behind. -/
inductive Outcome where
  /-- The command line makes no sense. -/
  | misuse
  /-- The command line asked for help. -/
  | help
  /-- The command line asked for the version. -/
  | version
  /-- The command was carried out, or the user told why not. -/
  | finished (exit : Nat) (output : Text) (log : Text)
  /-- The command broke off. -/
  | broken (f : Fault)

end Phrasing.Command
