/-
# Configuration files

A configuration file is a YAML document with a mapping; a document that counts as false is an
empty configuration.  Its location is the origin that faults name.
-/
import Phrasing.Configuration.Basic
import Phrasing.Text.Utf8
import Phrasing.Yaml.Content

namespace Phrasing

/-- Why a file is no configuration. -/
inductive ConfigurationFileFault where
  | missing (location : Text)
  | notText (f : Utf8Fault)
  | document (location : Text) (f : Yaml.Fault)
  | notAMapping (location : Text)
  | configuration (e : ConfigurationError)

namespace Yaml

/-- The sort of a fault that is not of the document itself. -/
def Fault.mistake : Fault → Mistake
  | .number f => f.mistake
  | .calendarRange => .magnitude
  | _ => .value

end Yaml

namespace ConfigurationFileFault

/-- How a fault is worded. -/
def message : ConfigurationFileFault → String
  | missing location => s!"Config file not found: {Text.string location}"
  | notText f => f.message
  | document location f =>
    if f.isOfDocument then s!"{Text.string location}: invalid YAML: {f.message}" else f.message
  | notAMapping location => s!"{Text.string location}: YAML must be a mapping"
  | configuration e => e.message

/-- The sort of mistake behind a fault; `none` if it is reported as one of the configuration. -/
def mistake? : ConfigurationFileFault → Option Mistake
  | missing _ | notAMapping _ => none
  | notText _ => some .encoding
  | document _ f => if f.isOfDocument then none else some f.mistake
  | configuration e =>
    if e.isReported then none
    else
      match e.fault with
      | .option f => some f.mistake
      | .number f => some f.mistake
      | _ => none

end ConfigurationFileFault

namespace Configuration

/-- The name of the file that is looked for where no other is given. -/
def fileName : Text := "msgc.yaml".toList

/-- The text of a file. -/
def readText (octets : List UInt8) : Except Utf8Fault Text :=
  return Text.unifyLines (← Text.decode octets)

/-- The configuration in the file at some location, if there is a file. -/
def ofFile (location : Text) (file : Option (List UInt8)) :
    Except ConfigurationFileFault Configuration :=
  match file with
  | none => .error (.missing location)
  | some octets => do
    let t ← (readText octets).mapError .notText
    let d ← (Yaml.read t).mapError (.document location)
    let entries ←
      match d with
      | .mapping entries => pure entries
      | d => if d.isTrue then throw (.notAMapping location) else pure []
    (ofEntries location entries).mapError .configuration

end Configuration

end Phrasing
