/-
# Failures

Whatever can keep a text from being composed: an error in a template, or a fault in what is
given beside it.
-/
import Phrasing.Assembly.Placement
import Phrasing.Options
import Phrasing.Template.Delimiters

namespace Phrasing

/-- What keeps a text from being composed. -/
inductive Failure where
  | template (e : TemplateError)
  | number (f : NumberFault)
  | data (f : DataFault)
  | delimiters (f : DelimiterFault)
  | registration (f : RegistrationFault)
  | option (f : OptionFault)
  /-- No placement is called this. -/
  | unknownPlacement (given : Data)
  /-- No bullet is called this. -/
  | unknownBullet (name : Text)

namespace Failure

/-- The names of the bullets, as a message lists them. -/
def bulletNames : String := "arrow, bullet, danger, info, success, warning"

/-- How a failure is worded. -/
def message : Failure → String
  | template e => e.message
  | number f => Number.describe f
  | data f => f.message
  | delimiters f => f.message
  | registration f => f.message
  | option f => f.message
  | unknownPlacement given => Placement.unknownMessage given
  | unknownBullet name =>
    s!"Unknown bullet kind '{Text.string name}'. Expected one of: {bulletNames}"

/-- The sort of mistake behind a failure; `none` for an error in a template. -/
def mistake? : Failure → Option Mistake
  | template _ => none
  | number f => some f.mistake
  | data f => some f.mistake
  | delimiters _ | registration _ | unknownPlacement _ | unknownBullet _ => some .value
  | option f => some f.mistake

/-- The placement that data names. -/
def readPlacement (d : Data) : Except Failure Placement :=
  if d.isWritable then
    match Placement.ofData? d with
    | some p => .ok p
    | none => .error (unknownPlacement d)
  else .error (number .tooLongToWrite)

/-- The failure of a template to be read. -/
def ofParse : ParseFault → Failure
  | .error e => template e
  | .number f => number f

end Failure

end Phrasing
