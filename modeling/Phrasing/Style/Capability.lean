/-
# Capabilities

What the reader of a text can show of its styles: nothing, ASCII markers, or the escape
sequences of a colour terminal.
-/
import Phrasing.Data.Literal
import Phrasing.Text.Caseless

namespace Phrasing

/-- What the reader of a text can show of its styles. -/
inductive Capability where
  /-- Plain text only: every style leaves the text as it is. -/
  | none
  /-- Markers around the text. -/
  | ascii
  /-- Escape sequences; nested styles are merged. -/
  | markup
deriving DecidableEq, Repr

namespace Capability

/-- The name of a capability. -/
def name : Capability → String
  | none => "none"
  | ascii => "ascii"
  | markup => "markup"

/-- Whether nested styles can be merged into one. -/
def merges : Capability → Bool
  | markup => true
  | _ => false

/-- The words that name capabilities: their own names and a few others. -/
def words : List (String × Capability) :=
  [("none", none), ("ascii", ascii), ("markup", markup), ("plain", none), ("off", none),
    ("color", markup), ("colour", markup), ("ansi", markup)]

/-- The capability that a setting names, regardless of case and of white space around it. -/
def ofText? (t : Text) : Option Capability :=
  (words.find? fun entry => entry.1.toList = Text.settingWord t).map Prod.snd

/-- The wording of the fault that a setting names no capability. -/
def unknownMessage (d : Data) : String :=
  s!"Unknown style capability '{d.string}'. Expected one of: none, ascii, markup"

/-- The capability that data names; absent data stands for plain text. -/
def ofData? : Data → Option Capability
  | .absent => some none
  | d => ofText? d.asText

/-! ## The capability of an output -/

/-- Where text goes. -/
inductive Output where
  /-- A terminal. -/
  | terminal
  /-- Anything that is not known to be a terminal. -/
  | other
deriving DecidableEq, Repr

/-- The setting that overrides detection. -/
def settingName : Text := "MSGC_CAPABILITY".toList

/-- The capability of an output, as far as the environment tells: an explicit setting wins;
then the wish for no colours; then a terminal that is not a dumb one shows markup.  The error is
the explicit setting, if it names no capability. -/
def detect (environment : Named Text) (output : Output) : Except Data Capability :=
  match Named.find? settingName environment with
  | some (c :: cs) =>
    match ofText? (c :: cs) with
    | some capability => .ok capability
    | Option.none => .error (.text (c :: cs))
  | _ =>
    if Named.contains "NO_COLOR".toList environment then .ok ascii
    else if output = .terminal ∧ Named.find? "TERM".toList environment ≠ some "dumb".toList then
      .ok markup
    else .ok ascii

end Capability

end Phrasing
