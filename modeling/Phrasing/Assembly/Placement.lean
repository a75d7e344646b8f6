/-
# Placements

A fragment of a message continues the current line or starts a new one.
-/
import Phrasing.Data.Literal
import Phrasing.Text.Caseless

namespace Phrasing

/-- Where a fragment goes. -/
inductive Placement where
  /-- On the current line. -/
  | inline
  /-- On a new line. -/
  | block
deriving DecidableEq, Repr

namespace Placement

/-- The name of a placement. -/
def name : Placement → String
  | inline => "inline"
  | block => "block"

/-- The placement that data names, regardless of case and of white space around it. -/
def ofData? (d : Data) : Option Placement :=
  let word := Text.settingWord d.asText
  if word = "inline".toList then some inline
  else if word = "block".toList then some block
  else none

/-- The wording of the fault that data names no placement. -/
def unknownMessage (d : Data) : String :=
  s!"Unknown placement '{d.string}'. Expected 'inline' or 'block'"

end Placement

end Phrasing
