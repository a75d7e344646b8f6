/-
# Sorts of faults

Every fault is a mistake of some sort.  A configuration reports mistakes in the value and in the
type of what it is given as its own; a command reports mistakes in values to its user.  Others
are left to the caller.
-/
import Phrasing.Assembly.Indent
import Phrasing.Enumeration.Basic
import Phrasing.Mistake.Basic
import Phrasing.Style.Registry
import Phrasing.Template.Path

namespace Phrasing

/-- The sort of a fault in a number. -/
def NumberFault.mistake : NumberFault → Mistake
  | notAnInteger _ | tooLongToRead _ | tooLongToWrite | undefinedNumber => .value
  | infiniteNumber => .magnitude
  | notNumeric _ => .type

/-- The sort of a fault in data. -/
def DataFault.mistake : DataFault → Mistake
  | entryNotAPair .. => .value
  | number f => f.mistake
  | _ => .type

/-- The sort of a fault in a pattern. -/
def PatternFault.mistake : PatternFault → Mistake
  | unknownName _ => .key
  | unknownPlace _ => .index
  | unknownAttribute _ => .part
  | noItems => .type
  | noCharacter => .magnitude
  | ofPart sort _ => sort
  | _ => .value

/-- The sort of a fault in an enumeration. -/
def EnumerationFault.mistake : EnumerationFault → Mistake
  | belowOne _ => .value
  | number f => f.mistake
  | pattern f => f.mistake
  | notAText .. => .part
  | _ => .type

/-- The sort of a fault in an indent. -/
def IndentFault.mistake : IndentFault → Mistake
  | truthValue | negative _ | notBlank _ => .value
  | tooWide => .magnitude
  | bytes | unknownSetting _ => .type
  | notAText _ => .part

end Phrasing
