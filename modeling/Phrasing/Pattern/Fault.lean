/-
# Faults of patterns

What can be wrong with a pattern, with one of its fields, or with the layout that a field asks
for.
-/
import Phrasing.Mistake.Basic
import Phrasing.Text.Quoted

namespace Phrasing

/-- Why a pattern cannot be filled in. -/
inductive PatternFault where
  /-- A closing brace stands alone. -/
  | singleClosing
  /-- An opening brace is the last character. -/
  | singleOpening
  /-- A brace opens inside the name of a field. -/
  | openingInName
  /-- A field is not closed. -/
  | unclosedField
  /-- The pattern ends where a conversion should be named. -/
  | noConversion
  /-- Something other than a colon follows a conversion. -/
  | afterConversion
  /-- A layout is not closed. -/
  | unclosedLayout
  /-- A layout has a field whose layout has a field. -/
  | nestedTooDeep
  /-- No conversion has this letter. -/
  | unknownConversion (c : Char)
  /-- The pattern is not given a value of this name. -/
  | unknownName (name : Text)
  /-- The pattern is not given a value in this place. -/
  | unknownPlace (index : Nat)
  /-- A dot or bracket names nothing. -/
  | emptyAttribute
  /-- A bracket is not closed. -/
  | unclosedBracket
  /-- Something else follows a closed bracket. -/
  | afterBracket
  /-- The value has no such part. -/
  | unknownAttribute (name : Text)
  /-- The value has no items. -/
  | noItems
  /-- A number in the pattern is too great. -/
  | numberTooGreat
  /-- A layout asks for two ways to group digits. -/
  | twoGroupings
  /-- A point is not followed by a precision. -/
  | noPrecision
  /-- A layout has more to it than layouts have. -/
  | invalidLayout (layout : Text) (typeName : String)
  /-- No presentation of such a value has this letter. -/
  | unknownPresentation (c : Char) (typeName : String)
  /-- Digits cannot be grouped in this presentation. -/
  | groupingRefused (separator presentation : Char)
  /-- No character has so great a code point. -/
  | noCharacter
  /-- The code point is that of half a pair, which no text can hold alone. -/
  | surrogate
  /-- Something that this presentation does not have. -/
  | refused (what : String)
  /-- What the value has beside numbers is of no use to the field. -/
  | ofPart (sort : Mistake) (message : String)
deriving DecidableEq, Repr

namespace PatternFault

/-- A letter in a message: as it is, or by its code point. -/
def letter (last : Nat) (c : Char) : String :=
  if 32 < c.toNat ∧ c.toNat < last then c.toString
  else s!"\\x{Text.string (Nat.toDigits 16 c.toNat)}"

/-- How a fault is worded. -/
def message : PatternFault → String
  | singleClosing => "Single '\x7d' encountered in format string"
  | singleOpening => "Single '\x7b' encountered in format string"
  | openingInName => "unexpected '\x7b' in field name"
  | unclosedField => "expected '\x7d' before end of string"
  | noConversion => "end of string while looking for conversion specifier"
  | afterConversion => "expected ':' after conversion specifier"
  | unclosedLayout => "unmatched '\x7b' in format spec"
  | nestedTooDeep => "Max string recursion exceeded"
  | unknownConversion c => s!"Unknown conversion specifier {letter 127 c}"
  | unknownName name => Text.quoted name
  | unknownPlace index =>
    s!"Replacement index {index} out of range for positional args tuple"
  | emptyAttribute => "Empty attribute in format string"
  | unclosedBracket => "Missing ']' in format string"
  | afterBracket => "Only '.' or '[' may follow ']' in format field specifier"
  | unknownAttribute name => s!"'int' object has no attribute '{Text.string name}'"
  | noItems => "'int' object is not subscriptable"
  | numberTooGreat => "Too many decimal digits in format string"
  | twoGroupings => "Cannot specify both ',' and '_'."
  | noPrecision => "Format specifier missing precision"
  | invalidLayout layout typeName =>
    s!"Invalid format specifier '{Text.string layout}' for object of type '{typeName}'"
  | unknownPresentation c typeName =>
    s!"Unknown format code '{letter 128 c}' for object of type '{typeName}'"
  | groupingRefused separator presentation =>
    s!"Cannot specify '{separator}' with '{letter 128 presentation}'."
  | noCharacter => "%c arg not in range(0x110000)"
  | surrogate => "surrogates not allowed"
  | refused what => what
  | ofPart _ message => message

end PatternFault

end Phrasing
