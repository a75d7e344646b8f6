/-
# Enumerations

Writing several texts as one.  No text gives the empty text and one text itself.  Of more
texts than are to be shown, the first are shown, and a summary of the others comes in as a last
item.  The items stand between separators, the last one after the last separator; two items
alone may have a separator of their own.

With an Oxford comma, the separator also stands before the last separator.  White space at its
end is then left out, if the last separator starts with white space and the separator has any
ink.
-/
import Phrasing.Enumeration.Options
import Phrasing.Pattern.Basic
import Phrasing.Text.Order

namespace Phrasing.Enumeration

/-- Data that is used as a text, and needs an operation that only texts have. -/
def requireText (operation : String) : Data → Except EnumerationFault Text
  | .text t => .ok t
  | d => .error (.notAText d.qualifiedTypeName operation)

/-- Data that is written between items, whatever it is. -/
def writtenText (d : Data) : Except EnumerationFault Text := d.asText?.mapError .number

/-- What stands between the items. -/
def separatorText : Data → Except EnumerationFault Text
  | .bytes _ => .error .bytesSeparator
  | d => requireText "join" d

/-- A separator after which another one follows that starts with white space or not. -/
def trimBefore (separator last : Text) : Text :=
  let stripped := Text.trimEnd separator
  if !stripped.isEmpty && (last.head?.map Text.isBlank).getD false then stripped else separator

/-- Why data other than a text cannot follow the separator as a last separator. -/
def lastSeparatorFault (separator : Text) (d : Data) : EnumerationFault :=
  if Text.isAllBlank separator then .notAddable d.qualifiedTypeName
  else
    match d with
    | .list _ => .notAText "list" "isspace"
    | .tuple _ => .notAText "tuple" "isspace"
    | .mapping _ => .mappingSeparator
    | .bytes _ => .notAddable "bytes"
    | d => .noFirstCharacter d.qualifiedTypeName

/-- The separator and the last separator in a row. -/
def oxfordSeparator (separator : Text) : Data → Except EnumerationFault Text
  | .text last => .ok (trimBefore separator last ++ last)
  | d => .error (lastSeparatorFault separator d)

/-- Two or more items in a row. -/
def glue (e : Enumeration) : List Text → Except EnumerationFault Text
  | [] => .ok []
  | [a] => .ok a
  | [a, b] => return a ++ (← writtenText (e.pairSeparator.getD e.lastSeparator)) ++ b
  | items => do
    let separator ← separatorText e.separator
    let last ←
      if e.oxfordComma then oxfordSeparator separator e.lastSeparator
      else writtenText e.lastSeparator
    return Text.join separator items.dropLast ++ last ++ (items.getLast?).getD []

/-- The summary of `n` items that are cut off. -/
def summary (e : Enumeration) (n : Nat) : Except EnumerationFault Text :=
  if e.most.isWhole then do
    let pattern ← requireText "format" e.moreFormat
    (Pattern.fill e.parts n pattern).mapError .pattern
  else .error .notWhole

/-- The items that are shown, the last one possibly a summary. -/
def shown (e : Enumeration) (items : List Text) : Except EnumerationFault (List Text) :=
  match e.maxItems with
  | none => .ok items
  | some m =>
    if items.length ≤ m ∨ items.length ≤ 1 then .ok items
    else do return items.take m ++ [← e.summary (items.length - m)]

/-- The items as one text. -/
def write (e : Enumeration) (items : List Text) : Except EnumerationFault Text := do
  e.glue (← e.shown (if e.sort then Text.sort items else items))

end Phrasing.Enumeration
