/-
# Delimiters

Two characters mark the expressions of a template.  They differ from each other and leave ink,
so that text, an opening and a closing can be told apart.
-/
import Phrasing.Data.Literal

namespace Phrasing

/-- The characters before and after an expression. -/
structure Delimiters where
  opening : Char
  closing : Char
  opening_ne_closing : opening ≠ closing
  opening_visible : Text.isBlank opening = false
  closing_visible : Text.isBlank closing = false
deriving DecidableEq

/-- Why texts are not a pair of delimiters. -/
inductive DelimiterFault where
  | notAPair (given : List Text)
  | notSingle (opening closing : Text)
  | equal (delimiter : Text)
  | blank
deriving DecidableEq, Repr

namespace DelimiterFault

/-- The given texts as a tuple. -/
def given (ts : List Text) : String := (Data.tuple (ts.map .text)).literal

/-- How a fault is worded. -/
def message : DelimiterFault → String
  | notAPair ts => s!"Delimiters must be a pair of characters, got {given ts}"
  | notSingle a b => s!"Delimiters must be single characters, got {given [a, b]}"
  | equal t => s!"Open and close delimiters must differ, got {given [t, t]}"
  | blank => "Delimiters must not be whitespace"

end DelimiterFault

namespace Delimiters

/-- Braces, the delimiters used when none are given. -/
def braces : Delimiters := ⟨'{', '}', by decide, by decide, by decide⟩

/-- The delimiters that two characters make. -/
def ofChars (a b : Char) : Except DelimiterFault Delimiters :=
  if hab : a = b then .error (.equal [a])
  else
    match ha : Text.isBlank a, hb : Text.isBlank b with
    | false, false => .ok ⟨a, b, hab, ha, hb⟩
    | _, _ => .error .blank

/-- The delimiters that a list of texts names: two texts of one character each. -/
def ofTexts : List Text → Except DelimiterFault Delimiters
  | [[a], [b]] => ofChars a b
  | [a, b] => .error (.notSingle a b)
  | ts => .error (.notAPair ts)

end Delimiters

end Phrasing
