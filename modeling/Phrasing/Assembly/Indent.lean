/-
# Indents

An indent is a run of spaces and tabs.  It can be given as a text, or as a number of spaces; no
text has more than `widthLimit` of them.
-/
import Phrasing.Data.Literal

namespace Phrasing

/-- A space or a tab. -/
def isIndentChar (c : Char) : Bool := c == ' ' || c == '\t'

/-- A run of spaces and tabs. -/
structure Indent where
  text : Text
  blank : text.all isIndentChar = true
deriving DecidableEq

/-- Why data is no indent. -/
inductive IndentFault where
  | truthValue
  | negative (n : Int)
  /-- No text has so many spaces. -/
  | tooWide
  | notBlank (t : Text)
  /-- A byte string. -/
  | bytes
  /-- Anything else that is no text, of this type. -/
  | notAText (typeName : String)
  /-- An indent has no setting of this name. -/
  | unknownSetting (name : Text)
deriving DecidableEq, Repr

/-- How a fault is worded. -/
def IndentFault.message : IndentFault → String
  | truthValue => "indent must be a string or a number of spaces"
  | negative n =>
    match Number.decimal? n with
    | .ok t => s!"indent must be >= 0, got {Text.string t}"
    | .error f => Number.describe f
  | tooWide => "cannot fit 'int' into an index-sized integer"
  | notBlank t => s!"indent must contain only spaces and tabs, got {Text.quoted t}"
  | bytes => "a bytes-like object is required, not 'str'"
  | notAText typeName => s!"'{typeName}' object has no attribute 'strip'"
  | unknownSetting name =>
    s!"ComposeOptions.__init__() got an unexpected keyword argument '{Text.string name}'"

namespace Indent

/-- No indent. -/
def none : Indent := ⟨[], rfl⟩

/-- A number of spaces. -/
def spaces (n : Nat) : Indent :=
  ⟨List.replicate n ' ', by
    simp only [List.all_eq_true, List.mem_replicate, isIndentChar]
    rintro c ⟨_, rfl⟩
    rfl⟩

/-- The greatest length of a text. -/
def widthLimit : Nat := Nat.pow 2 63 - 1

/-- The indent that data describes. -/
def ofData : Data → Except IndentFault Indent
  | .truth _ => .error .truthValue
  | .integer n =>
    if n < 0 then .error (.negative n)
    else if widthLimit < n.toNat then .error .tooWide
    else .ok (spaces n.toNat)
  | .text t => if h : t.all isIndentChar = true then .ok ⟨t, h⟩ else .error (.notBlank t)
  | .bytes _ => .error .bytes
  | d => .error (.notAText d.qualifiedTypeName)

/-- The indent after changes to its only setting.  An unknown name is refused before any value is
looked at. -/
def replace (i : Indent) (changes : Named Data) : Except IndentFault Indent :=
  match (Named.names changes).find? (· ≠ "indent".toList) with
  | some name => .error (.unknownSetting name)
  | Option.none =>
    match Named.find? "indent".toList changes with
    | some d => ofData d
    | Option.none => .ok i

end Indent

end Phrasing
