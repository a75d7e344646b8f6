/-
# Rules for enumerations

An enumeration writes several texts as one: `a, b and c`.  Its rules say what separates the
items, how many are shown before the others are summed up, and whether they are sorted.

Separators and the summary are kept as the data they were given as.  Whether they are texts
shows only when they are used.  So it is with a limit that is a real number: it is kept, and fails
where items have to be cut off.
-/
import Phrasing.Data.Number
import Phrasing.Pattern.Part

namespace Phrasing

/-- Why texts cannot be enumerated. -/
inductive EnumerationFault where
  /-- At least one item has to be shown, and the limit is this. -/
  | belowOne (given : Scalar)
  /-- The number of items shown is not a number, but of this type. -/
  | notANumber (typeName : String)
  /-- Items cannot be cut off at a real number. -/
  | notWhole
  /-- There is no such rule. -/
  | unknownRule (name : Text)
  | number (f : NumberFault)
  | pattern (f : PatternFault)
  /-- What is used as a text, and lacks this operation of texts, is of this type. -/
  | notAText (typeName operation : String)
  /-- Texts cannot be joined by a byte string. -/
  | bytesSeparator
  /-- The last separator has no first character, being of this type. -/
  | noFirstCharacter (typeName : String)
  /-- The last separator has no first character, being a mapping. -/
  | mappingSeparator
  /-- The last separator cannot be added to a text, being of this type. -/
  | notAddable (typeName : String)
deriving DecidableEq, Repr

/-- How a fault is worded. -/
def EnumerationFault.message : EnumerationFault → String
  | belowOne given =>
    match (Data.ofScalar given).asText? with
    | .ok t => s!"max_items must be >= 1, got {Text.string t}"
    | .error f => Number.describe f
  | notANumber typeName => s!"'<' not supported between instances of '{typeName}' and 'int'"
  | notWhole => "slice indices must be integers or None or have an __index__ method"
  | unknownRule name =>
    s!"CollapseOptions.__init__() got an unexpected keyword argument '{Text.string name}'"
  | number f => Number.describe f
  | pattern f => f.message
  | notAText typeName operation => s!"'{typeName}' object has no attribute '{operation}'"
  | bytesSeparator => "sequence item 0: expected a bytes-like object, str found"
  | noFirstCharacter typeName => s!"'{typeName}' object is not subscriptable"
  | mappingSeparator => "unhashable type: 'slice'"
  | notAddable typeName => s!"can only concatenate str (not \"{typeName}\") to str"

/-- How many items are shown. -/
inductive Limit where
  /-- All of them. -/
  | none
  /-- At most so many. -/
  | whole (n : Nat) (one_le : 1 ≤ n)
  /-- At most one, as the truth value counts as one. -/
  | truth
  /-- At most as many as a real number; to cut off the others fails. -/
  | real (x : Binary64) (one_le : x.isBelowOne = false)

namespace Limit

/-- The greatest number of items that are shown without any being cut off.  An undefined or an
infinite number is never exceeded. -/
def count? : Limit → Option Nat
  | none => .none
  | whole n _ => some n
  | truth => some 1
  | real x _ => x.truncate?.map Int.toNat

/-- The limit as data. -/
def given : Limit → Data
  | none => .absent
  | whole n _ => .integer n
  | truth => .truth true
  | real x _ => .real x

/-- Whether items can be cut off at the limit. -/
def isWhole : Limit → Bool
  | real .. => false
  | _ => true

theorem one_le_count (l : Limit) : ∀ n ∈ l.count?, 1 ≤ n := by
  intro n hn
  cases l with
  | none => cases hn
  | whole m h =>
    cases hn
    exact h
  | truth =>
    cases hn
    exact Nat.le_refl 1
  | real x h =>
    obtain ⟨k, hk, rfl⟩ := Option.map_eq_some_iff.mp hn
    cases x with
    | finite negative m exponent =>
      simp only [Binary64.isBelowOne, hk, Option.getD_some, decide_eq_false_iff_not] at h
      omega
    | _ => cases hk

end Limit

/-- The rules of an enumeration, and the parts that the summary finds in the number of items cut
off. -/
structure Enumeration where
  separator : Data
  lastSeparator : Data
  oxfordComma : Bool
  most : Limit
  pairSeparator : Option Data
  moreFormat : Data
  sort : Bool
  parts : Pattern.Parts

namespace Enumeration

/-- The greatest number of items that are all shown. -/
def maxItems (e : Enumeration) : Option Nat := e.most.count?

theorem one_le_maxItems (e : Enumeration) : ∀ n ∈ e.maxItems, 1 ≤ n := e.most.one_le_count

/-- The rules used when none are given. -/
def standard : Enumeration :=
  { separator := .text [',', ' ']
    lastSeparator := .text " and ".toList
    oxfordComma := false
    most := .none
    pairSeparator := none
    moreFormat := .text "\x7bn\x7d more".toList
    sort := false
    parts := Pattern.Parts.standard }

/-- The rules under which at most `n` items are shown. -/
def limit (e : Enumeration) (n : Int) : Except EnumerationFault Enumeration :=
  if h : 1 ≤ n then .ok { e with most := .whole n.toNat (by omega) }
  else .error (.belowOne (.integer n))

/-- The rules under which all items are shown. -/
def unlimited (e : Enumeration) : Enumeration := { e with most := .none }

/-- The rules where numbers have other parts. -/
def within (e : Enumeration) (parts : Pattern.Parts) : Enumeration := { e with parts := parts }

/-! ## 1. Single rules -/

/-- The names of the rules. -/
def ruleNames : List String :=
  ["separator", "last_separator", "oxford_comma", "max_items", "pair_separator", "more_format",
    "sort"]

/-- The rules under a limit given as data. -/
def limitBy (e : Enumeration) : Data → Except EnumerationFault Enumeration
  | .absent => .ok e.unlimited
  | .integer n => e.limit n
  | .truth true => .ok { e with most := .truth }
  | .truth false => .error (.belowOne (.truth false))
  | .real x =>
    if h : x.isBelowOne then .error (.belowOne (.real x))
    else .ok { e with most := .real x (Bool.eq_false_iff.mpr h) }
  | d => .error (.notANumber d.qualifiedTypeName)

/-- The rules with the named one replaced, but for the limit, which `with?` sets last. -/
def setRule (e : Enumeration) (name : Text) (d : Data) : Enumeration :=
  if name = "separator".toList then { e with separator := d }
  else if name = "last_separator".toList then { e with lastSeparator := d }
  else if name = "oxford_comma".toList then { e with oxfordComma := d.isTrue }
  else if name = "pair_separator".toList then
    { e with pairSeparator := if d matches .absent then none else some d }
  else if name = "more_format".toList then { e with moreFormat := d }
  else if name = "sort".toList then { e with sort := d.isTrue }
  else e

/-- The rules with some of them replaced.  An unknown name is refused before any value is
looked at. -/
def replace (e : Enumeration) (changes : Named Data) : Except EnumerationFault Enumeration :=
  match (Named.names changes).find? fun name => !ruleNames.any (·.toList = name) with
  | some name => .error (.unknownRule name)
  | none =>
    let e' := List.foldl (fun e (name, d) => e.setRule name d) e changes
    match Named.find? "max_items".toList changes with
    | some d => e'.limitBy d
    | none => .ok e'

/-! ## 2. Rules from a mapping -/

/-- The keys of the limit. -/
def limitKeys : List String := ["max_items", "maxItems"]

/-- Whether the entries of a mapping ask for something. -/
def flag (entries : List (Data × Data)) (keys : List String) : Bool :=
  match Data.pick? entries keys with
  | some d => d.isTrue
  | none => false

/-- The rules that the entries of a mapping describe, but for the limit; keys that are missing or
stand for an absent value leave the rule as it is. -/
def unlimitedOf (entries : List (Data × Data)) : Enumeration :=
  let pick := Data.pick? entries
  { standard with
    separator := (pick ["separator"]).getD standard.separator
    lastSeparator := (pick ["last_separator", "lastSeparator"]).getD standard.lastSeparator
    oxfordComma := flag entries ["oxford_comma", "oxfordComma"]
    pairSeparator := pick ["pair_separator", "pairSeparator"]
    moreFormat := (pick ["more_format", "moreFormat"]).getD standard.moreFormat
    sort := flag entries ["sort"] }

/-- The rules that the entries of a mapping describe. -/
def ofEntries (entries : List (Data × Data)) : Except EnumerationFault Enumeration :=
  match Data.pick? entries limitKeys with
  | none => .ok (unlimitedOf entries)
  | some d => do
    let n ← d.toInteger.mapError .number
    (unlimitedOf entries).limit n

end Enumeration

end Phrasing
