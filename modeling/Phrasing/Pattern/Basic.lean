/-
# Patterns

A pattern is a text with fields in braces for one number, called `n`.  A field names the number
or a part of it, and can ask for a conversion to text and for a layout, which may itself hold
fields.  Doubled braces stand for braces.

`fill` writes the pattern with its fields filled in.
-/
import Phrasing.Pattern.Part

namespace Phrasing.Pattern

/-- A field: its name with the parts it selects, the letter of its conversion, and its
layout. -/
structure Field where
  name : Text
  conversion : Option Char
  layout : Text
deriving DecidableEq, Repr

/-- A piece of a pattern. -/
inductive Piece where
  | literal (t : Text)
  | field (f : Field)
deriving DecidableEq, Repr

/-! ## 1. Taking a pattern apart -/

/-- The name of a field up to the character that ends it, that character, and the rest.  Inside
brackets every character belongs to the name. -/
def readName : (inBracket : Bool) → Text → Except PatternFault (Text × Char × Text)
  | _, [] => .error .unclosedField
  | true, c :: rest => (readName (c != ']') rest).map fun (name, e, r) => (c :: name, e, r)
  | false, c :: rest =>
    if c = '{' then .error .openingInName
    else if c = '}' ∨ c = ':' ∨ c = '!' then .ok ([], c, rest)
    else (readName (c == '[') rest).map fun (name, e, r) => (c :: name, e, r)

/-- A layout up to the brace that closes its field, and the rest.  `depth` counts the braces
that are open inside it. -/
def readLayout : (depth : Nat) → Text → Except PatternFault (Text × Text)
  | _, [] => .error .unclosedLayout
  | depth, c :: rest =>
    if c = '}' ∧ depth = 0 then .ok ([], rest)
    else
      let depth' := if c = '{' then depth + 1 else if c = '}' then depth - 1 else depth
      (readLayout depth' rest).map fun (layout, r) => (c :: layout, r)

/-- A field after its opening brace, and the rest. -/
def readField (t : Text) : Except PatternFault (Field × Text) := do
  let (name, stop, rest) ← readName false t
  if stop = '}' then return (⟨name, none, []⟩, rest)
  else if stop = ':' then
    let (layout, rest) ← readLayout 0 rest
    return (⟨name, none, layout⟩, rest)
  else
    match rest with
    | [] => throw .noConversion
    | [_] => throw .unclosedLayout
    | c :: '}' :: rest => return (⟨name, some c, []⟩, rest)
    | c :: ':' :: rest =>
      let (layout, rest) ← readLayout 0 rest
      return (⟨name, some c, layout⟩, rest)
    | _ => throw .afterConversion

/-- The literal text at the front of a pattern, with doubled braces written once, up to the
field that follows it; and the pattern from after the brace that opens the field. -/
def readLiteral : Text → Except PatternFault (Text × Option Text)
  | [] => .ok ([], none)
  | [c] =>
    if c = '{' then .error .singleOpening
    else if c = '}' then .error .singleClosing
    else .ok ([c], none)
  | c :: c' :: rest =>
    if c = '{' ∨ c = '}' then
      if c' = c then (readLiteral rest).map fun (t, r) => (c :: t, r)
      else if c = '{' then .ok ([], some (c' :: rest))
      else .error .singleClosing
    else (readLiteral (c' :: rest)).map fun (t, r) => (c :: t, r)

/-! ## 2. Fields -/

/-- What a field can stand for: a number, its text after a conversion, or a part of it that is no
number. -/
inductive Item where
  | number (n : Nat)
  | string (t : Text)
  | part (p : Part)

namespace Item

/-- How an item is written. -/
def text : Item → Except PatternFault Text
  | number n => .ok (Number.digits n)
  | string t => .ok t
  | part p => p.text

/-- How an item is written as a literal. -/
def literal : Item → Except PatternFault Text
  | number n => .ok (Number.digits n)
  | string t => .ok (Text.quote t)
  | part p => p.literal

/-- An item after the conversion with the given letter. -/
def convert (i : Item) : Option Char → Except PatternFault Item
  | none => .ok i
  | some c => do
    if c = 's' then return string (← i.text)
    else if c = 'r' then return string (← i.literal)
    else if c = 'a' then return string ((← i.literal).flatMap Text.asciiEscape)
    else throw (.unknownConversion c)

/-- An item in a layout. -/
def layOut (layout : Text) : Item → Except PatternFault Text
  | number n => do
    if layout.isEmpty then return Number.digits n
    (← Layout.read "int" .right 'd' layout).number n
  | string t => layOutText t layout
  | part p => p.layOut layout

end Item

/-- The number that a text of digits spells; `none` for any other text. -/
def index? (t : Text) : Except PatternFault (Option Nat) :=
  match Layout.takeDigits t with
  | (_ :: _, _ :: _) | ([], _) => .ok none
  | (ds, []) =>
    if Layout.numberLimit < Text.digitsValue ds then .error .numberTooGreat
    else .ok (some (Text.digitsValue ds))

/-- The part of a number with the given name, if that is a number. -/
def numberPart? (n : Nat) (name : Text) : Option Nat :=
  if name = "real".toList ∨ name = "numerator".toList then some n
  else if name = "imag".toList then some 0
  else if name = "denominator".toList then some 1
  else none

/-- The parts that a field selects after its first name, one after the other; `tries` bounds
their number. -/
def selectParts (parts : Parts) : (tries : Nat) → (n : Nat) → Text → Except PatternFault Item
  | 0, n, _ => .ok (.number n)
  | _, n, [] => .ok (.number n)
  | tries + 1, n, c :: rest =>
    if c = '.' then
      let name := rest.takeWhile fun c => c != '.' && c != '['
      if name.isEmpty then .error .emptyAttribute
      else
        match numberPart? n name with
        | some part => selectParts parts tries part (rest.drop name.length)
        | none => (parts n (c :: rest)).map .part
    else if c = '[' then do
      match Text.cutAt? ']' rest with
      | none => throw .unclosedBracket
      | some (name, _) =>
        let _ ← index? name
        if name.isEmpty then throw .emptyAttribute else throw .noItems
    else .error .afterBracket

/-- What the name of a field stands for, if `n` is called `n`. -/
def select (parts : Parts) (n : Nat) (name : Text) : Except PatternFault Item := do
  let first := name.takeWhile fun c => c != '.' && c != '['
  match ← index? first with
  | some index => throw (.unknownPlace index)
  | none =>
    if first.isEmpty then throw (.unknownPlace 0)
    else if first = ['n'] then selectParts parts name.length n (name.drop first.length)
    else throw (.unknownName first)

/-! ## 3. Filling a pattern in -/

/-- Writes a pattern for the number `n`.  Layouts can hold fields down to the given depth;
`tries` bounds the number of pieces. -/
def fillFrom (parts : Parts) (n : Nat) : (depth tries : Nat) → Text → Except PatternFault Text
  | 0, _, _ => .error .nestedTooDeep
  | _, 0, _ => .ok []
  | depth + 1, tries + 1, pattern => do
    match ← readLiteral pattern with
    | (literal, none) => return literal
    | (literal, some rest) =>
      let (field, rest) ← readField rest
      let item ← (← select parts n field.name).convert field.conversion
      let layout ←
        if field.layout.contains '{' then
          fillFrom parts n depth (field.layout.length + 1) field.layout
        else pure field.layout
      let here ← item.layOut layout
      let more ← fillFrom parts n (depth + 1) tries rest
      return literal ++ here ++ more

/-- The pattern with its fields filled in for the number `n`, which has these parts. -/
def fill (parts : Parts) (n : Nat) (pattern : Text) : Except PatternFault Text :=
  fillFrom parts n 2 (pattern.length + 1) pattern

end Phrasing.Pattern
