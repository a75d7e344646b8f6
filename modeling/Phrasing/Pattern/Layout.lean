/-
# Layouts of fields

A field of a pattern can ask for a layout: fill and alignment, sign, width, grouping of digits,
precision and presentation.  `Layout.read` reads one, `Layout.number` and `Layout.string` lay
a natural number or a text out.
-/
import Phrasing.Number.Integer
import Phrasing.Pattern.Fault

namespace Phrasing.Pattern

/-- Where padding goes: after the text, before it, around it, or between sign and digits. -/
inductive Alignment where
  | left
  | right
  | centre
  | afterSign
deriving DecidableEq, Repr

/-- What stands between groups of digits. -/
inductive Grouping where
  | comma
  | underscore
deriving DecidableEq, Repr

/-- The layout of a field. -/
structure Layout where
  fill : Char
  alignment : Alignment
  sign : Option Char
  unsignedZero : Bool
  alternate : Bool
  width : Option Nat
  grouping : Option Grouping
  precision : Option Nat
  presentation : Option Char
deriving DecidableEq, Repr

/-- The character of a grouping. -/
def Grouping.separator : Grouping → Char
  | comma => ','
  | underscore => '_'

namespace Layout

/-! ## 1. Reading -/

/-- The alignment that a character stands for. -/
def alignment? (c : Char) : Option Alignment :=
  if c = '<' then some .left
  else if c = '>' then some .right
  else if c = '^' then some .centre
  else if c = '=' then some .afterSign
  else none

/-- The greatest number that a pattern can hold. -/
def numberLimit : Nat := Nat.pow 2 63 - 1

/-- The decimal digits at the front of a text, in any script, and the rest. -/
def takeDigits : Text → List Nat × Text
  | [] => ([], [])
  | c :: rest =>
    match Text.digitValue? c with
    | none => ([], c :: rest)
    | some d => (d :: (takeDigits rest).1, (takeDigits rest).2)

/-- An optional number at the front of a text, and the rest. -/
def readNumber (t : Text) : Except PatternFault (Option Nat × Text) :=
  match takeDigits t with
  | ([], rest) => .ok (none, rest)
  | (ds, rest) =>
    if numberLimit < Text.digitsValue ds then .error .numberTooGreat
    else .ok (some (Text.digitsValue ds), rest)

/-- Fill and alignment: either, both or none of them. -/
def readAlignment (t : Text) : Option Char × Option Alignment × Text :=
  match t with
  | c :: a :: rest =>
    match alignment? a, alignment? c with
    | some alignment, _ => (some c, some alignment, rest)
    | none, some alignment => (none, some alignment, a :: rest)
    | none, none => (none, none, t)
  | [c] =>
    match alignment? c with
    | some alignment => (none, some alignment, [])
    | none => (none, none, t)
  | [] => (none, none, [])

/-- A character at the front of a text, if it is one of the given ones, and the rest. -/
def readOneOf (cs : List Char) : Text → Option Char × Text
  | [] => (none, [])
  | c :: rest => if cs.contains c then (some c, rest) else (none, c :: rest)

/-- How digits are to be grouped, and the rest. -/
def readGrouping (t : Text) : Except PatternFault (Option Grouping × Text) :=
  let (comma, rest) := readOneOf [','] t
  let (underscore, rest) := readOneOf ['_'] rest
  match comma, underscore with
  | some _, some _ => .error .twoGroupings
  | some _, none => .ok (some .comma, rest)
  | none, some _ => if rest.head? = some ',' then .error .twoGroupings
    else .ok (some .underscore, rest)
  | none, none => .ok (none, rest)

/-- The precision after a point, and the rest. -/
def readPrecision : Text → Except PatternFault (Option Nat × Text)
  | '.' :: rest => do
    match ← readNumber rest with
    | (none, _) => throw .noPrecision
    | (some n, rest) => return (some n, rest)
  | t => .ok (none, t)

/-- Presentations in which digits can be grouped. -/
def checkGrouping (grouping : Option Grouping) (presentation : Char) : Except PatternFault Unit :=
  match grouping with
  | none => .ok ()
  | some g =>
    if ['d', 'e', 'f', 'g', 'E', 'G', '%', 'F'].contains presentation then .ok ()
    else if g = .underscore ∧ ['b', 'o', 'x', 'X'].contains presentation then .ok ()
    else .error (.groupingRefused g.separator presentation)

/-- Reads a layout for a value of the named type, whose own alignment and presentation apply
unless the layout has others. -/
def read (typeName : String) (own : Alignment) (ownPresentation : Char) (t : Text) :
    Except PatternFault Layout := do
  let (fill, alignment, rest) := readAlignment t
  let (sign, rest) := readOneOf ['+', '-', ' '] rest
  let (unsignedZero, rest) := readOneOf ['z'] rest
  let (alternate, rest) := readOneOf ['#'] rest
  let (padZero, rest) := if fill.isNone then readOneOf ['0'] rest else (none, rest)
  let (width, rest) ← readNumber rest
  let (grouping, rest) ← readGrouping rest
  let (precision, rest) ← readPrecision rest
  let presentation ← match rest with
    | [] => pure none
    | [c] => pure (some c)
    | _ => throw (.invalidLayout t typeName)
  checkGrouping grouping (presentation.getD ownPresentation)
  let alignment' := match alignment with
    | some a => a
    | none => if padZero.isSome && own = .right then .afterSign else own
  return {
    fill := if padZero.isSome then '0' else fill.getD ' '
    alignment := alignment'
    sign := sign
    unsignedZero := unsignedZero.isSome
    alternate := alternate.isSome
    width := width
    grouping := grouping
    precision := precision
    presentation := presentation }

/-! ## 2. Padding and grouping -/

/-- The characters missing to the width. -/
def missing (l : Layout) (length : Nat) : Nat := l.width.getD 0 - length

/-- Sign and prefix, digits and what follows them, padded to the width. -/
def pad (l : Layout) (front digits : Text) : Text :=
  let n := l.missing (front.length + digits.length)
  match l.alignment with
  | .left => front ++ digits ++ List.replicate n l.fill
  | .right => List.replicate n l.fill ++ front ++ digits
  | .centre =>
    List.replicate (n / 2) l.fill ++ front ++ digits ++ List.replicate (n - n / 2) l.fill
  | .afterSign => front ++ List.replicate n l.fill ++ digits

/-- Digits, given and returned from the last to the first, in groups of `size`, filled up with
zeros to at least `width` characters.  `tries` bounds the number of groups. -/
def group (separator : Char) (size : Nat) : (tries : Nat) → (width : Nat) → Text → Text
  | 0, _, ds => ds
  | tries + 1, width, ds =>
    let len := min size (max (max ds.length width) 1)
    let here := ds.take len ++ List.replicate (len - ds.length) '0'
    let rest := ds.drop len
    if rest.isEmpty && width ≤ len then here
    else here ++ separator :: group separator size tries (width - len - 1) rest

/-- The digits of a number, grouped, and filled up with zeros if zeros go between the sign and
the digits. -/
def groupDigits (l : Layout) (size others : Nat) (ds : Text) : Text :=
  let width := if l.fill = '0' ∧ l.alignment = .afterSign then l.width.getD 0 - others else 0
  match l.grouping with
  | none => List.replicate (width - ds.length) '0' ++ ds
  | some g => (group g.separator size (ds.length + width + 1) width ds.reverse).reverse

/-- The sign of a number that is not negative. -/
def signText (l : Layout) : Text :=
  match l.sign with
  | some '+' => ['+']
  | some ' ' => [' ']
  | _ => []

/-! ## 3. Presentations -/

/-- A natural number to `count` significant digits, a tie to the even one, and the power of its
first digit. -/
def significant (count n : Nat) : Text × Nat :=
  let ds := Number.digits n
  if ds.length ≤ count then (ds ++ List.replicate (count - ds.length) '0', ds.length - 1)
  else
    let unit := Nat.pow 10 (ds.length - count)
    let q := n / unit
    let r := n % unit
    let rounded := if 2 * r < unit then q else if unit < 2 * r then q + 1
      else if q % 2 = 0 then q else q + 1
    let ds' := Number.digits rounded
    (ds'.take count, ds.length - 1 + (ds'.length - count))

/-- The text without zeros at its end. -/
def dropZeros (t : Text) : Text := Text.dropEndWhile (· == '0') t

/-- A fraction after its point; the point is left out with an empty fraction, unless it is to
be kept. -/
def fractionText (keepPoint : Bool) (fraction : Text) : Text :=
  if fraction.isEmpty && !keepPoint then [] else '.' :: fraction

/-- An exponent with its mark, a sign and at least two digits. -/
def exponentText (mark : Char) (power : Nat) : Text :=
  let ds := Number.digits power
  mark :: '+' :: (if ds.length < 2 then '0' :: ds else ds)

/-- A number with an exponent: its first digit, and what follows it. -/
def scientific (mark : Char) (precision : Nat) (keepPoint : Bool) (n : Nat) : Text × Text :=
  let (ds, power) := significant (precision + 1) n
  (ds.take 1, fractionText keepPoint (ds.drop 1) ++ exponentText mark power)

/-- A number with the given count of significant digits, with an exponent only if the number
has more digits before the point: its whole part, and what follows it. -/
def general (mark : Char) (precision : Nat) (alternate : Bool) (n : Nat) : Text × Text :=
  let count := max precision 1
  let (ds, power) := significant count n
  let tidy := fun t : Text => if alternate then t else dropZeros t
  if power < count then
    (ds.take (power + 1), fractionText alternate (tidy (ds.drop (power + 1))))
  else
    (ds.take 1, fractionText alternate (tidy (ds.drop 1)) ++ exponentText mark power)

/-- A presentation of numbers with a point. -/
inductive RealPresentation where
  | fixed
  | percentage
  | scientific (mark : Char)
  | general (mark : Char)

/-- A presentation by its letter. -/
def RealPresentation.of? (c : Char) : Option RealPresentation :=
  if c = 'f' ∨ c = 'F' then some .fixed
  else if c = '%' then some .percentage
  else if c = 'e' ∨ c = 'E' then some (.scientific c)
  else if c = 'g' then some (.general 'e')
  else if c = 'G' then some (.general 'E')
  else none

/-- The whole part of a number and what follows it, in a presentation with a point. -/
def realParts (precision : Nat) (alternate : Bool) (n : Nat) : RealPresentation → Text × Text
  | .fixed => (Number.digits n, fractionText alternate (List.replicate precision '0'))
  | .percentage =>
    (Number.digits (n * 100),
      fractionText alternate (List.replicate precision '0') ++ ['%'])
  | .scientific mark => scientific mark precision alternate n
  | .general mark => general mark precision alternate n

/-- The base of a presentation of whole numbers. -/
def base? (presentation : Char) : Option Nat :=
  if presentation = 'd' ∨ presentation = 'n' then some 10
  else if presentation = 'b' then some 2
  else if presentation = 'o' then some 8
  else if presentation = 'x' ∨ presentation = 'X' then some 16
  else none

/-- The mark of a base in front of the digits. -/
def baseMark (l : Layout) (presentation : Char) : Text :=
  if l.alternate ∧ presentation ≠ 'd' ∧ presentation ≠ 'n' then ['0', presentation] else []

/-- What a whole number has no use for. -/
def checkWhole (l : Layout) : Except PatternFault Unit :=
  if l.precision.isSome then
    .error (.refused "Precision not allowed in integer format specifier")
  else if l.unsignedZero then
    .error (.refused "Negative zero coercion (z) not allowed in integer format specifier")
  else .ok ()

/-- A number as the character with that code point.  Halves of surrogate pairs are refused: they
have code points, but a text is made of characters. -/
def character (l : Layout) (n : Nat) : Except PatternFault Text :=
  if l.sign.isSome then
    .error (.refused "Sign not allowed with integer format specifier 'c'")
  else if l.alternate then
    .error (.refused "Alternate form (#) not allowed with integer format specifier 'c'")
  else if 0x10FFFF < n then .error .noCharacter
  else if 0xD800 ≤ n ∧ n ≤ 0xDFFF then .error .surrogate
  else .ok (l.pad [] [Char.ofNat n])

/-- Lays a natural number out. -/
def number (l : Layout) (n : Nat) : Except PatternFault Text := do
  let presentation := l.presentation.getD 'd'
  match base? presentation with
  | some base =>
    l.checkWhole
    let front := l.signText ++ l.baseMark presentation
    let ds := Nat.toDigits base n
    let ds := if presentation = 'X' then ds.map Char.toUpper else ds
    return l.pad front (l.groupDigits (if base = 10 then 3 else 4) front.length ds)
  | none =>
    if presentation = 'c' then
      l.checkWhole
      l.character n
    else
      match RealPresentation.of? presentation with
      | none => throw (.unknownPresentation presentation "int")
      | some shape =>
        let precision := l.precision.getD 6
        if Nat.pow 2 31 ≤ precision then throw (.refused "precision too big")
        let (whole, rest) := realParts precision l.alternate n shape
        let front := l.signText
        return l.pad front (l.groupDigits 3 (front.length + rest.length) whole ++ rest)

/-- What a text has no use for. -/
def checkString (l : Layout) : Except PatternFault Unit :=
  if l.sign = some ' ' then .error (.refused "Space not allowed in string format specifier")
  else if l.sign.isSome then .error (.refused "Sign not allowed in string format specifier")
  else if l.unsignedZero then
    .error (.refused "Negative zero coercion (z) not allowed in string format specifier")
  else if l.alternate then
    .error (.refused "Alternate form (#) not allowed in string format specifier")
  else if l.alignment = .afterSign then
    .error (.refused "'=' alignment not allowed in string format specifier")
  else .ok ()

/-- Lays a text out. -/
def string (l : Layout) (t : Text) : Except PatternFault Text := do
  let presentation := l.presentation.getD 's'
  if presentation ≠ 's' then throw (.unknownPresentation presentation "str")
  l.checkString
  return l.pad [] (match l.precision with
    | none => t
    | some p => t.take p)

end Layout

end Phrasing.Pattern
