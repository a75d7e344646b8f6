/-
# Reading JSON

A text is read as one JSON value with white space around it.  Members of an object with the
same name are one: the last value counts.  The words for infinities and the undefined number are
accepted; control characters in strings are not.

A text that is refused is blamed at the character where reading stopped, which a message gives
by its line, its column and its offset.
-/
import Phrasing.Json.Basic
import Phrasing.Number.Integer
import Phrasing.Text.Position

namespace Phrasing

/-- Why a text is not JSON. -/
inductive JsonFault where
  | byteOrderMark
  | noValue
  | extra
  | noName
  | noColon
  | noComma
  | controlCharacter
  | unterminated
  | badEscape
  | badCodePoint
deriving DecidableEq, Repr

/-- A refusal of a text: a fault at some place, or a whole number of too many digits. -/
inductive JsonError where
  | fault (f : JsonFault) (place : Position)
  | number (f : NumberFault)
deriving DecidableEq, Repr

/-- How a fault is worded. -/
def JsonFault.message : JsonFault → String
  | byteOrderMark => "Unexpected UTF-8 BOM (decode using utf-8-sig)"
  | noValue => "Expecting value"
  | extra => "Extra data"
  | noName => "Expecting property name enclosed in double quotes"
  | noColon => "Expecting ':' delimiter"
  | noComma => "Expecting ',' delimiter"
  | controlCharacter => "Invalid control character at"
  | unterminated => "Unterminated string starting at"
  | badEscape => "Invalid \\escape"
  | badCodePoint => "Invalid \\uXXXX escape"

/-- How a refusal is worded. -/
def JsonError.message : JsonError → String
  | fault f p => s!"{f.message}: line {p.line} column {p.column} (char {p.offset})"
  | number f => Number.describe f

namespace Json

/-- A stop of reading: a fault with the text unread at it, or a number that is too long. -/
inductive Stop where
  | fault (f : JsonFault) (unread : Text)
  | number (f : NumberFault)
deriving DecidableEq, Repr

/-- White space between the parts of a value. -/
def isSpace (c : Char) : Bool := c == ' ' || c == '\t' || c == '\n' || c == '\r'

/-- Drops the white space in front. -/
def skipSpace (t : Text) : Text := t.dropWhile isSpace

/-! ## 1. Numbers -/

/-- The digits of the integral part: none after a leading zero. -/
def integralPart : Text → Text × Text
  | '0' :: rest => (['0'], rest)
  | t => t.span Text.isAsciiDigit

/-- A point and the digits after it, if there are any. -/
def fraction : Text → Text × Text
  | '.' :: rest =>
    match rest.span Text.isAsciiDigit with
    | ([], _) => ([], '.' :: rest)
    | (ds, rest') => ('.' :: ds, rest')
  | t => ([], t)

/-- The sign of an exponent. -/
def exponentSign : Text → Text × Text
  | '+' :: rest => (['+'], rest)
  | '-' :: rest => (['-'], rest)
  | t => ([], t)

/-- The mark, sign and digits of an exponent, if there are any. -/
def exponent : Text → Text × Text
  | [] => ([], [])
  | mark :: rest =>
    if mark = 'e' ∨ mark = 'E' then
      let (sign, digits) := exponentSign rest
      match digits.span Text.isAsciiDigit with
      | ([], _) => ([], mark :: rest)
      | (ds, rest') => (mark :: sign ++ ds, rest')
    else ([], mark :: rest)

/-- A number after its sign, and the rest. -/
def readNumber (negative : Bool) (t : Text) : Except Stop (Option (Json × Text)) :=
  match integralPart t with
  | ([], _) => .ok none
  | (whole, rest) =>
    let (fractional, rest) := fraction rest
    let (power, rest) := exponent rest
    if fractional.isEmpty && power.isEmpty then
      if Number.digitLimit < whole.length then .error (.number (.tooLongToRead whole.length))
      else .ok (some (integer (Number.signed negative (whole.map (·.toNat - 48))), rest))
    else
      match Binary64.readUnsigned negative (whole ++ fractional ++ power) with
      | some (x, _) => .ok (some (real x, rest))
      | none => .ok none

/-! ## 2. Strings -/

/-- The value of a hexadecimal digit. -/
def hexValue? (c : Char) : Option Nat :=
  if Text.isAsciiDigit c then some (c.toNat - 48)
  else if 'a' ≤ c ∧ c ≤ 'f' then some (c.toNat - 87)
  else if 'A' ≤ c ∧ c ≤ 'F' then some (c.toNat - 55)
  else none

/-- Four hexadecimal digits and the rest. -/
def fourDigits : Text → Option (Nat × Text)
  | a :: b :: c :: d :: rest =>
    match hexValue? a, hexValue? b, hexValue? c, hexValue? d with
    | some a, some b, some c, some d => some (((a * 16 + b) * 16 + c) * 16 + d, rest)
    | _, _, _, _ => none
  | _ => none

/-- The character that a single letter after a backslash stands for. -/
def simpleEscape? (c : Char) : Option Char :=
  if c = '"' ∨ c = '\\' ∨ c = '/' then some c
  else if c = 'b' then some (Char.ofNat 8)
  else if c = 'f' then some (Char.ofNat 12)
  else if c = 'n' then some '\n'
  else if c = 'r' then some '\r'
  else if c = 't' then some '\t'
  else none

/-- Half of a pair of code units that stands for one character. -/
def isLeading (n : Nat) : Bool := 0xD800 ≤ n && n < 0xDC00

/-- The other half. -/
def isTrailing (n : Nat) : Bool := 0xDC00 ≤ n && n < 0xE000

/-- The character of a code unit; half a pair alone stands for the replacement character. -/
def unitChar (n : Nat) : Char :=
  if isLeading n || isTrailing n then Char.ofNat 0xFFFD else Char.ofNat n

/-- The character after `\u`, and the rest.  At least one character has to follow the digits. -/
def codePoint (t : Text) : Except Stop (Char × Text) :=
  if t.length < 5 then .error (.fault .badCodePoint ('u' :: t))
  else
    match fourDigits t with
    | none => .error (.fault .badCodePoint ('u' :: t))
    | some (n, rest) =>
      match isLeading n, rest with
      | true, '\\' :: 'u' :: rest' =>
        if rest'.length < 5 then .ok (unitChar n, rest)
        else
          match fourDigits rest' with
          | none => .error (.fault .badCodePoint ('u' :: rest'))
          | some (m, rest'') =>
            if isTrailing m then
              .ok (Char.ofNat (0x10000 + (n - 0xD800) * 0x400 + (m - 0xDC00)), rest'')
            else .ok (unitChar n, rest)
      | _, _ => .ok (unitChar n, rest)

/-- The rest of a string after its opening quote, and the rest of the text.  `start` is the text
from the opening quote on. -/
def readString (start : Text) : (tries : Nat) → Text → Except Stop (Text × Text)
  | 0, _ => .error (.fault .unterminated start)
  | tries + 1, t =>
    match t with
    | [] => .error (.fault .unterminated start)
    | '"' :: rest => .ok ([], rest)
    | ['\\'] => .error (.fault .unterminated start)
    | '\\' :: 'u' :: rest => do
      let (c, rest) ← codePoint rest
      let (cs, rest) ← readString start tries rest
      return (c :: cs, rest)
    | '\\' :: letter :: rest =>
      match simpleEscape? letter with
      | none => .error (.fault .badEscape t)
      | some c => do
        let (cs, rest) ← readString start tries rest
        return (c :: cs, rest)
    | c :: rest =>
      if c.toNat < 32 then .error (.fault .controlCharacter t)
      else do
        let (cs, rest) ← readString start tries rest
        return (c :: cs, rest)

/-! ## 3. Values -/

/-- The words that stand for values. -/
def words : List (String × Json) :=
  [("null", null), ("true", truth true), ("false", truth false), ("NaN", real .undefined),
    ("Infinity", real (.infinite false)), ("-Infinity", real (.infinite true))]

/-- A word at the front of a text, and the rest. -/
def readWord? (t : Text) : Option (Json × Text) :=
  words.findSome? fun (w, j) => (Text.dropPrefix? w.toList t).map (j, ·)

mutual

/-- A value at the front of a text, and the rest. -/
def readValue : (tries : Nat) → Text → Except Stop (Json × Text)
  | 0, t => .error (.fault .noValue t)
  | tries + 1, t =>
    match t with
    | '"' :: rest => do
      let (s, rest) ← readString t (rest.length + 1) rest
      return (string s, rest)
    | '[' :: rest =>
      match skipSpace rest with
      | ']' :: rest => .ok (array [], rest)
      | rest => do
        let (items, rest) ← readItems tries rest
        return (array items, rest)
    | '\x7b' :: rest =>
      match skipSpace rest with
      | '\x7d' :: rest => .ok (object [], rest)
      | rest => do
        let (members, rest) ← readMembers tries [] rest
        return (object members, rest)
    | t =>
      match readWord? t with
      | some result => .ok result
      | none => do
        let number ←
          match t with
          | '-' :: rest => readNumber true rest
          | t => readNumber false t
        match number with
        | some result => return result
        | none => throw (.fault .noValue t)

/-- The items of an array after its opening bracket, and the rest. -/
def readItems : (tries : Nat) → Text → Except Stop (List Json × Text)
  | 0, t => .error (.fault .noValue t)
  | tries + 1, t => do
    let (j, rest) ← readValue tries t
    match skipSpace rest with
    | ']' :: rest => return ([j], rest)
    | ',' :: rest =>
      let (js, rest) ← readItems tries (skipSpace rest)
      return (j :: js, rest)
    | rest => throw (.fault .noComma rest)

/-- The members of an object after its opening brace and those `before`, and the rest. -/
def readMembers : (tries : Nat) → (before : Named Json) → Text →
    Except Stop (Named Json × Text)
  | 0, _, t => .error (.fault .noValue t)
  | tries + 1, before, t =>
    match t with
    | '"' :: rest => do
      let (name, rest) ← readString t (rest.length + 1) rest
      match skipSpace rest with
      | ':' :: rest =>
        let (j, rest) ← readValue tries (skipSpace rest)
        let members := Named.set name j before
        match skipSpace rest with
        | '\x7d' :: rest => return (members, rest)
        | ',' :: rest => readMembers tries members (skipSpace rest)
        | rest => throw (.fault .noComma rest)
      | rest => throw (.fault .noColon rest)
    | t => .error (.fault .noName t)

end

/-- The refusal of a text at which reading stopped. -/
def Stop.toError (source : Text) : Stop → JsonError
  | .number f => .number f
  | .fault f unread =>
    .fault f (Position.start.advance (source.take (source.length - unread.length)))

/-- The value that fills a text, but for white space. -/
def readAll (t : Text) : Except Stop Json :=
  match t with
  | '\ufeff' :: _ => .error (.fault .byteOrderMark t)
  | t => do
    let (j, rest) ← readValue (2 * t.length + 2) (skipSpace t)
    match skipSpace rest with
    | [] => return j
    | rest => throw (.fault .extra rest)

/-- Reads a text as JSON. -/
def read (t : Text) : Except JsonError Json := (readAll t).mapError (Stop.toError t)

end Json

end Phrasing
