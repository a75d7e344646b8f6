/-
# Integers as text

Whole numbers are written in decimal, and read leniently: white space around the number, one
sign, digits of any script, and single underscores between digits.

Both directions refuse numbers of more than `digitLimit` digits, because conversion takes time
quadratic in their number.
-/
import Phrasing.Text.Digit
import Phrasing.Text.Quoted

namespace Phrasing

/-- Why something is not usable as a whole number. -/
inductive NumberFault where
  /-- The text, given as a literal, does not spell a whole number. -/
  | notAnInteger (literal : Text)
  /-- The text spells a number of too many digits. -/
  | tooLongToRead (digits : Nat)
  /-- The number has too many digits to be written. -/
  | tooLongToWrite
  /-- The value of an undefined operation has no integral part. -/
  | undefinedNumber
  /-- An infinity has no integral part. -/
  | infiniteNumber
  /-- A value of this type is not a number at all. -/
  | notNumeric (typeName : String)
deriving DecidableEq, Repr

namespace Number

/-- The greatest number of digits that is converted between numbers and text. -/
def digitLimit : Nat := 4300

/-- How a fault is worded. -/
def describe : NumberFault → String
  | .notAnInteger literal =>
    s!"invalid literal for int() with base 10: {Text.string (literal.take 200)}"
  | .tooLongToRead digits =>
    s!"Exceeds the limit ({digitLimit} digits) for integer string conversion: " ++
      s!"value has {digits} digits; use sys.set_int_max_str_digits() to increase the limit"
  | .tooLongToWrite =>
    s!"Exceeds the limit ({digitLimit} digits) for integer string conversion; " ++
      "use sys.set_int_max_str_digits() to increase the limit"
  | .undefinedNumber => "cannot convert float NaN to integer"
  | .infiniteNumber => "cannot convert float infinity to integer"
  | .notNumeric typeName =>
    "int() argument must be a string, a bytes-like object or a real number, " ++
      s!"not '{typeName}'"

/-! ## 1. Writing -/

/-- The decimal digits of a natural number, without leading zeros. -/
def digits (n : Nat) : Text := Nat.toDigits 10 n

/-- A whole number in decimal, a minus sign in front of the negative ones. -/
def decimal : Int → Text
  | .ofNat n => digits n
  | .negSucc n => '-' :: digits (n + 1)

/-- Whether a whole number has few enough digits to be written. -/
def isWritable (n : Int) : Bool := n.natAbs < Nat.pow 10 digitLimit

/-- A whole number in decimal, unless it has too many digits. -/
def decimal? (n : Int) : Except NumberFault Text :=
  if isWritable n then .ok (decimal n) else .error .tooLongToWrite

/-! ## 2. Reading -/

/-- White space that may stand around a number: all of it, less the separator controls. -/
def isMargin (c : Char) : Bool := Text.isBlank c && !(28 ≤ c.toNat && c.toNat ≤ 31)

/-- The digits at the front of a text, in which a single underscore may stand between two
digits, and the rest.  An underscore without a digit after it spoils the number. -/
def readDigits : (t : Text) → Option (List Nat × Text)
  | [] => some ([], [])
  | '_' :: rest =>
    match rest with
    | [] => none
    | c :: rest' =>
      match Text.digitValue? c with
      | none => none
      | some d => (readDigits rest').map fun (ds, r) => (d :: ds, r)
  | c :: rest =>
    match Text.digitValue? c with
    | none => some ([], c :: rest)
    | some d => (readDigits rest).map fun (ds, r) => (d :: ds, r)

/-- An optional sign: whether it was a minus, and the rest. -/
def readSign : Text → Bool × Text
  | '-' :: rest => (true, rest)
  | '+' :: rest => (false, rest)
  | t => (false, t)

/-- The number that digits spell, under the sign that was read. -/
def signed (negative : Bool) (ds : List Nat) : Int :=
  if negative then -(Text.digitsValue ds : Int) else Text.digitsValue ds

/-- Reads a whole number that fills the text; `literal` shows the text to the reader of a
message. -/
def readAs (literal : Text) (t : Text) : Except NumberFault Int :=
  let (negative, body) := readSign (t.dropWhile isMargin)
  match body.head? >>= Text.digitValue?, readDigits body with
  | some _, some (ds, rest) =>
    if digitLimit < ds.length then .error (.tooLongToRead ds.length)
    else if rest.all isMargin then .ok (signed negative ds)
    else .error (.notAnInteger literal)
  | _, _ => .error (.notAnInteger literal)

/-- Reads a whole number that fills the text. -/
def read (t : Text) : Except NumberFault Int := readAs (Text.quote t) t

end Number

end Phrasing
