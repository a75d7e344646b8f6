/-
# Quoted text

Messages show a text between quotes, on one line and with every unprintable character spelled
out, so that the reader can tell `' '` from `'\xa0'`.  Single quotes are used, unless the text
holds a single quote and no double quote.
-/
import Phrasing.Text.Printable

namespace Phrasing.Text

/-- The quote that needs the least escaping: the single quote, unless only that one occurs. -/
def quoteFor (t : Text) : Char :=
  if t.contains '\'' && !t.contains '"' then '"' else '\''

/-- The lower-case hexadecimal digits of `n`, at least `width` of them. -/
def hexDigits (width n : Nat) : Text :=
  let ds := Nat.toDigits 16 n
  List.replicate (width - ds.length) '0' ++ ds

/-- An unprintable character by its code point: two, four or eight digits. -/
def codePointEscape (c : Char) : Text :=
  let n := c.toNat
  if n < 0x100 then '\\' :: 'x' :: hexDigits 2 n
  else if n < 0x10000 then '\\' :: 'u' :: hexDigits 4 n
  else '\\' :: 'U' :: hexDigits 8 n

/-- One character between quotes of the kind `quote`. -/
def escapeChar (quote c : Char) : Text :=
  if c = quote ∨ c = '\\' then ['\\', c]
  else if c = '\n' then ['\\', 'n']
  else if c = '\r' then ['\\', 'r']
  else if c = '\t' then ['\\', 't']
  else if isPrintable c then [c]
  else codePointEscape c

/-- A character as it is if it is an ASCII one, and by its code point otherwise. -/
def asciiEscape (c : Char) : Text := if c.toNat < 128 then [c] else codePointEscape c

/-- The text between quotes, escaped. -/
def quote (t : Text) : Text :=
  let q := quoteFor t
  q :: t.flatMap (escapeChar q) ++ [q]

/-- The text between quotes, ready for a message. -/
def quoted (t : Text) : String := String.ofList (quote t)

/-- A text as it is, ready for a message. -/
def string (t : Text) : String := String.ofList t

/-- Texts with a comma and a space between neighbours, ready for a message. -/
def listed (ts : List Text) : String := string (join [',', ' '] ts)

end Phrasing.Text
