/-
# JSON values

JSON values with whole numbers of any size, floating-point numbers that may be infinite or
undefined, and objects that keep the order of their members.

`text` writes a value on one line, a space after each comma and colon.  Only quotes,
backslashes and control characters are escaped.
-/
import Phrasing.Named
import Phrasing.Number.Shortest
import Phrasing.Text.Quoted

namespace Phrasing

/-- A JSON value. -/
inductive Json where
  | null
  | truth (b : Bool)
  | integer (n : Int)
  | real (x : Binary64)
  | string (t : Text)
  | array (items : List Json)
  | object (members : List (Text × Json))
deriving Inhabited

namespace Json

/-! ## 1. Building -/

/-- A string of fixed text. -/
def word (s : String) : Json := string s.toList

/-- An array of strings. -/
def strings (ts : List Text) : Json := array (ts.map string)

/-- The member of an object without value, or a member that is left out. -/
def optional (name : String) : Option Json → List (Text × Json)
  | none => []
  | some j => [(name.toList, j)]

/-- A member of an object. -/
def member (name : String) (j : Json) : List (Text × Json) := [(name.toList, j)]

/-! ## 2. Writing -/

/-- A character inside a string. -/
def escapeChar (c : Char) : Text :=
  if c = '"' ∨ c = '\\' then ['\\', c]
  else if c = '\n' then ['\\', 'n']
  else if c = '\r' then ['\\', 'r']
  else if c = '\t' then ['\\', 't']
  else if c = Char.ofNat 8 then ['\\', 'b']
  else if c = Char.ofNat 12 then ['\\', 'f']
  else if c.toNat < 32 then '\\' :: 'u' :: Text.hexDigits 4 c.toNat
  else [c]

/-- A string between quotes. -/
def quoted (t : Text) : Text := '"' :: t.flatMap escapeChar ++ ['"']

/-- A floating-point number. -/
def realText : Binary64 → Text
  | .undefined => "NaN".toList
  | .infinite negative => if negative then "-Infinity".toList else "Infinity".toList
  | x => x.text Binary64.exactLayout

mutual

/-- A value on one line. -/
def text : Json → Text
  | null => "null".toList
  | truth b => if b then "true".toList else "false".toList
  | integer n => Number.decimal n
  | real x => realText x
  | string t => quoted t
  | array items => '[' :: itemsText items ++ [']']
  | object members => '\x7b' :: membersText members ++ ['\x7d']

/-- Items with commas between them. -/
def itemsText : List Json → Text
  | [] => []
  | [j] => text j
  | j :: js => text j ++ ',' :: ' ' :: itemsText js

/-- Members with commas between them. -/
def membersText : List (Text × Json) → Text
  | [] => []
  | [(name, j)] => quoted name ++ ':' :: ' ' :: text j
  | (name, j) :: members => quoted name ++ ':' :: ' ' :: text j ++ ',' :: ' ' :: membersText members

end

end Json

end Phrasing
