/-
# Data as whole numbers

Texts and byte strings are read as numbers, truth values count as one and zero, and the
fractional part of a floating-point number is cut off.
-/
import Phrasing.Data.Literal

namespace Phrasing.Data

/-- The whole number that data stands for. -/
def toInteger : Data → Except NumberFault Int
  | integer n => .ok n
  | truth b => .ok (if b then 1 else 0)
  | real .undefined => .error .undefinedNumber
  | real (.infinite _) => .error .infiniteNumber
  | real x => .ok (x.truncate?.getD 0)
  | text t => Number.read t
  | bytes octets =>
    Number.readAs (bytesLiteral octets).toList (octets.map fun o => Char.ofNat o.toNat)
  | d => .error (.notNumeric d.qualifiedTypeName)

/-- What the first of some keys that is there stands for; an absent value counts as none. -/
def pick? (entries : List (Data × Data)) (keys : List String) : Option Data :=
  match keys.findSome? fun key => field? key.toList entries with
  | some absent => none
  | d => d

end Phrasing.Data
