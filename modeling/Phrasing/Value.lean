/-
# Values

What an expression of a template can denote: a scalar, a sequence of values, or a mapping from
field names to values.  Scalars and sequences may carry the name of the style they are to be
rendered in; the empty name stands for no style when a value is rendered.
-/
import Phrasing.Named
import Phrasing.Number.Shortest

namespace Phrasing

/-- The content of a scalar.  A byte string comes from a path that is given in bytes. -/
inductive Scalar where
  | absent
  | truth (b : Bool)
  | integer (n : Int)
  | real (x : Binary64)
  | text (t : Text)
  | bytes (octets : List UInt8)
deriving DecidableEq, Repr

/-- What an expression can denote. -/
inductive Value where
  | scalar (content : Scalar) (style : Option Text)
  | sequence (items : List Value) (style : Option Text)
  | mapping (fields : List (Text × Value))

namespace Scalar

/-- The number that a scalar counts as in comparisons: truth values count as one and zero. -/
def asNumber? : Scalar → Option (Int ⊕ Binary64)
  | .truth b => some (.inl (if b then 1 else 0))
  | .integer n => some (.inl n)
  | .real x => some (.inr x)
  | _ => none

end Scalar

/-- Numerical equality across integers and floating-point numbers. -/
def sameNumber : (a b : Int ⊕ Binary64) → Bool
  | .inl m, .inl n => m == n
  | .inl m, .inr y => y.sameInt m
  | .inr x, .inl n => x.sameInt n
  | .inr x, .inr y => x.same y

/-- Scalars are the same if they are the same number or otherwise equal. -/
def Scalar.same (a b : Scalar) : Bool :=
  match a.asNumber?, b.asNumber? with
  | some x, some y => sameNumber x y
  | none, none => a == b
  | _, _ => false

namespace Value

/-- The name of a value's kind, as messages give it. -/
def kind : Value → String
  | scalar .. => "scalar"
  | sequence .. => "sequence"
  | mapping .. => "mapping"

/-- The style a value carries. -/
def style? : Value → Option Text
  | scalar _ style => style
  | sequence _ style => style
  | mapping _ => none

mutual

/-- Values are the same if they have the same shape, the same styles and the same scalars;
the order of the fields of a mapping does not matter. -/
def same : (a b : Value) → Bool
  | scalar x s, scalar y t => x.same y && s == t
  | sequence xs s, sequence ys t => sameItems xs ys && s == t
  | mapping xs, mapping ys => xs.length == ys.length && sameFields xs ys
  | _, _ => false

/-- The same items, one by one. -/
def sameItems : (xs ys : List Value) → Bool
  | [], [] => true
  | x :: xs, y :: ys => same x y && sameItems xs ys
  | _, _ => false

/-- Every field of `xs` is the same in `ys`. -/
def sameFields : (xs ys : List (Text × Value)) → Bool
  | [], _ => true
  | (name, x) :: xs, ys =>
    (match Named.find? name ys with
      | some y => same x y
      | none => false) && sameFields xs ys

end

end Value

end Phrasing
