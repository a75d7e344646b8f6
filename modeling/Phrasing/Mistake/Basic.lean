/-
# Sorts of mistakes

A fault is a mistake of some sort, which decides who is told about it.
-/

namespace Phrasing

/-- The sort of a mistake. -/
inductive Mistake where
  /-- Something of the right type cannot be accepted. -/
  | value
  /-- Something is of the wrong type. -/
  | type
  /-- A name stands for nothing. -/
  | key
  /-- A place holds nothing. -/
  | index
  /-- Something lacks a part or an operation. -/
  | part
  /-- A number is out of range. -/
  | magnitude
  /-- Bytes are not text. -/
  | encoding
deriving DecidableEq, Repr

end Phrasing
