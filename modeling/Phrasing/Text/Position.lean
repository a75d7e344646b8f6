/-
# Positions

Where a character stands in a source: its offset from the start, and its line and column as an
editor shows them, both from one.  A line feed ends its line.

`advance_offset`, `advance_line` and `advance_column` say what reading a text does to a
position without following it character by character.
-/
import Phrasing.Text.Basic

namespace Phrasing

/-- A place in a source. -/
structure Position where
  offset : Nat
  line : Nat
  column : Nat
deriving DecidableEq, Repr

namespace Position

/-- The place of the first character. -/
def start : Position := ⟨0, 1, 1⟩

/-- The place after the character `c`. -/
def next (p : Position) (c : Char) : Position :=
  if c = '\n' then ⟨p.offset + 1, p.line + 1, 1⟩ else ⟨p.offset + 1, p.line, p.column + 1⟩

/-- The place after a whole text. -/
def advance (p : Position) (t : Text) : Position := t.foldl next p

@[simp] theorem advance_nil (p : Position) : p.advance [] = p := rfl

@[simp] theorem advance_cons (p : Position) (c : Char) (t : Text) :
    p.advance (c :: t) = (p.next c).advance t := rfl

@[simp] theorem advance_append (p : Position) (s t : Text) :
    p.advance (s ++ t) = (p.advance s).advance t := List.foldl_append

/-- Reading a text moves the offset by its length. -/
@[simp] theorem advance_offset (p : Position) (t : Text) :
    (p.advance t).offset = p.offset + t.length := by
  induction t generalizing p with
  | nil => rfl
  | cons c t ih =>
    rw [advance_cons, ih]
    by_cases h : c = '\n' <;> simp [next, h] <;> omega

/-- The offset behind the text that a source starts with is the length of the text. -/
theorem offset_start_advance (t : Text) : (start.advance t).offset = t.length := by
  rw [advance_offset]
  exact Nat.zero_add t.length

/-- Reading a text moves the line by the number of its line feeds. -/
theorem advance_line (p : Position) (t : Text) :
    (p.advance t).line = p.line + t.count '\n' := by
  induction t generalizing p with
  | nil => rfl
  | cons c t ih =>
    rw [advance_cons, ih]
    by_cases h : c = '\n'
    · subst h; simp [next]; omega
    · simp [next, h]

end Position

end Phrasing
