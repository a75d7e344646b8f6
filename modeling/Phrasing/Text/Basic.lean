/-
# Text

The text this library composes is a list of characters: every offset, length and column of
the project counts its elements.  This module holds the few operations the other modules
share: white space, trimming, cutting into lines and gluing back.
-/

namespace Phrasing

/-- Text being composed, character by character. -/
abbrev Text := List Char

namespace Text

/-! ## 1. White space -/

/-- A character that separates words but leaves no ink: the tabulation and line controls, the
four separator controls, the space, and the spaces and line separators beyond ASCII. -/
def isBlank (c : Char) : Bool :=
  let n := c.toNat
  (9 ≤ n && n ≤ 13) || (28 ≤ n && n ≤ 32) || n == 0x85 || n == 0xA0 || n == 0x1680 ||
    (0x2000 ≤ n && n ≤ 0x200A) || n == 0x2028 || n == 0x2029 || n == 0x202F || n == 0x205F ||
    n == 0x3000

/-- A text with no ink at all; the empty text is one. -/
def isAllBlank (t : Text) : Bool := t.all isBlank

/-- Drops the white space in front. -/
def trimStart (t : Text) : Text := t.dropWhile isBlank

/-- Drops the characters at the end that satisfy `p`. -/
def dropEndWhile (p : Char → Bool) (t : Text) : Text := (t.reverse.dropWhile p).reverse

/-- Drops the white space at the end. -/
def trimEnd (t : Text) : Text := dropEndWhile isBlank t

/-- Drops the white space at both ends. -/
def trim (t : Text) : Text := trimEnd (trimStart t)

/-! ## 2. Lines -/

/-- Cuts at every character that satisfies `p`, which is dropped: `n` cuts give `n + 1`
pieces, so the result is never empty. -/
def splitWhere (p : Char → Bool) : Text → List Text
  | [] => [[]]
  | c :: rest =>
    if p c then [] :: splitWhere p rest
    else
      match splitWhere p rest with
      | [] => [[c]]
      | piece :: pieces => (c :: piece) :: pieces

theorem splitWhere_ne_nil (p : Char → Bool) (t : Text) : splitWhere p t ≠ [] := by
  cases t with
  | nil => simp [splitWhere]
  | cons c rest =>
    simp only [splitWhere]
    split
    · simp
    · split <;> simp

/-- The lines of a text: its pieces between line feeds. -/
def lines (t : Text) : List Text := splitWhere (· == '\n') t

/-- Glues pieces with a separator between neighbours. -/
def join (separator : Text) : List Text → Text
  | [] => []
  | [piece] => piece
  | piece :: pieces => piece ++ separator ++ join separator pieces

/-- Cutting into lines loses nothing: gluing them with line feeds gives the text back. -/
theorem join_lines (t : Text) : join ['\n'] (lines t) = t := by
  induction t with
  | nil => rfl
  | cons c rest ih =>
    simp only [lines, splitWhere] at ih ⊢
    have hne := splitWhere_ne_nil (· == '\n') rest
    by_cases hc : c = '\n'
    · subst hc
      match h : splitWhere (· == '\n') rest with
      | [] => exact absurd h hne
      | [piece] => rw [h] at ih; simpa [join] using ih
      | piece :: next :: pieces => rw [h] at ih; simpa [join] using ih
    · have hc' : (c == '\n') = false := by simp [hc]
      match h : splitWhere (· == '\n') rest with
      | [] => exact absurd h hne
      | [piece] => rw [h] at ih; simpa [join, hc'] using ih
      | piece :: next :: pieces => rw [h] at ih; simpa [join, hc'] using ih

/-! ## 3. Searching -/

/-- What follows `pre` in `t`, if `t` starts with it. -/
def dropPrefix? : (pre t : Text) → Option Text
  | [], t => some t
  | _ :: _, [] => none
  | p :: pre, c :: t => if p = c then dropPrefix? pre t else none

/-- Cuts at the first occurrence of a character: the text before it and the text after it. -/
def cutAt? (sep : Char) : Text → Option (Text × Text)
  | [] => none
  | c :: rest =>
    if c = sep then some ([], rest)
    else (cutAt? sep rest).map fun (before, after) => (c :: before, after)

end Text

end Phrasing
