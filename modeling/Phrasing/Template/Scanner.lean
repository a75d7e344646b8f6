/-
# Scanning with marks

A scanner goes through a template by offset and cuts its tokens out of the source.  For this it
marks the places that it will have to come back to: where the text that it gathers began, where
an expression opened, and where a closing delimiter stands that has to be doubled.

A mark is kept only as long as it is of use.  A scanner that needs one which is not set cannot go
on, and has no error to show for it.
-/
import Phrasing.Template.Token

namespace Phrasing

/-- What a scanner is in the middle of. -/
inductive ScanMode where
  | literal
  | inExpression
  | inEscape
deriving DecidableEq, Repr

/-- Why a scanner does not go on: an error in the template, or a mark that it needs and that is
not set. -/
inductive ScanStop where
  | error (e : TemplateError)
  | unmarked
deriving DecidableEq, Repr

/-- A scanner: its mode, the place it has reached, the text it is gathering, its marks, and the
tokens it has cut. -/
structure Scanner where
  mode : ScanMode
  position : Position
  value : Text
  textMark : Option Position
  openMark : Option Position
  escapeMark : Option Position
  tokens : List Token
deriving DecidableEq, Repr

namespace Scanner

/-- A scanner in front of a template. -/
def start : Scanner := ⟨.literal, .start, [], none, none, none, []⟩

/-! ## 1. Notes -/

/-- The part of a source between two offsets. -/
def slice (source : Text) (p q : Nat) : Text := (source.take q).drop p

/-- Goes on by some characters, or by as many as there are. -/
def advance (source : Text) (n : Nat) (s : Scanner) : Scanner :=
  let p := s.position.offset
  { s with position := s.position.advance (slice source p (p + n)) }

/-- Marks the start of a text, unless it has started already. -/
def startText (s : Scanner) : Scanner := { s with textMark := s.textMark <|> some s.position }

/-- Adds to the text that is being gathered. -/
def gather (t : Text) (s : Scanner) : Scanner := { s with value := s.value ++ t }

/-- Cuts the token of the text that was gathered, if one was started. -/
def flush (source : Text) (s : Scanner) : Scanner :=
  match s.textMark with
  | none => s
  | some p =>
    let raw := slice source p.offset s.position.offset
    { s with value := [], textMark := none, tokens := s.tokens ++ [⟨.text, s.value, p, raw⟩] }

/-- The error of a closing delimiter that stands alone, at its mark. -/
def loneClosing (d : Delimiters) (s : Scanner) : ScanStop :=
  match s.escapeMark with
  | none => .unmarked
  | some p => .error ⟨p.offset, [d.closing], .grammar p.line p.column (.loneDelimiter [d.closing])⟩

/-- The error at `p` of an opening delimiter without the closing one. -/
def unbalanced (d : Delimiters) (p : Position) (blamed : Text) : ScanStop :=
  .error ⟨p.offset, blamed, .grammar p.line p.column (.unbalanced [d.opening])⟩

/-! ## 2. Steps -/

/-- Scans the character `c` as text, or what it is the start of. -/
def stepLiteral (d : Delimiters) (source : Text) (s : Scanner) (c : Char) : Scanner :=
  if c = d.opening then
    if source[s.position.offset + 1]? = some d.opening then
      (s.startText.gather [d.opening]).advance source 2
    else
      let flushed := s.flush source
      { flushed.advance source 1 with mode := .inExpression, openMark := some flushed.position }
  else if c = d.closing then
    { s.startText.advance source 1 with mode := .inEscape, escapeMark := some s.position }
  else (s.startText.gather [c]).advance source 1

/-- Scans the character `c` behind a closing delimiter, which has to be the same one. -/
def stepEscape (d : Delimiters) (source : Text) (s : Scanner) (c : Char) :
    Except ScanStop Scanner :=
  if c = d.closing then
    .ok { (s.gather [d.closing]).advance source 1 with mode := .literal, escapeMark := none }
  else .error (s.loneClosing d)

/-- Scans the character `c` of an expression. -/
def stepExpression (d : Delimiters) (source : Text) (s : Scanner) (c : Char) :
    Except ScanStop Scanner :=
  match s.openMark with
  | none => .error .unmarked
  | some p =>
    let here := s.position.offset
    if c = d.closing then
      let body := slice source (p.offset + 1) here
      let raw := slice source p.offset (here + 1)
      let token : Token := ⟨.expression, body, ⟨p.offset + 1, p.line, p.column + 1⟩, raw⟩
      .ok { s.advance source 1 with
        mode := .literal, openMark := none, tokens := s.tokens ++ [token] }
    else if c = d.opening then
      .error (unbalanced d s.position (slice source p.offset (here + 1)))
    else .ok (s.advance source 1)

/-- Scans the character `c`. -/
def step (d : Delimiters) (source : Text) (s : Scanner) (c : Char) : Except ScanStop Scanner :=
  match s.mode with
  | .literal => .ok (s.stepLiteral d source c)
  | .inEscape => s.stepEscape d source c
  | .inExpression => s.stepExpression d source c

/-- The tokens at the end of a template, which has to end as text. -/
def finish (d : Delimiters) (source : Text) (s : Scanner) : Except ScanStop (List Token) :=
  match s.mode with
  | .literal => .ok ((s.flush source).tokens ++ [⟨.finish, [], s.position, []⟩])
  | .inExpression =>
    match s.openMark with
    | none => .error .unmarked
    | some p => .error (unbalanced d p (source.drop p.offset))
  | .inEscape => .error (s.loneClosing d)

@[simp] theorem position_flush (source : Text) (s : Scanner) :
    (s.flush source).position = s.position := by
  unfold flush
  split <;> rfl

theorem offset_lt_advance {source : Text} {s : Scanner} (n : Nat)
    (h : s.position.offset < source.length) :
    s.position.offset < (s.advance source (n + 1)).position.offset := by
  simp only [advance, slice, Position.advance_offset, List.length_drop, List.length_take]
  omega

section Progress

variable {d : Delimiters} {source : Text} {s s' : Scanner} {c : Char}

theorem offset_lt_stepLiteral (h : s.position.offset < source.length) :
    s.position.offset < (s.stepLiteral d source c).position.offset := by
  unfold stepLiteral
  split
  · split
    · exact offset_lt_advance (s := s.startText.gather [d.opening]) 1 h
    · rw [← position_flush source s] at h ⊢
      exact offset_lt_advance 0 h
  · split
    · exact offset_lt_advance (s := s.startText) 0 h
    · exact offset_lt_advance (s := s.startText.gather [c]) 0 h

theorem offset_lt_stepEscape (h : s.position.offset < source.length)
    (hstep : s.stepEscape d source c = .ok s') : s.position.offset < s'.position.offset := by
  unfold stepEscape at hstep
  split at hstep
  · cases hstep
    exact offset_lt_advance (s := s.gather [d.closing]) 0 h
  · cases hstep

theorem offset_lt_stepExpression (h : s.position.offset < source.length)
    (hstep : s.stepExpression d source c = .ok s') :
    s.position.offset < s'.position.offset := by
  unfold stepExpression at hstep
  split at hstep
  · cases hstep
  · dsimp only at hstep
    split at hstep
    · cases hstep
      exact offset_lt_advance 0 h
    · split at hstep
      · cases hstep
      · cases hstep
        exact offset_lt_advance 0 h

/-- A step goes on in the source. -/
theorem offset_lt_step (h : s.position.offset < source.length)
    (hstep : s.step d source c = .ok s') : s.position.offset < s'.position.offset := by
  unfold step at hstep
  split at hstep
  · cases hstep
    exact offset_lt_stepLiteral h
  · exact offset_lt_stepEscape h hstep
  · exact offset_lt_stepExpression h hstep

end Progress

/-- Scans what is left of a template. -/
def scan (d : Delimiters) (source : Text) (s : Scanner) : Except ScanStop (List Token) :=
  match _hc : source[s.position.offset]? with
  | none => s.finish d source
  | some c =>
    match _hs : s.step d source c with
    | .error stop => .error stop
    | .ok s' => s'.scan d source
termination_by source.length - s.position.offset
decreasing_by
  have hlength := (List.getElem?_eq_some_iff.mp _hc).1
  have hstep := offset_lt_step hlength _hs
  omega

end Scanner

end Phrasing
