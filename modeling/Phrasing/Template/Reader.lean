/-
# Reading character by character

A reader goes through a template from left to right and knows, in front of each character, only
what it is in the middle of: text, an expression, or a closing delimiter that has to be doubled.
It looks ahead by one character where an opening delimiter may be doubled, and takes its notes
as it goes: the place it has reached, the text gathered so far, and the tokens behind it.

A reader that has come to the end of a template is done.  One that cannot go on has failed, and
stays where it is.
-/
import Phrasing.Template.Token

namespace Phrasing

/-- What a reader is in the middle of. -/
inductive Phase where
  | literal
  /-- An expression: the place of its opening delimiter, and its characters so far. -/
  | inExpression (opened : Position) (body : Text)
  /-- A closing delimiter that has to be doubled, and its place. -/
  | inEscape (closed : Position)
  | done
  | failed (e : TemplateError)
deriving DecidableEq, Repr

/-- The name of a phase. -/
def Phase.name : Phase → String
  | literal => "Literal"
  | inExpression .. => "InExpression"
  | inEscape _ => "InEscape"
  | done => "Done"
  | failed _ => "Error"

/-- A text that is being gathered: where it starts, its value and its source text. -/
structure Stretch where
  start : Position
  value : Text
  raw : Text
deriving DecidableEq, Repr

/-- The token of a text that was gathered. -/
def Stretch.token (s : Stretch) : Token := ⟨.text, s.value, s.start, s.raw⟩

/-- A reader: its phase, the place of the next character, the text it is gathering, and the
tokens it has read. -/
structure Reader where
  phase : Phase
  position : Position
  gathered : Option Stretch
  tokens : List Token
deriving DecidableEq, Repr

namespace Reader

/-- A reader in front of a template. -/
def start : Reader := ⟨.literal, .start, none, []⟩

/-! ## 1. Notes -/

/-- Adds to the text that is being gathered; a new one starts at `p`. -/
def gather (r : Reader) (p : Position) (value raw : Text) : Reader :=
  { r with gathered :=
      match r.gathered with
      | none => some ⟨p, value, raw⟩
      | some s => some ⟨s.start, s.value ++ value, s.raw ++ raw⟩ }

/-- Makes a token of the text that was gathered. -/
def flush (r : Reader) : Reader :=
  { r with gathered := none, tokens := r.tokens ++ r.gathered.toList.map Stretch.token }

/-- A token behind those that were read. -/
def emit (r : Reader) (t : Token) : Reader := { r with tokens := r.tokens ++ [t] }

/-- Goes on in a phase, behind the text `t`. -/
def pass (r : Reader) (phase : Phase) (t : Text) : Reader :=
  { r with phase := phase, position := r.position.advance t }

/-- Stops at an error: the place `p` is to blame, and the source text shows what was read. -/
def fail (r : Reader) (p : Position) (source : Text) (fault : GrammarFault) : Reader :=
  { r with phase := .failed ⟨p.offset, source, .grammar p.line p.column fault⟩ }

/-- Stops because the closing delimiter at `p` stands alone. -/
def failLone (r : Reader) (d : Delimiters) (p : Position) : Reader :=
  r.fail p [d.closing] (.loneDelimiter [d.closing])

/-- Stops because an opening delimiter at `p` is not matched by a closing one. -/
def failUnbalanced (r : Reader) (d : Delimiters) (p : Position) (source : Text) : Reader :=
  r.fail p source (.unbalanced [d.opening])

/-- The token of the expression whose opening delimiter stands at `opened`: its own place is one
character further on. -/
def expressionToken (d : Delimiters) (opened : Position) (body : Text) : Token :=
  ⟨.expression, body, ⟨opened.offset + 1, opened.line, opened.column + 1⟩,
    d.opening :: body ++ [d.closing]⟩

/-! ## 2. Steps -/

/-- Reads the character `c`, or two where a delimiter is doubled: the reader after that, and what
is unread of `rest`. -/
def step (d : Delimiters) (r : Reader) (c : Char) (rest : Text) : Reader × Text :=
  match r.phase with
  | .literal =>
    if c = d.opening then
      if rest.head? = some d.opening then
        ((r.gather r.position [c] [c, c]).pass .literal [c, c], rest.tail)
      else (r.flush.pass (.inExpression r.position []) [c], rest)
    else if c = d.closing then (r.pass (.inEscape r.position) [c], rest)
    else ((r.gather r.position [c] [c]).pass .literal [c], rest)
  | .inEscape closed =>
    if c = d.closing then ((r.gather closed [c] [c, c]).pass .literal [c], rest)
    else (r.failLone d closed, rest)
  | .inExpression opened body =>
    if c = d.closing then ((r.emit (expressionToken d opened body)).pass .literal [c], rest)
    else if c = d.opening then
      (r.failUnbalanced d r.position (d.opening :: body ++ [d.opening]), rest)
    else (r.pass (.inExpression opened (body ++ [c])) [c], rest)
  | .done | .failed _ => (r, rest)

/-- The reader at the end of a template. -/
def finish (d : Delimiters) (r : Reader) : Reader :=
  match r.phase with
  | .literal => (r.flush.emit ⟨.finish, [], r.position, []⟩).pass .done []
  | .inExpression opened body => r.failUnbalanced d opened (d.opening :: body)
  | .inEscape closed => r.failLone d closed
  | .done | .failed _ => r

/-- A step reads at least one character. -/
theorem length_step_le (d : Delimiters) (r : Reader) (c : Char) (rest : Text) :
    (r.step d c rest).2.length ≤ rest.length := by
  unfold step
  repeat' split
  all_goals simp

/-- Reads a whole text; a failure is final. -/
def read (d : Delimiters) (r : Reader) (t : Text) : Reader :=
  match r.phase, t with
  | .failed _, _ => r
  | _, [] => r.finish d
  | _, c :: rest => read d (r.step d c rest).1 (r.step d c rest).2
termination_by t.length
decreasing_by
  exact Nat.lt_succ_of_le (length_step_le d r _ _)

end Reader

end Phrasing
