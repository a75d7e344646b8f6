/-
# Templates

A template is its source and the segments it is read into: literal text, and expressions that
a context gives values to.

`parse` reads the whole source into tokens before it looks into the first expression, so an
error of the delimiters wins over one inside an expression.
-/
import Phrasing.Template.Path
import Phrasing.Template.Token

namespace Phrasing

/-- A piece of a template.  The place of an expression is that of its first character. -/
inductive Segment where
  | literal (text : Text) (offset : Nat)
  | expression (source : Text) (path : Path) (position : Position)
deriving DecidableEq, Repr

/-- A template that was read. -/
structure Template where
  source : Text
  segments : List Segment
deriving DecidableEq, Repr

namespace Segment

/-- The path of an expression. -/
def path? : Segment → Option Path
  | literal .. => none
  | expression _ path _ => some path

/-- The text that a segment has without a context. -/
def literalText : Segment → Text
  | literal text _ => text
  | expression .. => []

/-- The segments of tokens, up to the end token. -/
def ofTokens : List Token → Except ParseFault (List Segment)
  | [] => .ok []
  | t :: ts =>
    match t.kind with
    | .finish => .ok []
    | .text => do
      let more ← ofTokens ts
      return literal t.value t.position.offset :: more
    | .expression => do
      let path ← Path.parse t.position t.value
      let more ← ofTokens ts
      return expression t.value path t.position :: more

end Segment

namespace Template

/-- Reads a template. -/
def parse (d : Delimiters) (source : Text) : Except ParseFault Template :=
  match Token.tokenize d source with
  | .error e => .error (.error e)
  | .ok tokens => do
    let segments ← Segment.ofTokens tokens
    return ⟨source, segments⟩

/-- The paths of the expressions, in order. -/
def paths (t : Template) : List Path := t.segments.filterMap Segment.path?

/-- Whether a template depends on a context at all. -/
def hasExpressions (t : Template) : Bool := !t.paths.isEmpty

/-- The literal text of a template, without its expressions. -/
def literalText (t : Template) : Text := t.segments.flatMap Segment.literalText

/-- Each text once, where it first occurs. -/
def distinct : List Text → List Text
  | [] => []
  | t :: ts => t :: (distinct ts).filter (· ≠ t)

/-- The names that the expressions start from, each once, in order of first appearance. -/
def names (t : Template) : List Text := distinct (t.paths.map Path.base)

end Template

end Phrasing
