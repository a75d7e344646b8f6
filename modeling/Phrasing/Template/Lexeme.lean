/-
# Lexemes

The smallest pieces of a template: a character that stands for itself, a doubled delimiter
that stands for one, and an expression with its delimiters.

`split` reads a text into lexemes from left to right.  It stops where no lexeme fits, and says
why; the lexemes before that place are those of the text up to it.
-/
import Phrasing.Template.Delimiters
import Phrasing.Template.Error
import Phrasing.Text.Position

namespace Phrasing

/-- A smallest piece of a template. -/
inductive Lexeme where
  | plain (c : Char)
  | doubled (c : Char)
  | expression (body : Text)
deriving DecidableEq, Repr

/-- Why no lexeme fits. -/
inductive LexicalStop where
  /-- A closing delimiter is not followed by another. -/
  | loneClosing
  /-- An expression is not closed before the end of the text. -/
  | unclosed (body : Text)
  /-- Another expression opens inside an expression. -/
  | nested (body : Text)
deriving DecidableEq, Repr

namespace Lexeme

/-- The source text of a lexeme. -/
def raw (d : Delimiters) : Lexeme → Text
  | plain c => [c]
  | doubled c => [c, c]
  | expression body => d.opening :: body ++ [d.closing]

/-- The source text of lexemes in a row. -/
def rawAll (d : Delimiters) (ls : List Lexeme) : Text := ls.flatMap (raw d)

/-- A lexeme in front of those that follow it. -/
def push (l : Lexeme) (r : List Lexeme × Option LexicalStop) :
    List Lexeme × Option LexicalStop :=
  (l :: r.1, r.2)

/-- Reads lexemes, from inside an expression whose characters so far are given in reverse, or
from outside. -/
def splitFrom (d : Delimiters) : Option Text → Text → List Lexeme × Option LexicalStop
  | none, [] => ([], none)
  | none, [c] =>
    if c = d.opening then ([], some (.unclosed []))
    else if c = d.closing then ([], some .loneClosing)
    else ([.plain c], none)
  | none, c :: c' :: rest =>
    if c = d.opening then
      if c' = d.opening then push (.doubled c) (splitFrom d none rest)
      else splitFrom d (some []) (c' :: rest)
    else if c = d.closing then
      if c' = d.closing then push (.doubled c) (splitFrom d none rest)
      else ([], some .loneClosing)
    else push (.plain c) (splitFrom d none (c' :: rest))
  | some body, [] => ([], some (.unclosed body.reverse))
  | some body, c :: rest =>
    if c = d.closing then push (.expression body.reverse) (splitFrom d none rest)
    else if c = d.opening then ([], some (.nested body.reverse))
    else splitFrom d (some (c :: body)) rest

/-- The lexemes of a text, up to where no lexeme fits. -/
def split (d : Delimiters) (t : Text) : List Lexeme × Option LexicalStop := splitFrom d none t

end Lexeme

/-- The source text at which reading stopped: what was read of it before it could not go on. -/
def LexicalStop.raw (d : Delimiters) : LexicalStop → Text
  | loneClosing => [d.closing]
  | unclosed body => d.opening :: body
  | nested body => d.opening :: body ++ [d.opening]

/-- The error that a stop at `p` is: it blames the lone or unclosed delimiter, or the one that
opens an expression inside another. -/
def LexicalStop.error (d : Delimiters) (p : Position) (stop : LexicalStop) : TemplateError :=
  match stop with
  | loneClosing => ⟨p.offset, stop.raw d, .grammar p.line p.column (.loneDelimiter [d.closing])⟩
  | unclosed _ => ⟨p.offset, stop.raw d, .grammar p.line p.column (.unbalanced [d.opening])⟩
  | nested body =>
    let q := p.advance (d.opening :: body)
    ⟨q.offset, stop.raw d, .grammar q.line q.column (.unbalanced [d.opening])⟩

end Phrasing
