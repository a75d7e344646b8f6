/-
# Tokens

The tokens of a template are its expressions and the stretches of text between them, with
their places, and an end token.  Doubled delimiters belong to the text around them and are
written once in its value.

`tokens` gathers them from the lexemes, from right to left: a lexeme of text joins the text
token that follows it, if one does.
-/
import Phrasing.Template.Lexeme

namespace Phrasing

/-- What a token is. -/
inductive TokenKind where
  | text
  | expression
  | finish
deriving DecidableEq, Repr

/-- A piece of a template with its place.  The place of an expression is that of its first
character after the opening delimiter; `raw` is the source text, delimiters and all. -/
structure Token where
  kind : TokenKind
  value : Text
  position : Position
  raw : Text
deriving DecidableEq, Repr

namespace Token

/-- The name of a kind of token. -/
def kindName : TokenKind → String
  | .text => "TEXT"
  | .expression => "EXPRESSION"
  | .finish => "EOF"

/-- A token by its kind, value and place. -/
def literal (t : Token) : String :=
  s!"Token({kindName t.kind}, {Text.quoted t.value}, {t.position.line}:{t.position.column})"

/-- A stretch of text in front of the tokens that follow it. -/
def consText (value raw : Text) (p : Position) : List Token → List Token
  | ⟨.text, value', _, raw'⟩ :: ts => ⟨.text, value ++ value', p, raw ++ raw'⟩ :: ts
  | ts => ⟨.text, value, p, raw⟩ :: ts

/-- The tokens of lexemes that start at `p`. -/
def ofLexemes (d : Delimiters) (p : Position) : List Lexeme → List Token
  | [] => [⟨.finish, [], p, []⟩]
  | l :: ls =>
    let raw := l.raw d
    let following := ofLexemes d (p.advance raw) ls
    match l with
    | .plain c => consText [c] raw p following
    | .doubled c => consText [c] raw p following
    | .expression body => ⟨.expression, body, p.next d.opening, raw⟩ :: following

/-- The tokens of a template. -/
def tokenize (d : Delimiters) (source : Text) : Except TemplateError (List Token) :=
  match Lexeme.split d source with
  | (ls, none) => .ok (ofLexemes d .start ls)
  | (ls, some stop) => .error (stop.error d (Position.start.advance (Lexeme.rawAll d ls)))

end Token

end Phrasing
