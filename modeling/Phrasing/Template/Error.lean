/-
# Errors in templates

What can be wrong with a template or with its use: its grammar, a reference that its context
cannot answer, or a style that is not registered.  An error carries the offset and the source
text of the place it blames; an error of grammar also the line and column.

`describe` words the cause alone, `message` puts the place in front of it.
-/
import Phrasing.Text.Quoted

namespace Phrasing

/-- What is wrong with the text of a template. -/
inductive GrammarFault where
  | unspecified
  /-- A delimiter that opens an expression is not followed by the one that closes it. -/
  | unbalanced (delimiter : Text)
  /-- A closing delimiter stands alone in the text. -/
  | loneDelimiter (delimiter : Text)
  /-- The text between delimiters is no expression. -/
  | malformed (reason : String)
deriving DecidableEq, Repr

/-- Why an expression has no value in a context. -/
inductive ReferenceFault where
  | unspecified
  /-- The context does not have the name; it has the others. -/
  | unresolved (name : Text) (available : List Text)
  /-- The index does not lie in the sequence. -/
  | outOfRange (index length : Int)
  /-- The mapping does not have the field. -/
  | missingField (name : Text)
  /-- A value of another kind is needed. -/
  | mismatch (expected actual : String)
deriving DecidableEq, Repr

/-- Why a value cannot be rendered. -/
inductive RenderingFault where
  | unspecified
  /-- The style is not registered, and nothing stands in for it. -/
  | unregistered (style : Text)
deriving DecidableEq, Repr

/-- The cause of an error, with the line and column for an error of grammar. -/
inductive TemplateFault where
  | unspecified
  | grammar (line column : Int) (fault : GrammarFault)
  | reference (fault : ReferenceFault)
  | rendering (fault : RenderingFault)
deriving DecidableEq, Repr

/-- An error, the offset of the place it blames and the source text of that place. -/
structure TemplateError where
  offset : Int
  source : Text
  fault : TemplateFault
deriving DecidableEq, Repr

namespace TemplateError

/-- The name of the kind of an error. -/
def kind (e : TemplateError) : String :=
  match e.fault with
  | .unspecified => "MsgcError"
  | .grammar _ _ .unspecified => "ParseError"
  | .grammar _ _ (.unbalanced _) => "UnbalancedDelimiter"
  | .grammar _ _ (.loneDelimiter _) => "InvalidEscape"
  | .grammar _ _ (.malformed _) => "InvalidExpression"
  | .reference .unspecified => "EvalError"
  | .reference (.unresolved ..) => "UnresolvedReference"
  | .reference (.outOfRange ..) => "IndexOutOfRange"
  | .reference (.missingField _) => "FieldNotFound"
  | .reference (.mismatch ..) => "TypeMismatch"
  | .rendering .unspecified => "RenderError"
  | .rendering (.unregistered _) => "UnsupportedStyle"

/-- The names that could have been meant, in brackets, if there are any. -/
def availableNote (available : List Text) : String :=
  if available.isEmpty then ""
  else s!" (available: {Text.listed available})"

/-- The cause of an error in words. -/
def describe (e : TemplateError) : String :=
  let place := Text.quoted e.source
  match e.fault with
  | .unspecified | .grammar _ _ .unspecified | .reference .unspecified
  | .rendering .unspecified => "error"
  | .grammar _ _ (.unbalanced delimiter) => s!"unbalanced delimiter {Text.quoted delimiter}"
  | .grammar _ _ (.loneDelimiter delimiter) =>
    let quoted := Text.quoted delimiter
    s!"lone {quoted} must be doubled to produce a literal {quoted}"
  | .grammar _ _ (.malformed reason) => s!"{reason} in expression {place}"
  | .reference (.unresolved name available) =>
    s!"name {Text.quoted name} is not defined in context{availableNote available}"
  | .reference (.outOfRange index length) =>
    s!"index {index} out of range for sequence of length {length} in {place}"
  | .reference (.missingField name) => s!"field {Text.quoted name} not found in {place}"
  | .reference (.mismatch expected actual) => s!"expected {expected}, got {actual} in {place}"
  | .rendering (.unregistered style) => s!"style {Text.quoted style} is not registered"

/-- Line and column, for an error of grammar. -/
def lineAndColumn? (e : TemplateError) : Option (Int × Int) :=
  match e.fault with
  | .grammar line column _ => some (line, column)
  | _ => none

/-- The whole wording: the kind of the error, its place and its cause. -/
def message (e : TemplateError) : String :=
  match e.lineAndColumn? with
  | some (line, column) => s!"{e.kind} at {line}:{column}: {e.describe}"
  | none => s!"{e.kind} at offset {e.offset}: {e.describe}"

end TemplateError

end Phrasing
