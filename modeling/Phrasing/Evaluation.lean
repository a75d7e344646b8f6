/-
# Evaluation

A path is evaluated in a context by looking its first name up and following its accessors one
by one: an index selects an item of a sequence, a field name a field of a mapping.

Errors blame the whole expression: they carry the offset and the source text with which it was
evaluated, or the canonical spelling of the path if there is no source text.
-/
import Phrasing.Context
import Phrasing.Template.Basic

namespace Phrasing

/-- The item at an index, which has to lie in the list. -/
def itemAt? (items : List Value) : Int → Option Value
  | .ofNat n => items[n]?
  | .negSucc _ => none

namespace Value

/-- The value that an accessor selects. -/
def select (v : Value) : Accessor → Except ReferenceFault Value
  | .index n offset =>
    match v with
    | sequence items _ =>
      match itemAt? items n with
      | some item => .ok item
      | none => .error (.outOfRange n items.length)
    | _ =>
      .error (.mismatch s!"sequence for index {Text.string (Accessor.index n offset).text}" v.kind)
  | .field name offset =>
    match v with
    | mapping fields =>
      match Named.find? name fields with
      | some field => .ok field
      | none => .error (.missingField name)
    | _ =>
      .error
        (.mismatch s!"mapping for field {Text.string (Accessor.field name offset).text}" v.kind)

/-- The value that accessors select, one after the other. -/
def follow (v : Value) : List Accessor → Except ReferenceFault Value
  | [] => .ok v
  | a :: as =>
    match v.select a with
    | .error fault => .error fault
    | .ok w => w.follow as

end Value

namespace Context

/-- What a path denotes. -/
def lookUp (c : Context) (p : Path) : Except ReferenceFault Value :=
  match c.find? p.base with
  | none => .error (.unresolved p.base c.sortedNames)
  | some v => v.follow p.accessors

/-- What a path denotes; an error blames the expression with the given source and offset. -/
def evaluate (c : Context) (p : Path) (source : Text) (offset : Int) :
    Except TemplateError Value :=
  match c.lookUp p with
  | .ok v => .ok v
  | .error fault =>
    .error ⟨offset, if source.isEmpty then p.text else source, .reference fault⟩

end Context

end Phrasing
