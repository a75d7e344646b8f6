/-
# Rendering

Values and templates become text under some options.  A scalar is worded and then styled: by
its own style first, and by the requested one around it, unless they are the same.  The items
of a sequence are rendered one by one and enumerated; an item without a style of its own is
rendered in the nearest style around it.  A mapping has no text.

Rendering keeps the registry it works with, because resolving an unknown style for the first
time leaves a mark there and gives a notice.  Both survive a failure.
-/
import Phrasing.Evaluation
import Phrasing.Failure
import Phrasing.Style.Standard

namespace Phrasing

/-- The place that errors blame: the offset and the source text of an expression. -/
structure Place where
  offset : Int
  source : Text
deriving DecidableEq, Repr

/-- What rendering works with and leaves behind: the registry, and the notices given, in
order. -/
structure Workbench where
  registry : Registry
  notices : List Notice

/-- A step of rendering. -/
abbrev Rendering := ExceptT Failure (StateM Workbench)

namespace Rendering

/-! ## 1. Styles -/

/-- A style that has a name; the empty name asks for none. -/
def named : Option Text → Option Text
  | some (c :: name) => some (c :: name)
  | _ => none

/-- A text in a style. -/
def applyStyle (o : Options) (place : Place) (style t : Text) : Rendering Text := do
  let bench ← get
  let (function, registry, notices) := bench.registry.resolve? o.capability o.strict style
  set (Workbench.mk registry (bench.notices ++ notices))
  match function with
  | some f => return f t
  | none =>
    let source := if place.source.isEmpty then style else place.source
    throw (.template ⟨place.offset, source, .rendering (.unregistered style)⟩)

/-- A text in a style, if one is asked for. -/
def applyStyle? (o : Options) (place : Place) (style : Option Text) (t : Text) :
    Rendering Text :=
  match named style with
  | some name => applyStyle o place name t
  | none => pure t

/-! ## 2. Values -/

/-- A number or another scalar in words. -/
def wording (o : Options) (content : Scalar) : Rendering Text :=
  match o.wording.write content with
  | .ok t => pure t
  | .error f => throw (.data f)

/-- Texts as one. -/
def enumerate (e : Enumeration) (items : List Text) : Rendering Text :=
  match e.write items with
  | .ok t => pure t
  | .error f => throw (.option (.enumeration f))

/-- A scalar in its own style and the requested one. -/
def scalar (o : Options) (place : Place) (requested : Option Text) (content : Scalar)
    (own : Option Text) : Rendering Text := do
  let t ← applyStyle? o place own (← wording o content)
  if requested = own then return t else applyStyle? o place requested t

/-- The style that a sequence hands down to its items. -/
def inherited (own requested : Option Text) : Option Text := named own <|> requested

/-- The style requested of an item: none if it has its own. -/
def requestedOf (item : Value) (inherited : Option Text) : Option Text :=
  if (named item.style?).isSome then none else inherited

mutual

/-- The text of a value. -/
def value (o : Options) (place : Place) (requested : Option Text) : Value → Rendering Text
  | .scalar content own => scalar o place requested content own
  | .sequence vs own => do
    enumerate o.enumeration (← items o place (inherited own requested) vs)
  | .mapping _ =>
    throw (.template ⟨place.offset, place.source,
      .reference (.mismatch "scalar or sequence" "mapping")⟩)

/-- The texts of the items of a sequence, in order. -/
def items (o : Options) (place : Place) (style : Option Text) :
    List Value → Rendering (List Text)
  | [] => return []
  | v :: vs => do
    let t ← value o place (requestedOf v style) v
    let ts ← items o place style vs
    return t :: ts

end

/-! ## 3. Templates -/

/-- What a path denotes in a context. -/
def evaluate (c : Context) (path : Path) (place : Place) : Rendering Value :=
  match c.evaluate path place.source place.offset with
  | .ok v => pure v
  | .error e => throw (.template e)

/-- The text of a segment in a context. -/
def segment (o : Options) (c : Context) : Segment → Rendering Text
  | .literal t _ => return t
  | .expression source path position => do
    let place : Place := ⟨position.offset, source⟩
    value o place path.style (← evaluate c path place)

/-- The text of a template in a context.  A template without expressions is its literal text. -/
def template (o : Options) (c : Context) (t : Template) : Rendering Text :=
  if t.hasExpressions then do
    return (← t.segments.mapM (segment o c)).flatten
  else return t.literalText

/-- The value of some data. -/
def valueOf (d : Data) : Rendering Value :=
  match Value.ofData d with
  | .ok v => pure v
  | .error f => throw (.data f)

/-- The context of some data and explicit values. -/
def contextOf (d : Data) (explicit : List (Data × Data)) : Rendering Context :=
  match Context.ofData d explicit with
  | .ok c => pure c
  | .error f => throw (.data f)

/-- A template that is read between braces. -/
def parse (source : Text) : Rendering Template :=
  match Template.parse .braces source with
  | .ok t => pure t
  | .error f => throw (.ofParse f)

end Rendering

end Phrasing
