/-
# The nearest style

A scalar in a sequence can be asked for in many styles: its own, those of the sequences around it,
and the one that is requested of the whole.  It is rendered in the nearest of them that has a name,
and in no other.  So the styles can as well be handed down to the scalars beforehand: `nearest` leaves
each scalar with its nearest style, and the sequences with none.

What is handed down while a sequence is rendered is not all the styles around an item but one, which
may have no name.  The invariant is that its name is the first among the styles around
(`value_nearest`, `items_nearest`).
-/
import Phrasing.Proofs.Rendering.Steps

namespace Phrasing

namespace Value

open Rendering (named)

/-! ## 1. Handing styles down -/

/-- The first of some styles that has a name. -/
def firstNamed (styles : List (Option Text)) : Option Text := styles.findSome? named

mutual

/-- A value whose scalars carry their nearest style, and whose sequences carry none.  The styles
around the value are given, the nearest first. -/
def nearest (around : List (Option Text)) : Value → Value
  | scalar content own => scalar content (firstNamed (own :: around))
  | sequence vs own => sequence (nearestItems (own :: around) vs) none
  | mapping fields => mapping fields

/-- Items whose scalars carry their nearest style. -/
def nearestItems (around : List (Option Text)) : List Value → List Value
  | [] => []
  | v :: vs => v.nearest around :: nearestItems around vs

end

end Value

namespace Rendering

open Value (firstNamed)

/-! ## 2. Names of styles -/

@[simp] theorem named_none : named none = none := rfl

@[simp] theorem named_named (style : Option Text) : named (named style) = named style := by
  match style with
  | none => rfl
  | some [] => rfl
  | some (c :: name) => rfl

theorem firstNamed_cons (style : Option Text) (styles : List (Option Text)) :
    firstNamed (style :: styles) = (named style).or (firstNamed styles) := by
  rw [firstNamed, List.findSome?_cons]
  cases named style with
  | none => rfl
  | some name => rfl

/-- The nearer style wins, if it has a name. -/
theorem named_or (style style' : Option Text) :
    named ((named style).or style') = (named style).or (named style') := by
  cases h : named style with
  | none => rfl
  | some name => rw [Option.some_or, Option.some_or, ← h, named_named]

theorem named_firstNamed (styles : List (Option Text)) :
    named (firstNamed styles) = firstNamed styles := by
  induction styles with
  | nil => rfl
  | cons style styles ih => rw [firstNamed_cons, named_or, ih]

theorem named_inherited (own requested : Option Text) :
    named (inherited own requested) = (named own).or (named requested) := by
  have hor : inherited own requested = (named own).or requested := by
    unfold inherited
    cases named own <;> rfl
  rw [hor, named_or]

/-- The style that a value hands down or takes itself is its own, or else the one that its sequence
hands down. -/
theorem named_or_requestedOf (v : Value) (style : Option Text) :
    (named v.style?).or (named (requestedOf v style)) = (named v.style?).or (named style) := by
  unfold requestedOf
  cases named v.style? with
  | none => rfl
  | some name => rfl

/-! ## 3. Scalars -/

variable (o : Options) (place : Place)

theorem applyStyle?_of_named {style : Option Text} {name : Text} (h : named style = some name)
    (t : Text) : applyStyle? o place style t = applyStyle o place name t := by
  rw [applyStyle?, h]

theorem applyStyle?_of_unnamed {style : Option Text} (h : named style = none) (t : Text) :
    applyStyle? o place style t = pure t := by
  rw [applyStyle?, h]

/-- Only the name of a style counts. -/
theorem applyStyle?_congr {style style' : Option Text} (h : named style = named style')
    (t : Text) : applyStyle? o place style t = applyStyle? o place style' t := by
  rw [applyStyle?, applyStyle?, h]

/-- Without a request, a scalar is put in its own style. -/
theorem scalar_unrequested (content : Scalar) (own : Option Text) :
    scalar o place none content own = wording o content >>= applyStyle? o place own := by
  refine bind_congr fun t => ?_
  have hnone (t' : Text) : (if none = own then pure t' else applyStyle? o place none t') =
      (pure t' : Rendering Text) := by
    split
    · rfl
    · exact applyStyle?_of_unnamed o place named_none t'
  simp only [hnone, bind_pure]

/-- **A scalar in a sequence** is put in one style: its own, or else the one that is handed down. -/
theorem scalar_requestedOf (content : Scalar) (own style : Option Text) :
    scalar o place (requestedOf (.scalar content own) style) content own =
      wording o content >>= applyStyle? o place ((named own).or style) := by
  cases hown : named own with
  | some name =>
    have hrequested : requestedOf (.scalar content own) style = none := by
      rw [requestedOf, Value.style?, hown]
      rfl
    have hname : named own = named (some name) := by rw [← hown, named_named]
    rw [hrequested, scalar_unrequested]
    exact bind_congr fun t => applyStyle?_congr o place hname t
  | none =>
    have hrequested : requestedOf (.scalar content own) style = style := by
      rw [requestedOf, Value.style?, hown]
      rfl
    rw [hrequested]
    refine bind_congr fun t => ?_
    rw [applyStyle?_of_unnamed o place hown, pure_bind]
    split
    · next heq => rw [Option.none_or, heq, applyStyle?_of_unnamed o place hown]
    · rfl

/-! ## 4. Sequences -/

/-- Items of which nothing is requested are rendered one by one. -/
theorem items_none (vs : List Value) : items o place none vs = vs.mapM (value o place none) := by
  induction vs with
  | nil => rfl
  | cons v vs ih => rw [items, requestedOf_none, ih, List.mapM_cons]

mutual

/-- **A value in a sequence** is rendered like the value whose scalars carry their nearest style,
if the style that the sequence hands down is the first around the value. -/
theorem value_nearest {style : Option Text} {around : List (Option Text)}
    (h : named style = firstNamed around) :
    ∀ v, value o place (requestedOf v style) v = value o place none (v.nearest around)
  | .scalar content own => by
    have hname : named ((named own).or style) = named (firstNamed (own :: around)) := by
      rw [named_or, h, named_firstNamed, firstNamed_cons]
    rw [Value.nearest, value, value, scalar_requestedOf, scalar_unrequested]
    exact bind_congr fun t => applyStyle?_congr o place hname t
  | .sequence vs own => by
    -- What the sequence hands down is again the first around its items.
    have hname : named (inherited own (requestedOf (.sequence vs own) style)) =
        firstNamed (own :: around) := by
      rw [named_inherited, firstNamed_cons, ← h]
      exact named_or_requestedOf (.sequence vs own) style
    rw [Value.nearest, value, value, items_nearest hname vs]
    rfl
  | .mapping _ => rfl

theorem items_nearest {style : Option Text} {around : List (Option Text)}
    (h : named style = firstNamed around) :
    ∀ vs, items o place style vs = items o place none (Value.nearestItems around vs)
  | [] => rfl
  | v :: vs => by
    rw [Value.nearestItems, items, items, requestedOf_none, value_nearest h v, items_nearest h vs]

end

/-- **Every scalar of a sequence is in its nearest style.**  A sequence, however deep, of which a
style is requested is rendered like the sequence without a request in which each scalar carries the
first style with a name among its own, those of the sequences around it, the innermost first, and the
requested one, and no sequence carries any.  It has the same text or the same failure, and leaves
the same warnings behind.

In such a sequence, the items are rendered one by one, without a request, and a scalar is put into the
style that it carries and into no other. -/
theorem sequence_nearest (requested own : Option Text) (vs : List Value) :
    value o place requested (.sequence vs own) =
        value o place none ((Value.sequence vs own).nearest [requested]) ∧
      (∀ ws, value o place none (.sequence ws none) =
        ws.mapM (value o place none) >>= enumerate o.enumeration) ∧
      ∀ content tag, value o place none (.scalar content tag) =
        wording o content >>= applyStyle? o place tag := by
  refine ⟨?_, fun ws => ?_, fun content tag => ?_⟩
  · have hname : named (inherited own requested) = firstNamed [own, requested] := by
      rw [named_inherited, firstNamed_cons, firstNamed_cons]
      exact congrArg _ Option.or_none.symm
    rw [Value.nearest, value, value, items_nearest o place hname vs]
    rfl
  · rw [value, ← items_none]
    rfl
  · rw [value, scalar_unrequested]

end Rendering

end Phrasing
