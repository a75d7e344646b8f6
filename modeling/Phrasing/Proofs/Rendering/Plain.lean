/-
# Plain text shows no style

A style is asked for by the path of an expression, by a scalar, by a sequence or by a sequence
around it.  `unstyled` takes all of them away.

Where plain text is wanted, a style is resolved to the identity before the registry is looked
at (`applyStyle_plain`), so the styles can as well be taken away (`value_plain`,
`segments_plain`), and the workbench is left alone (`Quiet`).
-/
import Phrasing.Proofs.Rendering.Steps
import Phrasing.Proofs.Template.Segments

namespace Phrasing

/-! ## 1. Without styles -/

namespace Value

mutual

/-- A value without the styles that it and its parts carry. -/
def unstyled : Value → Value
  | scalar content _ => scalar content none
  | sequence vs _ => sequence (unstyledItems vs) none
  | mapping fields => mapping (unstyledFields fields)

/-- Items without styles. -/
def unstyledItems : List Value → List Value
  | [] => []
  | v :: vs => v.unstyled :: unstyledItems vs

/-- Fields without styles. -/
def unstyledFields : List (Text × Value) → List (Text × Value)
  | [] => []
  | (name, v) :: fields => (name, v.unstyled) :: unstyledFields fields

end

theorem unstyledItems_eq_map (vs : List Value) : unstyledItems vs = vs.map unstyled := by
  induction vs with
  | nil => rfl
  | cons v vs ih => rw [unstyledItems, ih, List.map_cons]

theorem find?_unstyledFields (name : Text) (fields : Named Value) :
    Named.find? name (unstyledFields fields) = (Named.find? name fields).map unstyled := by
  induction fields with
  | nil => rfl
  | cons entry fields ih =>
    rcases entry with ⟨key, v⟩
    rw [unstyledFields, Named.find?, Named.find?, ih]
    split <;> rfl

theorem names_unstyledFields (fields : Named Value) :
    Named.names (unstyledFields fields) = Named.names fields := by
  induction fields with
  | nil => rfl
  | cons entry fields ih => exact congrArg (entry.1 :: ·) ih

theorem itemAt?_unstyledItems (vs : List Value) (n : Int) :
    itemAt? (unstyledItems vs) n = (itemAt? vs n).map unstyled := by
  cases n with
  | ofNat n => rw [itemAt?, itemAt?, unstyledItems_eq_map, List.getElem?_map]
  | negSucc n => rfl

/-- An accessor selects the same part, without styles. -/
theorem select_unstyled (v : Value) (a : Accessor) :
    v.unstyled.select a = (v.select a).map unstyled := by
  cases a with
  | index n offset =>
    cases v with
    | sequence vs own =>
      rw [unstyled, select, select, itemAt?_unstyledItems, unstyledItems_eq_map, List.length_map]
      cases itemAt? vs n <;> rfl
    | scalar content own => rfl
    | mapping fields => rfl
  | field name offset =>
    cases v with
    | mapping fields =>
      rw [unstyled, select, select, find?_unstyledFields]
      cases Named.find? name fields <;> rfl
    | scalar content own => rfl
    | sequence vs own => rfl

theorem follow_unstyled (v : Value) (as : List Accessor) :
    v.unstyled.follow as = (v.follow as).map unstyled := by
  induction as generalizing v with
  | nil => rfl
  | cons a as ih =>
    rw [follow, follow, select_unstyled]
    cases v.select a with
    | error fault => rfl
    | ok w => exact ih w

end Value

/-- A context whose values have no styles. -/
def Context.unstyled (c : Context) : Context := ⟨Value.unstyledFields c.values⟩

/-- A path that asks for no style. -/
def Path.unstyled (p : Path) : Path := { p with style := none }

/-- A segment that asks for no style.  It stays where it is, with the source it has. -/
def Segment.unstyled : Segment → Segment
  | literal text offset => literal text offset
  | expression source path position => expression source path.unstyled position

/-- A template that asks for no styles. -/
def Template.unstyled (t : Template) : Template :=
  { t with segments := t.segments.map Segment.unstyled }

/-- The same options where the reader is shown plain text. -/
def Options.plain (o : Options) : Options := { o with capability := .none }

/-! ## 2. What paths denote -/

namespace Context

theorem lookUp_unstyled (c : Context) (p : Path) :
    c.unstyled.lookUp p.unstyled = (c.lookUp p).map Value.unstyled := by
  have hfind : c.unstyled.find? p.base = (c.find? p.base).map Value.unstyled :=
    Value.find?_unstyledFields p.base c.values
  have hnames : c.unstyled.sortedNames = c.sortedNames :=
    congrArg Text.sort (Value.names_unstyledFields c.values)
  rw [lookUp, lookUp, show p.unstyled.base = p.base from rfl, hfind, hnames]
  cases c.find? p.base with
  | none => rfl
  | some v => exact Value.follow_unstyled v p.accessors

/-- A path denotes the same value, without styles.  An error blames the source text, and not the
spelling of the path, which shows the style. -/
theorem evaluate_unstyled (c : Context) (p : Path) {source : Text} (h : source ≠ [])
    (offset : Int) :
    c.unstyled.evaluate p.unstyled source offset =
      (c.evaluate p source offset).map Value.unstyled := by
  have hsource : source.isEmpty = false := List.isEmpty_eq_false_iff.mpr h
  rw [evaluate, evaluate, lookUp_unstyled, hsource]
  cases c.lookUp p <;> rfl

end Context

namespace Rendering

variable {α β : Type}

/-! ## 3. Styles of plain text -/

/-- A plain text is the same in any style, and the registry is not asked. -/
theorem applyStyle_plain (o : Options) (place : Place) (style t : Text) :
    applyStyle o.plain place style t = pure t := by
  refine ext_perform fun bench => ?_
  rw [perform_applyStyle, Options.plain, Registry.resolve?, perform_pure]
  dsimp only
  rw [List.append_nil]
  rfl

theorem applyStyle?_plain (o : Options) (place : Place) (style : Option Text) (t : Text) :
    applyStyle? o.plain place style t = pure t := by
  unfold applyStyle?
  split
  · exact applyStyle_plain o place _ t
  · rfl

theorem scalar_plain (o : Options) (place : Place) (requested : Option Text) (content : Scalar)
    (own : Option Text) :
    scalar o.plain place requested content own = wording o.plain content := by
  unfold scalar
  simp only [applyStyle?_plain, ite_self, bind_pure]

mutual

/-- **A value as plain text** is the value without styles as plain text, whatever style is
requested. -/
theorem value_plain (o : Options) (place : Place) (requested : Option Text) :
    ∀ v, value o.plain place requested v = value o.plain place none v.unstyled
  | .scalar content own => by
    rw [Value.unstyled, value, value, scalar_plain, scalar_plain]
  | .sequence vs own => by
    rw [Value.unstyled, value, value, items_plain o place (inherited own requested) vs]
    rfl
  | .mapping _ => rfl

theorem items_plain (o : Options) (place : Place) (style : Option Text) :
    ∀ vs, items o.plain place style vs = items o.plain place none (Value.unstyledItems vs)
  | [] => rfl
  | v :: vs => by
    rw [Value.unstyledItems, items, items, requestedOf_none, value_plain o place (requestedOf v style) v,
      items_plain o place style vs]

end

theorem evaluate_plain (c : Context) (p : Path) {place : Place} (h : place.source ≠ []) :
    evaluate c.unstyled p.unstyled place = Value.unstyled <$> evaluate c p place := by
  unfold evaluate
  rw [Context.evaluate_unstyled c p h]
  cases c.evaluate p place.source place.offset <;> rfl

theorem segment_plain (o : Options) (c : Context) {s : Segment} (h : s.Sourced) :
    segment o.plain c s = segment o.plain c.unstyled s.unstyled := by
  cases s with
  | literal text offset => rfl
  | expression source path position =>
    -- The value is the same up to styles; which style is requested of it does not matter.
    let place : Place := ⟨position.offset, source⟩
    have hevaluate : evaluate c.unstyled path.unstyled place =
        Value.unstyled <$> evaluate c path place := evaluate_plain c path h
    rw [Segment.unstyled, segment, segment, hevaluate, map_eq_pure_bind, bind_assoc]
    refine bind_congr fun v => ?_
    rw [pure_bind]
    exact value_plain o place path.style v

/-- Segments as plain text are the segments without styles as plain text. -/
theorem segments_plain (o : Options) (c : Context) {ss : List Segment}
    (h : ∀ s ∈ ss, s.Sourced) :
    segments o.plain c ss = segments o.plain c.unstyled (ss.map Segment.unstyled) := by
  induction ss with
  | nil => rfl
  | cons s ss ih =>
    obtain ⟨hs, hss⟩ := List.forall_mem_cons.mp h
    rw [List.map_cons, segments, segments, segment_plain o c hs, ih hss]

/-! ## 4. The workbench is left alone -/

/-- A step with the same outcome on every workbench, which is left as it is. -/
def Quiet (m : Rendering α) : Prop := ∃ r, ∀ bench, perform m bench = (r, bench)

theorem quiet_pure (a : α) : Quiet (pure a : Rendering α) := ⟨.ok a, fun _ => rfl⟩

theorem quiet_throw (f : Failure) : Quiet (throw f : Rendering α) := ⟨.error f, fun _ => rfl⟩

theorem quiet_bind {m : Rendering α} {k : α → Rendering β} (hm : Quiet m)
    (hk : ∀ a, Quiet (k a)) : Quiet (m >>= k) := by
  obtain ⟨r, hr⟩ := hm
  cases r with
  | error f =>
    refine ⟨.error f, fun bench => ?_⟩
    rw [perform_bind, hr]
  | ok a =>
    obtain ⟨r', hr'⟩ := hk a
    refine ⟨r', fun bench => ?_⟩
    rw [perform_bind, hr]
    exact hr' bench

/-- **Plain text leaves the workbench alone**, whatever is rendered. -/
theorem closed_quiet (o : Options) : Closed o.plain fun _ m => Quiet m where
  pure := quiet_pure
  throw := quiet_throw
  bind := quiet_bind
  style place style t := applyStyle_plain o place style t ▸ quiet_pure t

/-- **Plain text shows no style.**  As plain text, a template that was read has one outcome, a
text or a failure, in a context.  It is the outcome of the template that asks for no styles in
the context whose values have none, on every workbench, and the workbench is left as it is: no
warning is noted and no notice is given.  The same holds of a value in any requested style. -/
theorem plain_shows_no_style (o : Options) :
    (∀ d source t, Template.parse d source = .ok t → ∀ c, ∃ outcome, ∀ bench,
      perform (template o.plain c t) bench = (outcome, bench) ∧
        perform (template o.plain c.unstyled t.unstyled) bench = (outcome, bench)) ∧
    ∀ place requested v, ∃ outcome, ∀ bench,
      perform (value o.plain place requested v) bench = (outcome, bench) ∧
        perform (value o.plain place none v.unstyled) bench = (outcome, bench) := by
  constructor
  · intro d source t ht c
    obtain ⟨outcome, houtcome⟩ := (closed_quiet o).segments c t.segments
    refine ⟨outcome, fun bench => ?_⟩
    have hplain := segments_plain o c (Template.sourced_of_parse ht)
    constructor
    · rw [template_eq, houtcome]
    · rw [template_eq, Template.unstyled, ← hplain, houtcome]
  · intro place requested v
    obtain ⟨outcome, houtcome⟩ := (closed_quiet o).value place requested v
    refine ⟨outcome, fun bench => ?_⟩
    constructor
    · exact houtcome bench
    · rw [← value_plain, houtcome]

end Rendering

end Phrasing
