/-
# Steps of rendering

A step of rendering is run on a workbench; its outcome is a result or a failure, and the
workbench that it leaves behind.  A template is rendered segment by segment, whether it has
expressions or not (`template_eq`).

Rendering is made of results, failures and styles, in a row.  What relates these under two kinds of
options and is kept by rows relates everything that is rendered (`Paired`); in particular, what holds
of these and is kept by rows holds of everything (`Closed`).  Three properties are put to use.

* **A value fails at its place** (`value_failsWith`), for what it is or for a style.
* **Failures keep the place they blame** (`value_displaced`): a value that is rendered at a
  displaced place is rendered as before, and a failure is the displaced failure.
* **Outcomes are steady** (`Steady`): they depend on the styles and the fallback of the
  registry alone, and both are left as they are.  Only the warnings change.
-/
import Phrasing.Proofs.Template.Displacement

namespace Phrasing

/-- A failure in a template that stands at `e`. -/
def Failure.shift (e : Position) : Failure → Failure
  | template err => template (err.shift e)
  | f => f

/-- A place in a template that stands at `e`. -/
def Place.shift (e : Position) (place : Place) : Place :=
  { place with offset := e.offset + place.offset }

/-- Workbenches whose registries know the same styles and have the same fallback. -/
structure Workbench.Alike (bench bench' : Workbench) : Prop where
  styles : bench.registry.styles = bench'.registry.styles
  fallback : bench.registry.fallback = bench'.registry.fallback

theorem Workbench.Alike.symm {bench bench' : Workbench} (h : bench.Alike bench') :
    bench'.Alike bench := ⟨h.styles.symm, h.fallback.symm⟩

theorem Workbench.Alike.trans {bench bench' bench'' : Workbench} (h : bench.Alike bench')
    (h' : bench'.Alike bench'') : bench.Alike bench'' :=
  ⟨h.styles.trans h'.styles, h.fallback.trans h'.fallback⟩

/-- A failure of a value at a place, apart from a style that is not registered: something cannot be
written, or is a mapping.  The error blames the place. -/
inductive Failure.ArisesAt (place : Place) : Failure → Prop where
  | data (f : DataFault) : ArisesAt place (.data f)
  | option (f : OptionFault) : ArisesAt place (.option f)
  | mapping : ArisesAt place
    (.template ⟨place.offset, place.source, .reference (.mismatch "scalar or sequence" "mapping")⟩)

/-- A fault of an accessor, and not of the name in front of the accessors. -/
inductive ReferenceFault.OfAccessor : ReferenceFault → Prop where
  | outOfRange (index length : Int) : OfAccessor (.outOfRange index length)
  | missingField (name : Text) : OfAccessor (.missingField name)
  | mismatch (expected actual : String) : OfAccessor (.mismatch expected actual)

theorem Value.ofAccessor_of_select {v : Value} {a : Accessor} {fault : ReferenceFault}
    (h : v.select a = .error fault) : fault.OfAccessor := by
  unfold select at h
  repeat' split at h
  all_goals cases h
  · exact .outOfRange _ _
  · exact .mismatch _ _
  · exact .missingField _
  · exact .mismatch _ _

theorem Value.ofAccessor_of_follow {v : Value} {as : List Accessor} {fault : ReferenceFault}
    (h : v.follow as = .error fault) : fault.OfAccessor := by
  induction as generalizing v with
  | nil => cases h
  | cons a as ih =>
    rw [follow] at h
    split at h
    · next hselect =>
      cases h
      exact ofAccessor_of_select hselect
    · exact ih h

namespace Registry

/-- Resolving a style leaves the styles and the fallback as they are. -/
theorem resolve?_keeps (r : Registry) (capability : Capability) (strict : Bool) (name : Text) :
    (r.resolve? capability strict name).2.1.styles = r.styles ∧
      (r.resolve? capability strict name).2.1.fallback = r.fallback := by
  unfold resolve?
  repeat' split
  all_goals exact ⟨rfl, rfl⟩

/-- What a name is resolved to: its style, or else the fallback, unless that is forbidden. -/
theorem resolve?_fst (r : Registry) {capability : Capability} (h : capability ≠ .none)
    (strict : Bool) (name : Text) :
    (r.resolve? capability strict name).1 =
      match Named.find? name r.styles with
      | some s => some (s.apply capability)
      | none => if strict then none else r.fallback := by
  rw [resolve?.eq_2 r capability strict name h]
  cases Named.find? name r.styles with
  | some s => rfl
  | none =>
    cases strict with
    | true => rfl
    | false =>
      cases hfallback : r.fallback with
      | none => rfl
      | some f =>
        by_cases hwarned : r.warned.contains name = true
        · simp only [if_pos hwarned]
          rfl
        · simp only [if_neg hwarned]
          rfl

/-- A style that is registered is resolved to what it does to a text. -/
theorem resolve?_of_find? {r : Registry} {name : Text} {s : Style}
    (h : Named.find? name r.styles = some s) (capability : Capability) (strict : Bool) :
    (r.resolve? capability strict name).1 = some (s.apply capability) := by
  by_cases hshown : capability = .none
  · rw [hshown]
    rfl
  · rw [resolve?_fst r hshown, h]

/-- What a name is resolved to depends on the styles and the fallback alone. -/
theorem resolve?_congr {r r' : Registry} (hstyles : r.styles = r'.styles)
    (hfallback : r.fallback = r'.fallback) (capability : Capability) (strict : Bool)
    (name : Text) :
    (r.resolve? capability strict name).1 = (r'.resolve? capability strict name).1 := by
  by_cases h : capability = .none
  · rw [h]
    rfl
  · rw [resolve?_fst r h, resolve?_fst r' h, hstyles, hfallback]

end Registry

namespace Rendering

variable {α β : Type}

/-! ## 1. Running steps -/

/-- What a step leads to on a workbench, and the workbench after it. -/
def perform (m : Rendering α) (bench : Workbench) : Except Failure α × Workbench := m.run bench

@[simp] theorem perform_pure (a : α) (bench : Workbench) :
    perform (pure a) bench = (.ok a, bench) := rfl

/-- Steps in a row: the second is taken where the first led to a result. -/
theorem perform_bind (m : Rendering α) (k : α → Rendering β) (bench : Workbench) :
    perform (m >>= k) bench =
      match perform m bench with
      | (.ok a, bench') => perform (k a) bench'
      | (.error f, bench') => (.error f, bench') := by
  change (match perform m bench with
    | (r, bench') => perform (ExceptT.mk (ExceptT.bindCont k r)) bench') = _
  match perform m bench with
  | (.ok a, bench') => rfl
  | (.error f, bench') => rfl

/-- Steps with the same outcomes are the same. -/
theorem ext_perform {m m' : Rendering α} (h : ∀ bench, perform m bench = perform m' bench) :
    m = m' := funext h

@[simp] theorem perform_get (bench : Workbench) :
    perform (get : Rendering Workbench) bench = (.ok bench, bench) := rfl

/-- A style is applied as the registry resolves it. -/
theorem perform_applyStyle (o : Options) (place : Place) (style t : Text) (bench : Workbench) :
    perform (applyStyle o place style t) bench =
      match bench.registry.resolve? o.capability o.strict style with
      | (some f, registry, notices) => (.ok (f t), ⟨registry, bench.notices ++ notices⟩)
      | (none, registry, notices) =>
        (.error (.template ⟨place.offset, if place.source.isEmpty then style else place.source,
          .rendering (.unregistered style)⟩), ⟨registry, bench.notices ++ notices⟩) := by
  rw [applyStyle, perform_bind, perform_get]
  dsimp only
  match bench.registry.resolve? o.capability o.strict style with
  | (some f, registry, notices) => rfl
  | (none, registry, notices) => rfl

/-! ## 2. Templates, segment by segment -/

/-- The text of segments in a row. -/
def segments (o : Options) (c : Context) : List Segment → Rendering Text
  | [] => pure []
  | s :: ss => do
    let t ← segment o c s
    let ts ← segments o c ss
    return t ++ ts

theorem flatten_mapM_segment (o : Options) (c : Context) (ss : List Segment) :
    (do return (← ss.mapM (segment o c)).flatten) = segments o c ss := by
  induction ss with
  | nil => rfl
  | cons s ss ih =>
    rw [segments, ← ih, List.mapM_cons]
    simp only [bind_assoc, pure_bind, List.flatten_cons]

theorem segments_of_literals (o : Options) (c : Context) {ss : List Segment}
    (h : ss.filterMap Segment.path? = []) :
    segments o c ss = pure (ss.flatMap Segment.literalText) := by
  induction ss with
  | nil => rfl
  | cons s ss ih =>
    cases s with
    | literal text offset => rw [segments, ih h]; rfl
    | expression source path position => exact absurd h (List.cons_ne_nil _ _)

/-- **A template is rendered segment by segment**, also where its literal text is enough. -/
theorem template_eq (o : Options) (c : Context) (t : Template) :
    template o c t = segments o c t.segments := by
  unfold template
  split
  · exact flatten_mapM_segment o c t.segments
  · next h =>
    have hpaths : t.segments.filterMap Segment.path? = [] := by
      simpa [Template.hasExpressions, Template.paths] using h
    exact (segments_of_literals o c hpaths).symm

/-! ## 3. What holds of everything that is rendered -/

/-- Where nothing is handed down, nothing is requested. -/
theorem requestedOf_none (v : Value) : requestedOf v none = none := ite_self none

/-- A relation between steps under two kinds of options that word scalars and enumerate texts
alike.  It relates results to themselves, and so failures that arise at the place, and a text in a
style to the text in that style; and steps in a row if it relates the steps. -/
structure Paired (o o' : Options) (place : Place)
    (R : (α : Type) → Rendering α → Rendering α → Prop) : Prop where
  words : o.wording = o'.wording
  rules : o.enumeration = o'.enumeration
  pure : ∀ {α : Type} (a : α), R α (pure a) (pure a)
  throw : ∀ {α : Type} {f : Failure}, f.ArisesAt place → R α (throw f) (throw f)
  bind : ∀ {α β : Type} {m m' : Rendering α} {k k' : α → Rendering β},
    R α m m' → (∀ a, R β (k a) (k' a)) → R β (m >>= k) (m' >>= k')
  style : ∀ style t, R Text (applyStyle o place style t) (applyStyle o' place style t)

namespace Paired

variable {o o' : Options} {place : Place} {R : (α : Type) → Rendering α → Rendering α → Prop}

theorem style? (h : Paired o o' place R) (style : Option Text) (t : Text) :
    R Text (applyStyle? o place style t) (applyStyle? o' place style t) := by
  unfold applyStyle?
  split
  · exact h.style _ t
  · exact h.pure t

theorem wording (h : Paired o o' place R) (content : Scalar) :
    R Text (wording o content) (wording o' content) := by
  unfold Rendering.wording
  rw [h.words]
  split
  · exact h.pure _
  · exact h.throw (.data _)

theorem enumerate (h : Paired o o' place R) (ts : List Text) :
    R Text (enumerate o.enumeration ts) (enumerate o'.enumeration ts) := by
  unfold Rendering.enumerate
  rw [h.rules]
  split
  · exact h.pure _
  · exact h.throw (.option _)

theorem scalar (h : Paired o o' place R) (requested : Option Text) (content : Scalar)
    (own : Option Text) :
    R Text (scalar o place requested content own) (scalar o' place requested content own) := by
  refine h.bind (h.wording content) fun t => ?_
  refine h.bind (h.style? own t) fun t' => ?_
  split
  · exact h.pure t'
  · exact h.style? requested t'

mutual

/-- **The renderings of a value are related.** -/
theorem value (h : Paired o o' place R) (requested : Option Text) :
    ∀ v, R Text (value o place requested v) (value o' place requested v)
  | .scalar content own => h.scalar requested content own
  | .sequence vs own =>
    h.bind (h.items (inherited own requested) vs) fun ts => h.enumerate ts
  | .mapping _ => h.throw .mapping

theorem items (h : Paired o o' place R) (style : Option Text) :
    ∀ vs, R (List Text) (items o place style vs) (items o' place style vs)
  | [] => h.pure []
  | v :: vs =>
    h.bind (h.value (requestedOf v style) v) fun t =>
      h.bind (h.items style vs) fun ts => h.pure (t :: ts)

end

section

variable (h : ∀ place, Paired o o' place R) {c : Context}
  (hevaluate : ∀ path place, R Value (evaluate c path place) (evaluate c path place))

include h hevaluate

/-- The renderings of a segment are related at all places, if the relation does not tell apart what
paths denote. -/
theorem segment (s : Segment) : R Text (segment o c s) (segment o' c s) := by
  cases s with
  | literal text offset => exact (h ⟨0, []⟩).pure text
  | expression source path position =>
    have hplace := h ⟨position.offset, source⟩
    exact hplace.bind (hevaluate path _) fun v => hplace.value path.style v

/-- **So are the renderings of segments in a row.** -/
theorem segments (ss : List Segment) : R Text (segments o c ss) (segments o' c ss) := by
  have hplace := h ⟨0, []⟩
  induction ss with
  | nil => exact hplace.pure []
  | cons s ss ih =>
    exact hplace.bind (segment h hevaluate s) fun t => hplace.bind ih fun ts => hplace.pure _

end

end Paired

/-- A property of steps under some options: results, failures and texts in styles have it, and
steps in a row have it if each of them does. -/
structure Closed (o : Options) (P : (α : Type) → Rendering α → Prop) : Prop where
  pure : ∀ {α : Type} (a : α), P α (pure a)
  throw : ∀ {α : Type} (f : Failure), P α (throw f)
  bind : ∀ {α β : Type} {m : Rendering α} {k : α → Rendering β},
    P α m → (∀ a, P β (k a)) → P β (m >>= k)
  style : ∀ place style t, P Text (applyStyle o place style t)

namespace Closed

variable {o : Options} {P : (α : Type) → Rendering α → Prop}

/-- A property is a relation that leaves the second step aside. -/
theorem paired (h : Closed o P) (place : Place) : Paired o o place fun α m _ => P α m where
  words := rfl
  rules := rfl
  pure := h.pure
  throw _ := h.throw _
  bind := h.bind
  style style t := h.style place style t

theorem enumerate (h : Closed o P) (rules : Enumeration) (ts : List Text) :
    P Text (enumerate rules ts) := by
  unfold Rendering.enumerate
  split
  · exact h.pure _
  · exact h.throw _

theorem evaluate (h : Closed o P) (c : Context) (path : Path) (place : Place) :
    P Value (evaluate c path place) := by
  unfold Rendering.evaluate
  split
  · exact h.pure _
  · exact h.throw _

theorem contextOf (h : Closed o P) (d : Data) (explicit : List (Data × Data)) :
    P Context (contextOf d explicit) := by
  unfold Rendering.contextOf
  split
  · exact h.pure _
  · exact h.throw _

theorem value (h : Closed o P) (place : Place) (requested : Option Text) (v : Value) :
    P Text (value o place requested v) := (h.paired place).value requested v

theorem items (h : Closed o P) (place : Place) (style : Option Text) (vs : List Value) :
    P (List Text) (items o place style vs) := (h.paired place).items style vs

theorem segment (h : Closed o P) (c : Context) (s : Segment) : P Text (segment o c s) :=
  Paired.segment h.paired (fun path place => h.evaluate c path place) s

/-- **A closed property holds of the segments of a template.** -/
theorem segments (h : Closed o P) (c : Context) (ss : List Segment) : P Text (segments o c ss) :=
  Paired.segments h.paired (fun path place => h.evaluate c path place) ss

theorem template (h : Closed o P) (c : Context) (t : Template) : P Text (template o c t) := by
  rw [template_eq]
  exact h.segments c t.segments

end Closed

/-! ## 4. How steps fail -/

/-- Whatever a step fails with has the property. -/
def FailsWith (P : Failure → Prop) (m : Rendering α) : Prop :=
  ∀ bench f, (perform m bench).1 = .error f → P f

section

variable {P : Failure → Prop}

theorem failsWith_pure (a : α) : FailsWith P (pure a : Rendering α) := by
  intro bench f h
  cases h

theorem failsWith_throw {f : Failure} (h : P f) : FailsWith P (throw f : Rendering α) := by
  intro bench f' h'
  cases h'
  exact h

theorem FailsWith.bind {m : Rendering α} {k : α → Rendering β} (hm : FailsWith P m)
    (hk : ∀ a, FailsWith P (k a)) : FailsWith P (m >>= k) := by
  intro bench f h
  rw [perform_bind] at h
  match hr : perform m bench with
  | (.ok a, bench') =>
    rw [hr] at h
    exact hk a bench' f h
  | (.error f', bench') =>
    rw [hr] at h
    cases h
    exact hm bench f (by rw [hr])

end

/-- **A value fails** in the ways that arise at its place, or for a style that is not registered. -/
theorem value_failsWith (o : Options) (place : Place) (requested : Option Text) (v : Value) :
    FailsWith (fun f => f.ArisesAt place ∨ ∃ style, f = .template ⟨place.offset,
      if place.source.isEmpty then style else place.source, .rendering (.unregistered style)⟩)
      (value o place requested v) := by
  refine @Paired.value o o place (fun _ m _ => FailsWith _ m) ?_ requested v
  refine ⟨rfl, rfl, failsWith_pure, fun hf => failsWith_throw (.inl hf), FailsWith.bind, ?_⟩
  intro style t bench f hf
  rw [perform_applyStyle] at hf
  split at hf
  · cases hf
  · cases hf
    exact .inr ⟨style, rfl⟩

/-! ## 5. Displaced places -/

/-- A step in a template that stands at `e`. -/
def shift (e : Position) (m : Rendering α) : Rendering α :=
  ExceptT.mk fun bench => ((perform m bench).1.mapError (Failure.shift e), (perform m bench).2)

@[simp] theorem perform_shift (e : Position) (m : Rendering α) (bench : Workbench) :
    perform (shift e m) bench =
      ((perform m bench).1.mapError (Failure.shift e), (perform m bench).2) := rfl

theorem shift_bind (e : Position) (m : Rendering α) (k : α → Rendering β) :
    shift e (m >>= k) = shift e m >>= fun a => shift e (k a) := by
  refine ext_perform fun bench => ?_
  rw [perform_shift, perform_bind, perform_bind, perform_shift]
  match perform m bench with
  | (.ok a, bench') => rfl
  | (.error f, bench') => rfl

theorem applyStyle_displaced (e : Position) (o : Options) (place : Place) (style t : Text) :
    applyStyle o (place.shift e) style t = shift e (applyStyle o place style t) := by
  refine ext_perform fun bench => ?_
  rw [perform_shift, perform_applyStyle, perform_applyStyle]
  match bench.registry.resolve? o.capability o.strict style with
  | (some f, registry, notices) => rfl
  | (none, registry, notices) => rfl

theorem applyStyle?_displaced (e : Position) (o : Options) (place : Place)
    (style : Option Text) (t : Text) :
    applyStyle? o (place.shift e) style t = shift e (applyStyle? o place style t) := by
  unfold applyStyle?
  split
  · exact applyStyle_displaced e o place _ t
  · rfl

theorem wording_displaced (e : Position) (o : Options) (content : Scalar) :
    wording o content = shift e (wording o content) := by
  unfold wording
  split <;> rfl

theorem enumerate_displaced (e : Position) (rules : Enumeration) (ts : List Text) :
    enumerate rules ts = shift e (enumerate rules ts) := by
  unfold enumerate
  split <;> rfl

theorem scalar_displaced (e : Position) (o : Options) (place : Place) (requested : Option Text)
    (content : Scalar) (own : Option Text) :
    scalar o (place.shift e) requested content own =
      shift e (scalar o place requested content own) := by
  unfold scalar
  rw [shift_bind, ← wording_displaced]
  refine bind_congr fun t => ?_
  rw [shift_bind, applyStyle?_displaced]
  refine bind_congr fun t' => ?_
  split
  · rfl
  · exact applyStyle?_displaced e o place requested t'

mutual

/-- **A value at a displaced place** is rendered as before, and a failure is displaced. -/
theorem value_displaced (e : Position) (o : Options) (place : Place) (requested : Option Text) :
    ∀ v, value o (place.shift e) requested v = shift e (value o place requested v)
  | .scalar content own => scalar_displaced e o place requested content own
  | .sequence vs own => by
    rw [value, value, shift_bind, items_displaced]
    exact bind_congr fun ts => enumerate_displaced e o.enumeration ts
  | .mapping _ => rfl

theorem items_displaced (e : Position) (o : Options) (place : Place) (style : Option Text) :
    ∀ vs, items o (place.shift e) style vs = shift e (items o place style vs)
  | [] => rfl
  | v :: vs => by
    rw [items, items, shift_bind, value_displaced]
    refine bind_congr fun t => ?_
    rw [shift_bind, items_displaced]
    rfl

end

/-! ## 6. Steady outcomes -/

/-- A step whose result depends on the styles and the fallback of the registry alone, and that
leaves both as they are. -/
structure Steady (m : Rendering α) : Prop where
  keeps : ∀ bench, (perform m bench).2.Alike bench
  result : ∀ bench bench', bench.Alike bench' → (perform m bench).1 = (perform m bench').1

theorem steady_pure (a : α) : Steady (pure a : Rendering α) :=
  ⟨fun _ => ⟨rfl, rfl⟩, fun _ _ _ => rfl⟩

theorem steady_throw (f : Failure) : Steady (throw f : Rendering α) :=
  ⟨fun _ => ⟨rfl, rfl⟩, fun _ _ _ => rfl⟩

theorem steady_bind {m : Rendering α} {k : α → Rendering β} (hm : Steady m)
    (hk : ∀ a, Steady (k a)) : Steady (m >>= k) := by
  refine ⟨fun bench => ?_, fun bench bench' halike => ?_⟩
  · have hkeeps := hm.keeps bench
    rw [perform_bind]
    match hr : perform m bench with
    | (.ok a, after) =>
      rw [hr] at hkeeps
      exact ((hk a).keeps after).trans hkeeps
    | (.error f, after) =>
      rw [hr] at hkeeps
      exact hkeeps
  · have hresult := hm.result bench bench' halike
    have hkeeps := hm.keeps bench
    have hkeeps' := hm.keeps bench'
    rw [perform_bind, perform_bind]
    match hr : perform m bench, hr' : perform m bench' with
    | (.ok a, after), (r', after') =>
      rw [hr, hr'] at hresult
      rw [hr] at hkeeps
      rw [hr'] at hkeeps'
      cases (show .ok a = r' from hresult)
      exact (hk a).result after after' ((hkeeps.trans halike).trans hkeeps'.symm)
    | (.error f, after), (r', after') =>
      rw [hr, hr'] at hresult
      cases (show .error f = r' from hresult)
      rfl

theorem steady_applyStyle (o : Options) (place : Place) (style t : Text) :
    Steady (applyStyle o place style t) := by
  refine ⟨fun bench => ?_, fun bench bench' halike => ?_⟩
  · have hkeeps := bench.registry.resolve?_keeps o.capability o.strict style
    rw [perform_applyStyle]
    match hr : bench.registry.resolve? o.capability o.strict style with
    | (some f, registry, notices) =>
      rw [hr] at hkeeps
      exact ⟨hkeeps.1, hkeeps.2⟩
    | (none, registry, notices) =>
      rw [hr] at hkeeps
      exact ⟨hkeeps.1, hkeeps.2⟩
  · have hresult := Registry.resolve?_congr halike.styles halike.fallback o.capability o.strict style
    rw [perform_applyStyle, perform_applyStyle]
    match hr : bench.registry.resolve? o.capability o.strict style,
        hr' : bench'.registry.resolve? o.capability o.strict style with
    | (some f, _, _), (g, _, _) =>
      rw [hr, hr'] at hresult
      cases (show some f = g from hresult)
      rfl
    | (none, _, _), (g, _, _) =>
      rw [hr, hr'] at hresult
      cases (show none = g from hresult)
      rfl

/-- **Everything is rendered alike on alike workbenches**, and leaves them so. -/
theorem closed_steady (o : Options) : Closed o fun _ m => Steady m where
  pure := steady_pure
  throw := steady_throw
  bind := steady_bind
  style := steady_applyStyle o

/-- The results of steady steps in a row are those that each of them has on the same workbench. -/
theorem Steady.perform_bind_fst {m : Rendering α} {k : α → Rendering β} (hm : Steady m)
    (hk : ∀ a, Steady (k a)) (bench : Workbench) :
    (perform (m >>= k) bench).1 =
      (perform m bench).1.bind fun a => (perform (k a) bench).1 := by
  have hkeeps := hm.keeps bench
  rw [perform_bind]
  match perform m bench, hkeeps with
  | (.ok a, after), hkeeps => exact (hk a).result after bench hkeeps
  | (.error f, after), _ => rfl

/-- So two steps whose results are put together give what their own results give. -/
theorem Steady.perform_both_fst {γ : Type} {m : Rendering α} {m' : Rendering β} (hm : Steady m)
    (hm' : Steady m') (g : α → β → γ) (bench : Workbench) :
    (perform (do return g (← m) (← m')) bench).1 =
      (perform m bench).1.bind fun a => (perform m' bench).1.map (g a) := by
  have hpure (a : α) (b : β) : Steady (pure (g a b) : Rendering γ) := steady_pure _
  rw [Steady.perform_bind_fst hm fun a => steady_bind hm' (hpure a)]
  refine congrArg _ (funext fun a => ?_)
  rw [Steady.perform_bind_fst hm' (hpure a)]
  cases (perform m' bench).1 <;> rfl

/-- The result of segments is that of the first and those of the others. -/
theorem perform_segments_cons_fst (o : Options) (c : Context) (s : Segment) (ss : List Segment)
    (bench : Workbench) :
    (perform (segments o c (s :: ss)) bench).1 =
      (perform (segment o c s) bench).1.bind fun t =>
        (perform (segments o c ss) bench).1.map (t ++ ·) := by
  rw [segments]
  exact ((closed_steady o).segment c s).perform_both_fst ((closed_steady o).segments c ss)
    (· ++ ·) bench

end Rendering

end Phrasing
