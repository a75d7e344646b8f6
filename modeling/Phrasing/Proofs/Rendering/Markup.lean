/-
# A terminal shows the plain text

A template is written in pieces: its literal text, its scalars in words, and what enumerations
put between them.  If no piece has an escape character, and every style is a rendition, then
rendering for a terminal adds sequences to the plain text and nothing else
(`visible_template`).

The two renderings are compared step by step (`Follows`).  Styles are put on scalars alone,
whose texts are plain at first and end in a sequence from then on, so no line feed is ever lost
(`Sgr.Wears`).
-/
import Phrasing.Proofs.Enumeration.Shown
import Phrasing.Proofs.Rendering.Plain
import Phrasing.Proofs.Style.Nesting

namespace Phrasing

/-! ## 1. Pieces -/

namespace Value

mutual

/-- The texts that a value is written in: scalars in words, and summaries of items that are left
out. -/
def pieces (o : Options) : Value → List Text
  | scalar content _ => (o.wording.write content).toOption.toList
  | sequence vs _ => o.enumeration.summaries vs.length ++ piecesOfItems o vs
  | mapping _ => []

/-- The texts that items are written in. -/
def piecesOfItems (o : Options) : List Value → List Text
  | [] => []
  | v :: vs => v.pieces o ++ piecesOfItems o vs

end

end Value

/-- The texts that a segment is written in. -/
def Segment.pieces (o : Options) (c : Context) : Segment → List Text
  | literal text _ => [text]
  | expression _ path _ =>
    match c.lookUp path with
    | .ok v => v.pieces o
    | .error _ => []

/-- The texts that a template is written in, and the separators between them. -/
def Template.pieces (o : Options) (c : Context) (t : Template) : List Text :=
  o.enumeration.separators.map Data.asText ++ t.segments.flatMap (Segment.pieces o c)

/-- The same options where the reader has a terminal. -/
def Options.markup (o : Options) : Options := { o with capability := .markup }

/-- Options under which styles do not interfere with the text: unknown ones are left out, nothing
is sorted, and separators have no escape characters. -/
structure Options.Transparent (o : Options) : Prop where
  lenient : o.strict = false
  unsorted : o.enumeration.sort = false
  separators : ∀ d ∈ o.enumeration.separators, Sgr.escape ∉ d.asText

/-! ## 2. Renditions -/

/-- A style that a terminal shows by its rendition alone. -/
inductive Style.IsRendition : Style → Prop
  | intro {before after on off : Text} (hon : Sgr.IsParameters on) (hoff : Sgr.IsParameters off) :
    IsRendition (.markers ⟨before, after, some (on, off), false⟩)

/-- A registry of renditions, where an unknown style leaves a text as it is. -/
structure Registry.OfRenditions (r : Registry) : Prop where
  styles : ∀ entry ∈ r.styles, entry.2.IsRendition
  fallback : r.fallback = some id

namespace Sgr

/-- A text that shows another one, and can be styled without losing a line feed. -/
structure Wears (s t : Text) : Prop extends Shows s t where
  keeps : ¬ LosesLineFeed s

theorem wears_of_not_mem {t : Text} (h : escape ∉ t) : Wears t t :=
  ⟨shows_of_not_mem h, not_losesLineFeed_of_not_mem h⟩

end Sgr

open Sgr

/-- What a rendition shows is the text that it is put on. -/
theorem Markers.wears_apply {m : Markers} {on off s t : Text} (hm : m.rendition = some (on, off))
    (hon : IsParameters on) (hoff : IsParameters off) (hkeep : m.keep = false) (h : Wears s t) :
    Wears (m.apply .markup s) t := by
  have hbody := body_of_not_keep hkeep s
  obtain ⟨front, ps, hps, heq⟩ := exists_apply_markup hm hoff s
  have hstream := stream_apply_markup hm hon hoff (hbody.symm ▸ h.keeps)
  refine ⟨⟨?_, ?_⟩, ?_⟩
  · rw [heq]
    exact whole_append_sequence hps front
  · rw [visible, hstream, hbody, List.filterMap_append, List.filterMap_append,
      filterMap_parameterSigns, filterMap_parameterSigns, List.append_nil, List.nil_append]
    exact h.visible
  · rw [heq]
    exact not_losesLineFeed_append_sequence front ps

theorem Style.IsRendition.wears {style : Style} (hstyle : style.IsRendition) {s t : Text}
    (h : Wears s t) : Wears (style.apply .markup s) t := by
  obtain ⟨hon, hoff⟩ := hstyle
  exact Markers.wears_apply (m := ⟨_, _, some (_, _), false⟩) rfl hon hoff rfl h

namespace Registry.OfRenditions

variable {r : Registry}

/-- Every name stands for a function that leaves alone what is shown. -/
theorem exists_resolve? (h : r.OfRenditions) (name : Text) :
    ∃ f, (r.resolve? .markup false name).1 = some f ∧
      ∀ s t, Wears s t → Wears (f s) t := by
  rw [resolve?_fst r (by decide)]
  cases hfind : Named.find? name r.styles with
  | some style =>
    obtain ⟨key, hmem⟩ := Named.mem_of_find? hfind
    exact ⟨style.apply .markup, rfl, fun s t => (h.styles _ hmem).wears⟩
  | none => exact ⟨id, h.fallback, fun s t hs => hs⟩

theorem of_alike {bench bench' : Workbench} (h : bench.registry.OfRenditions)
    (halike : bench'.Alike bench) : bench'.registry.OfRenditions where
  styles := halike.styles ▸ h.styles
  fallback := halike.fallback.trans h.fallback

end Registry.OfRenditions

namespace Rendering

variable {α β γ δ : Type}

/-! ## 3. Steps that follow others -/

/-- A step that leads to results related to those of another one, or to the same failure, as
long as all styles are renditions; they still are after it. -/
def Follows (R : α → β → Prop) (m : Rendering α) (m' : Rendering β) : Prop :=
  ∀ bench bench', bench.registry.OfRenditions →
    Agree R (perform m bench).1 (perform m' bench').1 ∧
      (perform m bench).2.registry.OfRenditions

theorem follows_pure {R : α → β → Prop} {a : α} {b : β} (h : R a b) :
    Follows R (pure a) (pure b) := fun _ _ hbench => ⟨.ok h, hbench⟩

theorem follows_throw (R : α → β → Prop) (f : Failure) : Follows R (throw f) (throw f) :=
  fun _ _ hbench => ⟨.error f, hbench⟩

theorem Follows.bind {R : α → β → Prop} {S : γ → δ → Prop} {m : Rendering α} {m' : Rendering β}
    {k : α → Rendering γ} {k' : β → Rendering δ} (h : Follows R m m')
    (hk : ∀ a b, R a b → Follows S (k a) (k' b)) : Follows S (m >>= k) (m' >>= k') := by
  intro bench bench' hbench
  obtain ⟨hagree, hafter⟩ := h bench bench' hbench
  rw [perform_bind, perform_bind]
  generalize perform m bench = outcome, perform m' bench' = outcome' at hagree hafter ⊢
  obtain ⟨r, after⟩ := outcome
  obtain ⟨r', after'⟩ := outcome'
  cases hagree with
  | ok hab => exact hk _ _ hab after after' hafter
  | error f => exact ⟨.error f, hafter⟩

theorem Follows.mono {R S : α → β → Prop} {m : Rendering α} {m' : Rendering β}
    (h : Follows R m m') (hRS : ∀ a b, R a b → S a b) : Follows S m m' := fun bench bench' hbench =>
  ⟨(h bench bench' hbench).1.mono hRS, (h bench bench' hbench).2⟩

/-! ## 4. Values -/

variable {o : Options}

theorem follows_applyStyle? (ho : o.Transparent) (place : Place) (style : Option Text)
    {s t : Text} (h : Wears s t) :
    Follows Wears (applyStyle? o.markup place style s) (pure t) := by
  unfold applyStyle?
  split
  · next name _ =>
    intro bench bench' hbench
    obtain ⟨f, hf, hwears⟩ := hbench.exists_resolve? name
    have hafter := hbench.of_alike ((steady_applyStyle o.markup place name s).keeps bench)
    refine ⟨?_, hafter⟩
    rw [perform_applyStyle]
    have hresolve :
        (bench.registry.resolve? o.markup.capability o.markup.strict name).1 = some f := by
      rw [← hf, ← ho.lenient]
      rfl
    generalize bench.registry.resolve? o.markup.capability o.markup.strict name = outcome
      at hresolve ⊢
    obtain ⟨g, registry, notices⟩ := outcome
    cases hresolve
    exact .ok (hwears s t h)
  · exact follows_pure h

theorem follows_wording {content : Scalar} {own : Option Text}
    (h : ∀ p ∈ (Value.scalar content own).pieces o, escape ∉ p) :
    Follows Wears (wording o.markup content) (wording o.plain content) := by
  -- The words do not depend on what the reader can show.
  change Follows Wears (wording o content) (wording o content)
  unfold wording
  rw [Value.pieces] at h
  cases hwrite : o.wording.write content with
  | ok t =>
    rw [hwrite] at h
    exact follows_pure (wears_of_not_mem (h t (List.mem_singleton_self t)))
  | error f => exact follows_throw _ _

/-- A scalar in its own style and the requested one shows the scalar in words. -/
theorem follows_scalar (ho : o.Transparent) (place : Place) (requested : Option Text)
    {content : Scalar} {own : Option Text}
    (h : ∀ p ∈ (Value.scalar content own).pieces o, escape ∉ p) :
    Follows Wears (scalar o.markup place requested content own)
      (scalar o.plain place requested content own) := by
  rw [scalar_plain, ← bind_pure (wording o.plain content), scalar]
  refine (follows_wording h).bind fun s t hs => ?_
  rw [← pure_bind t pure]
  refine (follows_applyStyle? ho place own hs).bind fun s t hs => ?_
  split
  · exact follows_pure hs
  · exact follows_applyStyle? ho place requested hs

theorem follows_enumerate (ho : o.Transparent) {ss ts : List Text}
    (hsummaries : ∀ t ∈ o.enumeration.summaries ss.length, escape ∉ t) (hall : ShowsAll ss ts) :
    Follows Shows (enumerate o.enumeration ss) (enumerate o.enumeration ts) := by
  have hwrite := Enumeration.write_shows ho.unsorted ho.separators hsummaries hall
  unfold enumerate
  generalize o.enumeration.write ss = r, o.enumeration.write ts = r' at hwrite
  cases hwrite with
  | ok h => exact follows_pure h
  | error f => exact follows_throw _ _

mutual

/-- **A value on a terminal** shows the value as plain text. -/
theorem follows_value (ho : o.Transparent) (place : Place) (requested : Option Text) :
    ∀ v : Value, (∀ p ∈ v.pieces o, escape ∉ p) →
      Follows Shows (value o.markup place requested v) (value o.plain place requested v)
  | .scalar content own, h =>
    (follows_scalar ho place requested h).mono fun s t hs => hs.toShows
  | .sequence vs own, h => by
    rw [Value.pieces] at h
    obtain ⟨hsummaries, hitems⟩ := List.forall_mem_append.mp h
    rw [value, value]
    refine (follows_items ho place (inherited own requested) vs hitems).bind ?_
    rintro ss ts ⟨hlength, hall⟩
    rw [← hlength] at hsummaries
    exact follows_enumerate ho hsummaries hall
  | .mapping _, _ => follows_throw _ _

theorem follows_items (ho : o.Transparent) (place : Place) (style : Option Text) :
    ∀ vs : List Value, (∀ p ∈ Value.piecesOfItems o vs, escape ∉ p) →
      Follows (fun ss ts => ss.length = vs.length ∧ ShowsAll ss ts)
        (items o.markup place style vs) (items o.plain place style vs)
  | [], _ => follows_pure ⟨rfl, .nil⟩
  | v :: vs, h => by
    rw [Value.piecesOfItems] at h
    obtain ⟨hv, hvs⟩ := List.forall_mem_append.mp h
    rw [items, items]
    refine (follows_value ho place (requestedOf v style) v hv).bind fun s t hs => ?_
    refine (follows_items ho place style vs hvs).bind ?_
    rintro ss ts ⟨hlength, hall⟩
    exact follows_pure ⟨congrArg (· + 1) hlength, .cons hs hall⟩

end

/-! ## 5. Templates -/

theorem follows_segment (ho : o.Transparent) (c : Context) {s : Segment}
    (h : ∀ p ∈ s.pieces o c, escape ∉ p) :
    Follows Shows (segment o.markup c s) (segment o.plain c s) := by
  cases s with
  | literal text offset =>
    exact follows_pure (shows_of_not_mem (h text (List.mem_singleton_self text)))
  | expression source path position =>
    rw [Segment.pieces] at h
    rw [segment, segment, evaluate, Context.evaluate]
    cases hlookUp : c.lookUp path with
    | error fault => exact follows_throw _ _
    | ok v =>
      rw [hlookUp] at h
      exact follows_value ho _ path.style v h

theorem follows_segments (ho : o.Transparent) (c : Context) {ss : List Segment}
    (h : ∀ p ∈ ss.flatMap (Segment.pieces o c), escape ∉ p) :
    Follows Shows (segments o.markup c ss) (segments o.plain c ss) := by
  induction ss with
  | nil => exact follows_pure (shows_of_not_mem List.not_mem_nil)
  | cons s ss ih =>
    rw [List.flatMap_cons] at h
    obtain ⟨hs, hss⟩ := List.forall_mem_append.mp h
    rw [segments, segments]
    refine (follows_segment ho c hs).bind fun s t hs => ?_
    refine (ih hss).bind fun ss ts hss => ?_
    exact follows_pure (hs.append hss)

/-- **A terminal shows the plain text.**  Where every style is a rendition, unknown ones are left
out, nothing is sorted and no piece of a template has an escape character, the template rendered
for a terminal is the template rendered as plain text, once the sequences are taken away; and if
one fails, so does the other, in the same way. -/
theorem visible_template {o : Options} (hstrict : o.strict = false)
    (hsort : o.enumeration.sort = false) {bench : Workbench}
    (hbench : bench.registry.OfRenditions) {c : Context} {t : Template}
    (hpieces : ∀ p ∈ t.pieces o c, escape ∉ p) :
    (perform (template o.markup c t) bench).1.map visible =
      (perform (template o.plain c t) bench).1 := by
  obtain ⟨hseparators, hsegments⟩ := List.forall_mem_append.mp hpieces
  have ho : o.Transparent :=
    ⟨hstrict, hsort, fun d hd => hseparators _ (List.mem_map_of_mem hd)⟩
  obtain ⟨hagree, -⟩ := follows_segments ho c hsegments bench bench hbench
  rw [template_eq, template_eq]
  generalize (perform (segments o.markup c t.segments) bench).1 = r,
    (perform (segments o.plain c t.segments) bench).1 = r' at hagree
  cases hagree with
  | ok h => exact congrArg Except.ok h.visible
  | error f => rfl

/-- A list in bold, with an item in a style of its own. -/
theorem visible_list :
    let bench : Workbench :=
      ⟨⟨[("strong".toList, .markers ⟨['*'], ['*'], some (['1'], ['2', '2']), false⟩),
        ("emph".toList, .markers ⟨['_'], ['_'], some (['3'], ['2', '3']), false⟩)], some id, []⟩,
        []⟩
    let c : Context := ⟨[("xs".toList, .sequence [.scalar (.text ['a']) (some "emph".toList),
      .scalar (.text ['b']) none, .scalar (.truth true) none] none)]⟩
    let t : Template := ⟨"see {xs:strong}".toList, [.literal "see ".toList 0,
      .expression "xs:strong".toList ⟨"xs".toList, [], some "strong".toList⟩ ⟨4, 1, 5⟩]⟩
    ['a'] ∈ t.pieces Options.standard c ∧ (∀ p ∈ t.pieces Options.standard c, escape ∉ p) ∧
      (perform (template Options.standard.plain c t) bench).1 = .ok "see a, b and true".toList ∧
      (perform (template Options.standard.markup c t) bench).1.map visible =
        (perform (template Options.standard.plain c t) bench).1 := by
  intro bench c t
  have hstyles : ∀ entry ∈ bench.registry.styles, entry.2.IsRendition := by
    intro entry hentry
    rcases List.mem_cons.mp hentry with rfl | hentry
    · exact .intro (by decide) (by decide)
    · cases List.mem_singleton.mp hentry
      exact .intro (by decide) (by decide)
  have hpieces : ∀ p ∈ t.pieces Options.standard c, escape ∉ p := by decide +kernel
  refine ⟨by decide +kernel, hpieces, rfl, ?_⟩
  exact visible_template rfl rfl ⟨hstyles, rfl⟩ hpieces

end Rendering

end Phrasing
