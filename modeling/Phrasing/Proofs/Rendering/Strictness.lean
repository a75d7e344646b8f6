/-
# Strict and lenient rendering

Under strict options an unknown style is an error; under lenient ones the fallback of the registry
stands in for it, and its name is noted.  The two renderings of a template run in step as long as
all styles are registered.  At the first one that is not, the strict rendering stops, and the
lenient one goes on with a note of the name (`Refined`).

So a text or any other failure of the strict rendering is also that of the lenient one, and where an
unknown style is the error, it is one that the fallback stands in for (`strict_refines_lenient`).
`standIns` lists the styles that it stands in for: they are what is noted where nothing was noted
before.  A single style is one of them by `mem_standIns_applyStyle`, and steps in a row have those of
each step (`mem_standIns_bind`).
-/
import Phrasing.Proofs.Style.History

namespace Phrasing

/-- The same options where an unknown style is an error. -/
def Options.strictly (o : Options) : Options := { o with strict := true }

/-- The same options where the fallback stands in for an unknown style. -/
def Options.leniently (o : Options) : Options := { o with strict := false }

/-- The style that is not registered, if that is the failure. -/
def Failure.unregistered? : Failure → Option Text
  | .template ⟨_, _, .rendering (.unregistered style)⟩ => some style
  | _ => none

/-! ## 1. What a registry notes -/

namespace Registry

/-- The fallback stands in for a name when it is resolved. -/
structure StandsIn (r : Registry) (capability : Capability) (strict : Bool) (name : Text) :
    Prop where
  shown : capability ≠ .none
  lenient : strict = false
  fallback : r.fallback.isSome
  unknown : Named.find? name r.styles = none

variable {r : Registry}

/-- Resolving a name notes it if the fallback stands in for it, and notes nothing else. -/
theorem mem_warned_resolve? {capability : Capability} {strict : Bool} {style name : Text} :
    name ∈ (r.resolve? capability strict style).2.1.warned ↔
      name ∈ r.warned ∨ r.StandsIn capability strict style ∧ name = style := by
  by_cases h : r.StandsIn capability strict style
  · obtain ⟨hcapability, rfl, hfallback, hunknown⟩ := id h
    obtain ⟨f, hf⟩ := Option.isSome_iff_exists.mp hfallback
    rw [resolve?_of_fallback hcapability hunknown hf]
    split
    · next hmem =>
      refine ⟨.inl, ?_⟩
      rintro (hname | ⟨-, rfl⟩)
      · exact hname
      · exact hmem
    · simp [h, or_comm]
  · have hquiet : (r.resolve? capability strict style).2 = (r, []) :=
      resolve?_quiet fun ⟨hcapability, hstrict, hfallback, hunknown⟩ =>
        h ⟨hcapability, hstrict, hfallback, hunknown⟩
    simp [hquiet, h]

/-- Without a style, a name is refused in strict mode. -/
theorem resolve?_strict {capability : Capability} {name : Text} (hshown : capability ≠ .none)
    (hunknown : Named.find? name r.styles = none) :
    r.resolve? capability true name = (none, r, []) := by
  rw [resolve?.eq_2 r capability true name hshown, hunknown]
  rfl

/-- With a style, or where styles are not shown, it is resolved alike in both modes. -/
theorem resolve?_known {capability : Capability} {name : Text}
    (h : capability ≠ .none → Named.find? name r.styles ≠ none) :
    ∃ f, ∀ strict, r.resolve? capability strict name = (some f, r, []) := by
  by_cases hshown : capability = .none
  · rw [hshown]
    exact ⟨id, fun strict => rfl⟩
  · obtain ⟨s, hs⟩ := Option.ne_none_iff_exists'.mp (h hshown)
    refine ⟨s.apply capability, fun strict => ?_⟩
    rw [resolve?.eq_2 r capability strict name hshown, hs]

end Registry

/-- The workbench on which nothing was noted yet. -/
def Workbench.unwarned (bench : Workbench) : Workbench :=
  ⟨⟨bench.registry.styles, bench.registry.fallback, []⟩, []⟩

theorem Workbench.unwarned_alike (bench : Workbench) : bench.unwarned.Alike bench := ⟨rfl, rfl⟩

theorem Workbench.Alike.unwarned_eq {bench bench' : Workbench} (h : bench.Alike bench') :
    bench.unwarned = bench'.unwarned := by
  unfold Workbench.unwarned
  rw [h.styles, h.fallback]

namespace Rendering

variable {α β : Type} {o : Options} {bench : Workbench}

/-- The styles that are not registered and that a step resolves through the fallback: those that it
notes where nothing was noted before. -/
def standIns (m : Rendering α) (bench : Workbench) : List Text :=
  (perform m bench.unwarned).2.registry.warned

theorem standIns_congr (m : Rendering α) {bench bench' : Workbench} (h : bench.Alike bench') :
    standIns m bench = standIns m bench' := by
  rw [standIns, h.unwarned_eq, standIns]

theorem registry_applyStyle (o : Options) (place : Place) (style t : Text) (bench : Workbench) :
    (perform (applyStyle o place style t) bench).2.registry =
      (bench.registry.resolve? o.capability o.strict style).2.1 := by
  rw [perform_applyStyle]
  split
  · next h => rw [h]
  · next h => rw [h]

theorem mem_standIns_applyStyle {place : Place} {style t name : Text} :
    name ∈ standIns (applyStyle o place style t) bench ↔
      bench.registry.StandsIn o.capability o.strict style ∧ name = style := by
  rw [standIns, registry_applyStyle, Registry.mem_warned_resolve?]
  have hempty : name ∉ bench.unwarned.registry.warned := List.not_mem_nil
  have hstands : bench.unwarned.registry.StandsIn o.capability o.strict style ↔
      bench.registry.StandsIn o.capability o.strict style :=
    ⟨fun ⟨h₁, h₂, h₃, h₄⟩ => ⟨h₁, h₂, h₃, h₄⟩, fun ⟨h₁, h₂, h₃, h₄⟩ => ⟨h₁, h₂, h₃, h₄⟩⟩
  simp [hempty, hstands]

/-- A steady step that notes exactly the styles that the fallback stands in for, whatever was noted
before. -/
structure Noting (m : Rendering α) : Prop extends Steady m where
  warned : ∀ bench name, name ∈ (perform m bench).2.registry.warned ↔
    name ∈ bench.registry.warned ∨ name ∈ standIns m bench

theorem noting_pure (a : α) : Noting (pure a : Rendering α) where
  toSteady := steady_pure a
  warned _ _ := (or_iff_left List.not_mem_nil).symm

theorem noting_throw (f : Failure) : Noting (throw f : Rendering α) where
  toSteady := steady_throw f
  warned _ _ := (or_iff_left List.not_mem_nil).symm

section

variable {m : Rendering α} {k : α → Rendering β}

theorem mem_warned_bind (hm : Noting m) (hk : ∀ a, Noting (k a)) (bench : Workbench)
    (name : Text) :
    name ∈ (perform (m >>= k) bench).2.registry.warned ↔
      name ∈ bench.registry.warned ∨ name ∈ standIns m bench ∨
        ∃ a, (perform m bench).1 = .ok a ∧ name ∈ standIns (k a) bench := by
  have hwarned := hm.warned bench name
  have hkeeps := hm.keeps bench
  rw [perform_bind]
  match perform m bench, hwarned, hkeeps with
  | (.ok a, after), hwarned, hkeeps =>
    rw [(hk a).warned after name, standIns_congr (k a) hkeeps, hwarned, or_assoc]
    simp
  | (.error f, after), hwarned, _ =>
    rw [hwarned]
    simp

/-- The fallback stands in for the styles of the first step and, where that leads to a result, for
those of the second. -/
theorem mem_standIns_bind (hm : Noting m) (hk : ∀ a, Noting (k a)) {name : Text} :
    name ∈ standIns (m >>= k) bench ↔
      name ∈ standIns m bench ∨
        ∃ a, (perform m bench).1 = .ok a ∧ name ∈ standIns (k a) bench := by
  have halike := bench.unwarned_alike
  have h := mem_warned_bind hm hk bench.unwarned name
  simp only [standIns_congr _ halike, hm.result _ _ halike] at h
  exact h.trans (or_iff_right List.not_mem_nil)

theorem noting_bind (hm : Noting m) (hk : ∀ a, Noting (k a)) : Noting (m >>= k) where
  toSteady := steady_bind hm.toSteady fun a => (hk a).toSteady
  warned bench name := by
    rw [mem_warned_bind hm hk, mem_standIns_bind hm hk]

end

theorem noting_applyStyle (o : Options) (place : Place) (style t : Text) :
    Noting (applyStyle o place style t) where
  toSteady := steady_applyStyle o place style t
  warned bench name := by
    rw [registry_applyStyle, Registry.mem_warned_resolve?, mem_standIns_applyStyle]

/-! ## 2. Two renderings -/

/-- The outcome of a strict step on a workbench, and that of the same step taken leniently. -/
inductive Refined (capability : Capability) (bench : Workbench) :
    (strict lenient : Except Failure α × Workbench) → Prop where
  /-- All styles so far are registered. -/
  | same (r : Except Failure α) (h : ∀ f, r = .error f → f.unregistered? = none) :
    Refined capability bench (r, bench) (r, bench)
  /-- A style is not registered: the strict step stops there, the lenient one goes on. -/
  | parted (offset : Int) (source style : Text) (r : Except Failure α) (after : Workbench)
    (hshown : capability ≠ .none) (hunknown : Named.find? style bench.registry.styles = none)
    (hnoted : style ∈ after.registry.warned) :
    Refined capability bench
      (.error (.template ⟨offset, source, .rendering (.unregistered style)⟩), bench) (r, after)

namespace Refined

variable {capability : Capability} {strict lenient : Except Failure α × Workbench}

/-- A result of the strict step is that of the lenient one, and nothing is noted. -/
theorem eq_of_ok (h : Refined capability bench strict lenient) {a : α} (ha : strict.1 = .ok a) :
    lenient = (.ok a, bench) := by
  cases h with
  | same r _ =>
    cases ha
    rfl
  | parted offset source style r after hshown hunknown hnoted => cases ha

/-- So is a failure, unless it is that a style is not registered. -/
theorem eq_of_error (h : Refined capability bench strict lenient) {f : Failure}
    (hf : strict.1 = .error f) (hregistered : f.unregistered? = none) :
    lenient = (.error f, bench) := by
  cases h with
  | same r _ =>
    cases hf
    rfl
  | parted offset source style r after hshown hunknown hnoted =>
    cases hf
    cases hregistered

/-- Where the strict step fails for a style, the lenient one has noted it. -/
theorem of_unregistered (h : Refined capability bench strict lenient) {f : Failure} {style : Text}
    (hf : strict.1 = .error f) (hstyle : f.unregistered? = some style) :
    capability ≠ .none ∧ Named.find? style bench.registry.styles = none ∧
      style ∈ lenient.2.registry.warned := by
  cases h with
  | same r hregistered =>
    rw [hregistered f hf] at hstyle
    cases hstyle
  | parted offset source name r after hshown hunknown hnoted =>
    cases hf
    cases hstyle
    exact ⟨hshown, hunknown, hnoted⟩

theorem eq_or_unregistered (h : Refined capability bench strict lenient) :
    strict = lenient ∨ ∃ f style, strict.1 = .error f ∧ f.unregistered? = some style := by
  cases h with
  | same r _ => exact .inl rfl
  | parted offset source style r after hshown hunknown hnoted => exact .inr ⟨_, style, rfl, rfl⟩

end Refined

/-- A strict step, and the same step taken leniently where there is a fallback. -/
structure Refines (capability : Capability) (strict lenient : Rendering α) : Prop where
  noting : Noting lenient
  outcome : ∀ bench : Workbench, bench.registry.fallback.isSome →
    Refined capability bench (perform strict bench) (perform lenient bench)

/-- The style that a strict step fails for is one that the fallback stands in for. -/
theorem Refines.mem_standIns {capability : Capability} {strict lenient : Rendering α}
    (h : Refines capability strict lenient) (hsteady : Steady strict)
    (hfallback : bench.registry.fallback.isSome) {f : Failure} {style : Text}
    (hf : (perform strict bench).1 = .error f) (hstyle : f.unregistered? = some style) :
    style ∈ standIns lenient bench := by
  have houtcome := h.outcome bench.unwarned hfallback
  have hresult := hsteady.result bench.unwarned bench bench.unwarned_alike
  rw [hf] at hresult
  exact (houtcome.of_unregistered hresult hstyle).2.2

section

variable {capability : Capability}

theorem refines_pure (a : α) : Refines capability (pure a : Rendering α) (pure a) where
  noting := noting_pure a
  outcome bench _ := .same (.ok a) fun f hf => by cases hf

theorem refines_throw {f : Failure} (h : f.unregistered? = none) :
    Refines capability (throw f : Rendering α) (throw f) where
  noting := noting_throw f
  outcome bench _ := .same (.error f) fun f' hf => by
    cases hf
    exact h

theorem refines_bind {m m' : Rendering α} {k k' : α → Rendering β}
    (hm : Refines capability m m') (hk : ∀ a, Refines capability (k a) (k' a)) :
    Refines capability (m >>= k) (m' >>= k') where
  noting := noting_bind hm.noting fun a => (hk a).noting
  outcome bench hfallback := by
    have houtcome := hm.outcome bench hfallback
    rw [perform_bind, perform_bind]
    generalize perform m bench = r, perform m' bench = r' at houtcome ⊢
    cases houtcome with
    | same r h =>
      cases r with
      | ok a => exact (hk a).outcome bench hfallback
      | error f =>
        refine .same (.error f) fun f' hf => ?_
        cases hf
        exact h f rfl
    | parted offset source style r after hshown hunknown hnoted =>
      cases r with
      | ok a =>
        -- what the lenient step still does keeps the note
        have hnoted := ((hk a).noting.warned after style).mpr (.inl hnoted)
        exact .parted offset source style _ _ hshown hunknown hnoted
      | error f => exact .parted offset source style _ _ hshown hunknown hnoted

theorem refines_evaluate (c : Context) (path : Path) (place : Place) :
    Refines capability (evaluate c path place) (evaluate c path place) := by
  unfold evaluate Context.evaluate
  cases c.lookUp path with
  | ok v => exact refines_pure v
  | error fault => exact refines_throw rfl

end

theorem refines_applyStyle (o : Options) (place : Place) (style t : Text) :
    Refines o.capability (applyStyle o.strictly place style t)
      (applyStyle o.leniently place style t) where
  noting := noting_applyStyle o.leniently place style t
  outcome bench hfallback := by
    by_cases hknown : o.capability ≠ .none → Named.find? style bench.registry.styles ≠ none
    · obtain ⟨f, hf⟩ := Registry.resolve?_known hknown
      have hresult (o' : Options) (ho' : o'.capability = o.capability) :
          perform (applyStyle o' place style t) bench = (.ok (f t), bench) := by
        rw [perform_applyStyle, ho', hf]
        simp
      rw [hresult o.strictly rfl, hresult o.leniently rfl]
      refine .same _ fun f' hf' => ?_
      cases hf'
    · obtain ⟨hshown, hunknown⟩ := Classical.not_imp.mp hknown
      have hunknown : Named.find? style bench.registry.styles = none := not_not.mp hunknown
      have hnoted : style ∈
          (perform (applyStyle o.leniently place style t) bench).2.registry.warned := by
        rw [registry_applyStyle, Registry.mem_warned_resolve?]
        exact .inr ⟨⟨hshown, rfl, hfallback, hunknown⟩, rfl⟩
      have hstrict := Registry.resolve?_strict hshown hunknown
      rw [perform_applyStyle o.strictly, show o.strictly.capability = o.capability from rfl,
        show o.strictly.strict = true from rfl, hstrict]
      simp only [List.append_nil]
      exact .parted _ _ style _ _ hshown hunknown hnoted

/-- Strictness only matters where a style is looked up. -/
theorem paired_refines (o : Options) (place : Place) :
    Paired o.strictly o.leniently place fun _ m m' => Refines o.capability m m' where
  words := rfl
  rules := rfl
  pure := refines_pure
  throw hf := by
    cases hf with
    | data f => exact refines_throw rfl
    | option f => exact refines_throw rfl
    | mapping => exact refines_throw rfl
  bind := refines_bind
  style := refines_applyStyle o place

/-- **A template that is rendered strictly, and the same one rendered leniently.** -/
theorem template_refines (o : Options) (c : Context) (t : Template) :
    Refines o.capability (template o.strictly c t) (template o.leniently c t) := by
  rw [template_eq, template_eq]
  exact Paired.segments (paired_refines o) (fun path place => refines_evaluate c path place)
    t.segments

/-! ## 3. Templates -/

/-- **Strict rendering refines lenient rendering.**  On a workbench whose registry has a fallback:

* A text that is rendered strictly is rendered leniently too, and nothing is noted.
* So is a failure, unless it is that a style is not registered.
* If a style is not registered, styles are shown, and leniently the fallback stands in for the
  style and its name is noted.
* The names noted are those noted before, and those of the styles that the fallback stands in for.
* If it stands in for none, both renderings are the same. -/
theorem strict_refines_lenient (o : Options) (c : Context) (t : Template) {bench : Workbench}
    (hfallback : bench.registry.fallback.isSome) :
    let strict := perform (template o.strictly c t) bench
    let lenient := perform (template o.leniently c t) bench
    let stoodIn := standIns (template o.leniently c t) bench
    (∀ text, strict.1 = .ok text → lenient = (.ok text, bench)) ∧
    (∀ f, strict.1 = .error f → f.unregistered? = none → lenient = (.error f, bench)) ∧
    (∀ f style, strict.1 = .error f → f.unregistered? = some style →
      o.capability ≠ .none ∧ bench.registry.contains style = false ∧
        style ∈ stoodIn ∧ style ∈ lenient.2.registry.warned) ∧
    (∀ name, name ∈ lenient.2.registry.warned ↔ name ∈ bench.registry.warned ∨ name ∈ stoodIn) ∧
    (stoodIn = [] → strict = lenient) := by
  intro strict lenient stoodIn
  have hrefines := template_refines o c t
  have hsteady := (closed_steady o.strictly).template c t
  have houtcome : Refined o.capability bench strict lenient := hrefines.outcome bench hfallback
  have hwarned (name : Text) :
      name ∈ lenient.2.registry.warned ↔ name ∈ bench.registry.warned ∨ name ∈ stoodIn :=
    hrefines.noting.warned bench name
  have hstood {f : Failure} {style : Text} (hf : strict.1 = .error f)
      (hstyle : f.unregistered? = some style) : style ∈ stoodIn :=
    hrefines.mem_standIns hsteady hfallback hf hstyle
  refine ⟨fun text => houtcome.eq_of_ok, fun f => houtcome.eq_of_error, ?_, hwarned, ?_⟩
  · intro f style hf hstyle
    obtain ⟨hshown, hunknown, hnoted⟩ := houtcome.of_unregistered hf hstyle
    have hcontains : bench.registry.contains style = false := by
      rw [Registry.contains, Named.contains, hunknown]
      rfl
    exact ⟨hshown, hcontains, hstood hf hstyle, hnoted⟩
  · intro hempty
    rcases houtcome.eq_or_unregistered with heq | ⟨f, style, hf, hstyle⟩
    · exact heq
    · have hmem : style ∈ stoodIn := hstood hf hstyle
      rw [hempty] at hmem
      cases hmem

/-- A list with an item in a registered style and one in a style that is not, and an index that is
out of its range: strictly the list fails, leniently the index. -/
theorem unknown_style_before_index :
    let o : Options := { Options.standard with capability := .ascii }
    let items : List Value :=
      [.scalar (.text ['a']) (some "code".toList), .scalar (.truth true) none]
    let c : Context := ⟨[(['x'], .sequence items (some "gone".toList))]⟩
    let t : Template := ⟨"\x7bx\x7d\x7bx[2]\x7d".toList,
      [.expression ['x'] ⟨['x'], [], none⟩ ⟨1, 1, 2⟩,
        .expression "x[2]".toList ⟨['x'], [.index 2 5], none⟩ ⟨4, 1, 5⟩]⟩
    let bench : Workbench := ⟨Registry.initial, []⟩
    bench.registry.fallback.isSome ∧
      (perform (template o.strictly c t) bench).1 = .error (.template
        ⟨1, ['x'], .rendering (.unregistered "gone".toList)⟩) ∧
      (perform (template o.leniently c t) bench).1 = .error (.template
        ⟨4, "x[2]".toList, .reference (.outOfRange 2 2)⟩) ∧
      "gone".toList ∈ standIns (template o.leniently c t) bench := by
  intro o items c t bench
  have hfallback : bench.registry.fallback.isSome := rfl
  have hstrict : (perform (template o.strictly c t) bench).1 = .error (.template
      ⟨1, ['x'], .rendering (.unregistered "gone".toList)⟩) := rfl
  obtain ⟨-, -, hunregistered, -⟩ := strict_refines_lenient o c t hfallback
  obtain ⟨-, -, hstood, -⟩ := hunregistered _ _ hstrict rfl
  exact ⟨hfallback, hstrict, rfl, hstood⟩

end Rendering

end Phrasing
