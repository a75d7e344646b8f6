/-
# What an accepted configuration can do to a text

A configuration is read before any text is.  What it says about enumerations is kept as it is
given, and is found fault with only where a list needs it.  All else is either refused at once or
harmless: rendering under an accepted configuration fails on what a template says, on a scalar of
the context for which there are no words, or on the rules of enumeration.

So rendering is safe under an accepted configuration if and only if these rules can be used for
lists of any length (`safe_iff_usable`).  Nothing is assumed of the parts of numbers that a summary
may ask for.
-/
import Phrasing.Configuration.Basic
import Phrasing.Message
import Phrasing.Proofs.Enumeration.Usable
import Phrasing.Proofs.Rendering.Steps

namespace Phrasing

/-! ## 1. Scalars in a context -/

/-- Why there are no words for a scalar: a number has too many digits, or a path is given in
bytes. -/
def Scalar.fault? : Scalar → Option DataFault
  | integer n => if Number.isWritable n then none else some (.number .tooLongToWrite)
  | bytes _ => some (.notAScalar "bytes")
  | _ => none

theorem Wording.fault_of_write {w : Wording} (hw : w.number = none) {content : Scalar}
    {f : DataFault} (h : w.write content = .error f) : content.fault? = some f := by
  cases content with
  | integer n =>
    simp only [write, writeNumber, hw, Numeral.text, Number.decimal?] at h
    split at h
    · cases h
    · next hn =>
      cases h
      rw [Scalar.fault?, if_neg hn]
  | real x =>
    simp only [write, writeNumber, hw, Numeral.text] at h
    cases h
  | bytes octets =>
    cases h
    rfl
  | _ => cases h

namespace Value

mutual

/-- The contents of all scalars in a value. -/
def contents : Value → List Scalar
  | scalar content _ => [content]
  | sequence items _ => itemContents items
  | mapping fields => fieldContents fields

/-- The contents of all scalars in items. -/
def itemContents : List Value → List Scalar
  | [] => []
  | v :: vs => v.contents ++ itemContents vs

/-- The contents of all scalars in fields. -/
def fieldContents : List (Text × Value) → List Scalar
  | [] => []
  | (_, v) :: fields => v.contents ++ fieldContents fields

end

theorem contents_subset_of_getElem? {items : List Value} {n : Nat} {v : Value}
    (hv : items[n]? = some v) : v.contents ⊆ itemContents items := by
  induction items generalizing n with
  | nil => cases hv
  | cons w items ih =>
    rw [itemContents]
    cases n with
    | zero =>
      cases hv
      exact List.subset_append_left _ _
    | succ n => exact List.subset_append_of_subset_right _ (ih hv)

theorem contents_subset_of_find? {fields : Named Value} {name : Text} {v : Value}
    (hv : Named.find? name fields = some v) : v.contents ⊆ fieldContents fields := by
  induction fields with
  | nil => cases hv
  | cons field fields ih =>
    obtain ⟨key, w⟩ := field
    rw [fieldContents]
    rw [Named.find?] at hv
    split at hv
    · cases hv
      exact List.subset_append_left _ _
    · exact List.subset_append_of_subset_right _ (ih hv)

/-- A part of a value has no other scalars than the value. -/
theorem contents_subset_of_select {v w : Value} {a : Accessor} (hw : v.select a = .ok w) :
    w.contents ⊆ v.contents := by
  cases a with
  | index n offset =>
    cases v with
    | sequence items style =>
      cases n with
      | ofNat n =>
        simp only [select, itemAt?] at hw
        split at hw
        · next hitem =>
          cases hw
          exact contents_subset_of_getElem? hitem
        · cases hw
      | negSucc n => cases hw
    | _ => cases hw
  | field name offset =>
    cases v with
    | mapping fields =>
      simp only [select] at hw
      split at hw
      · next hfield =>
        cases hw
        exact contents_subset_of_find? hfield
      · cases hw
    | _ => cases hw

theorem contents_subset_of_follow {v w : Value} {as : List Accessor} (hw : v.follow as = .ok w) :
    w.contents ⊆ v.contents := by
  induction as generalizing v with
  | nil =>
    cases hw
    exact List.Subset.refl _
  | cons a as ih =>
    rw [follow] at hw
    split at hw
    · cases hw
    · next hselect => exact List.Subset.trans (ih hw) (contents_subset_of_select hselect)

end Value

namespace Context

/-- The contents of all scalars in a context. -/
def contents (c : Context) : List Scalar := Value.fieldContents c.values

theorem contents_subset_of_evaluate {c : Context} {p : Path} {source : Text} {offset : Int}
    {v : Value} (hv : c.evaluate p source offset = .ok v) : v.contents ⊆ c.contents := by
  unfold evaluate at hv
  split at hv
  · next w hw =>
    cases hv
    unfold lookUp at hw
    split at hw
    · cases hw
    · next hfind =>
      exact List.Subset.trans (Value.contents_subset_of_follow hw)
        (Value.contents_subset_of_find? hfind)
  · cases hv

end Context

namespace Rendering

/-! ## 2. How a text can fail -/

section

variable {P : Failure → Prop}

theorem failsWith_applyStyle (h : ∀ e, P (.template e)) (o : Options) (place : Place)
    (style t : Text) : FailsWith P (applyStyle o place style t) := by
  intro bench f hf
  rw [perform_applyStyle] at hf
  split at hf
  · cases hf
  · cases hf
    exact h _

theorem failsWith_applyStyle? (h : ∀ e, P (.template e)) (o : Options) (place : Place)
    (style : Option Text) (t : Text) : FailsWith P (applyStyle? o place style t) := by
  unfold applyStyle?
  split
  · exact failsWith_applyStyle h o place _ t
  · exact failsWith_pure t

end

/-- The failures that rules of enumeration and some scalars leave possible. -/
def Possible (rules : Enumeration) (contents : List Scalar) : Failure → Prop
  | .template _ => True
  | .data f => ∃ content ∈ contents, content.fault? = some f
  | .option (.enumeration _) => ¬ rules.Usable
  | _ => False

theorem Possible.cases {rules : Enumeration} {contents : List Scalar} {f : Failure}
    (h : Possible rules contents f) :
    (∃ e, f = .template e) ∨
      (∃ content ∈ contents, ∃ fault, content.fault? = some fault ∧ f = .data fault) ∨
      (∃ fault, f = .option (.enumeration fault)) ∧ ¬ rules.Usable := by
  match f with
  | .template e => exact .inl ⟨e, rfl⟩
  | .data fault =>
    obtain ⟨content, hmem, hfault⟩ := h
    exact .inr (.inl ⟨content, hmem, fault, hfault, rfl⟩)
  | .option (.enumeration fault) => exact .inr (.inr ⟨⟨fault, rfl⟩, h⟩)

variable {o : Options} {contents : List Scalar}

theorem failsWith_wording (ho : o.wording.number = none) {content : Scalar}
    (h : content ∈ contents) : FailsWith (Possible o.enumeration contents) (wording o content) := by
  unfold wording
  split
  · exact failsWith_pure _
  · next f hf => exact failsWith_throw ⟨content, h, Wording.fault_of_write ho hf⟩

theorem failsWith_enumerate (rules : Enumeration) (ts : List Text) :
    FailsWith (Possible rules contents) (enumerate rules ts) := by
  unfold enumerate
  split
  · exact failsWith_pure _
  · next f hf =>
    refine failsWith_throw fun husable => ?_
    obtain ⟨t, ht⟩ := husable.exists_write ts
    rw [hf] at ht
    cases ht

theorem failsWith_scalar (ho : o.wording.number = none) {content : Scalar}
    (h : content ∈ contents) (place : Place) (requested own : Option Text) :
    FailsWith (Possible o.enumeration contents) (scalar o place requested content own) := by
  have htemplate (e : TemplateError) : Possible o.enumeration contents (.template e) := trivial
  refine (failsWith_wording ho h).bind fun t => ?_
  refine (failsWith_applyStyle? htemplate o place own t).bind fun t' => ?_
  split
  · exact failsWith_pure t'
  · exact failsWith_applyStyle? htemplate o place requested t'

mutual

theorem failsWith_value (ho : o.wording.number = none) (place : Place)
    (requested : Option Text) :
    ∀ v : Value, v.contents ⊆ contents →
      FailsWith (Possible o.enumeration contents) (value o place requested v)
  | .scalar _ own, h => failsWith_scalar ho (h List.mem_cons_self) place requested own
  | .sequence vs own, h =>
    (failsWith_items ho place (inherited own requested) vs h).bind fun ts =>
      failsWith_enumerate o.enumeration ts
  | .mapping _, _ => failsWith_throw trivial

theorem failsWith_items (ho : o.wording.number = none) (place : Place) (style : Option Text) :
    ∀ vs : List Value, Value.itemContents vs ⊆ contents →
      FailsWith (Possible o.enumeration contents) (items o place style vs)
  | [], _ => failsWith_pure []
  | v :: vs, h => by
    obtain ⟨hv, hvs⟩ := List.append_subset.mp h
    refine (failsWith_value ho place _ v hv).bind fun t => ?_
    exact (failsWith_items ho place style vs hvs).bind fun ts => failsWith_pure _

end

theorem failsWith_segment (ho : o.wording.number = none) (c : Context) (s : Segment) :
    FailsWith (Possible o.enumeration c.contents) (segment o c s) := by
  cases s with
  | literal t offset => exact failsWith_pure t
  | expression source path position =>
    rw [segment]
    unfold evaluate
    split
    · next v hv =>
      rw [pure_bind]
      exact failsWith_value ho _ _ v (Context.contents_subset_of_evaluate hv)
    · intro bench f hf
      cases hf
      trivial

/-- **A template fails** on what it says, on a scalar in its context, or on the rules of
enumeration. -/
theorem failsWith_template (ho : o.wording.number = none) (c : Context) (t : Template) :
    FailsWith (Possible o.enumeration c.contents) (template o c t) := by
  rw [template_eq]
  induction t.segments with
  | nil => exact failsWith_pure []
  | cons s ss ih =>
    exact (failsWith_segment ho c s).bind fun t => ih.bind fun ts => failsWith_pure _

/-! ## 3. A list that shows it -/

/-- Texts as the items of a list. -/
def textItems (ts : List Text) : List Value := ts.map fun t => .scalar (.text t) none

theorem ofItems_texts (ts : List Text) :
    Value.ofItems (ts.map .text) = .ok (textItems ts) := by
  induction ts with
  | nil => rfl
  | cons t ts ih =>
    rw [List.map_cons, Value.ofItems, ih]
    rfl

/-- Texts without styles are rendered as they are. -/
theorem items_texts (ho : o.wording.text = none) (place : Place) (ts : List Text) :
    items o place none (textItems ts) = pure ts := by
  induction ts with
  | nil => rfl
  | cons t ts ih =>
    have hvalue : value o place (requestedOf (.scalar (.text t) none) none)
        (.scalar (.text t) none) = pure t := by
      simp only [value, scalar, wording, Wording.write, Wording.writeText, ho]
      rfl
    change (do
      let t' ← value o place (requestedOf (.scalar (.text t) none) none) (.scalar (.text t) none)
      let ts' ← items o place none (textItems ts)
      return t' :: ts') = _
    rw [hvalue, ih]
    rfl

/-- The context in which `a` is a list of texts. -/
def listOf (ts : List Text) : Data := .mapping [(.text ['a'], .list (ts.map .text))]

theorem contextOf_listOf (ts : List Text) :
    Context.ofData (listOf ts) [] = .ok ⟨[(['a'], .sequence (textItems ts) none)]⟩ := by
  change Context.ofEntries [(.text ['a'], .list (ts.map .text))] = _
  simp only [Context.ofEntries, Context.addEntries, Value.ofData, ofItems_texts]
  rfl

/-- The template that is only the name `a`. -/
def nameTemplate : Template :=
  ⟨"\x7ba\x7d".toList, [.expression ['a'] ⟨['a'], [], none⟩ ⟨1, 1, 2⟩]⟩

theorem parse_nameTemplate : Template.parse .braces nameTemplate.source = .ok nameTemplate := by
  decide +kernel

/-- A template can show any list to the rules of enumeration. -/
theorem template_nameTemplate (ho : o.wording.text = none) (ts : List Text) :
    template o ⟨[(['a'], .sequence (textItems ts) none)]⟩ nameTemplate =
      enumerate o.enumeration ts := by
  have hvalue : value o ⟨1, ['a']⟩ none (.sequence (textItems ts) none) =
      enumerate o.enumeration ts := by
    change items o ⟨1, ['a']⟩ none (textItems ts) >>= enumerate o.enumeration = _
    rw [items_texts ho, pure_bind]
  rw [template_eq]
  change (do
    let t ← value o ⟨1, ['a']⟩ none (.sequence (textItems ts) none)
    return t ++ []) = _
  rw [hvalue]
  simp only [List.append_nil, bind_pure]

theorem render_listOf (ho : o.wording.text = none) (ts : List Text) :
    Message.render o nameTemplate.source (listOf ts) = enumerate o.enumeration ts := by
  rw [Message.render, parse, parse_nameTemplate, pure_bind, contextOf, contextOf_listOf, pure_bind]
  exact template_nameTemplate ho ts

end Rendering

namespace Configuration

variable {origin : Text} {entries : List (Data × Data)} {c : Configuration}

/-- Scalars have no writers of their own under an accepted configuration. -/
theorem wording_of_ofEntries (h : ofEntries origin entries = .ok c) :
    c.options.wording.number = none ∧ c.options.wording.text = none := by
  simp only [ofEntries, mapError_eq_ok, readEntries, bind_eq_ok] at h
  obtain ⟨-, -, -, -, o, ho, styles, -, hc⟩ := h
  cases hc
  simp only [Options.ofEntries, bind_eq_ok] at ho
  obtain ⟨_, -, _, -, _, -, wording, hwording, ho⟩ := ho
  cases ho
  unfold Options.readSection Options.readWording at hwording
  split at hwording
  · split at hwording <;> cases hwording
    exact ⟨rfl, rfl⟩
  · cases hwording
    exact ⟨rfl, rfl⟩

/-- The configuration where numbers have other parts. -/
def within (c : Configuration) (parts : Pattern.Parts) : Configuration :=
  { c with options := { c.options with enumeration := c.options.enumeration.within parts } }

/-- Whatever is rendered under the configuration fails, if at all, on what its template says, or on
a scalar of its context for which there are no words. -/
def Safe (c : Configuration) : Prop :=
  ∀ d source t data explicit context, Template.parse d source = .ok t →
    Context.ofData data explicit = .ok context → ∀ bench f,
      (Rendering.perform (Rendering.template c.options context t) bench).1 = .error f →
        (∃ e, f = .template e) ∨
          ∃ content ∈ context.contents, ∃ fault, content.fault? = some fault ∧ f = .data fault

/-- Rules that fail for some list make a template fail, whatever is registered. -/
theorem usable_of_safe (hwording : c.options.wording.text = none) (h : c.Safe) :
    c.options.enumeration.Usable := by
  refine Enumeration.usable_iff.mpr fun items => ?_
  cases hwrite : c.options.enumeration.write items with
  | ok t => exact ⟨t, rfl⟩
  | error f =>
    have hfails : (Rendering.perform (Rendering.template c.options
        ⟨[(['a'], .sequence (Rendering.textItems items) none)]⟩ Rendering.nameTemplate)
          ⟨Registry.initial, []⟩).1 = .error (.option (.enumeration f)) := by
      rw [Rendering.template_nameTemplate hwording, Rendering.enumerate, hwrite]
      rfl
    rcases h .braces _ _ _ [] _ Rendering.parse_nameTemplate (Rendering.contextOf_listOf items) _ _
      hfails with ⟨e, he⟩ | ⟨content, -, fault, -, hdata⟩
    · cases he
    · cases hdata

/-- **An accepted configuration is safe**, whatever parts numbers have, if and only if its rules of
enumeration can be used for lists of any length.  If they cannot, they alone are to blame for what
else fails. -/
theorem safe_iff_usable (h : ofEntries origin entries = .ok c) (parts : Pattern.Parts) :
    let used := c.within parts
    (used.Safe ↔ used.options.enumeration.Usable) ∧
      ∀ t context bench f,
        (Rendering.perform (Rendering.template used.options context t) bench).1 = .error f →
          (∃ e, f = .template e) ∨
            (∃ content ∈ context.contents, ∃ fault,
              content.fault? = some fault ∧ f = .data fault) ∨
            ∃ fault, f = .option (.enumeration fault) := by
  intro used
  obtain ⟨hnumber, htext⟩ := wording_of_ofEntries h
  have hfails {t context bench f}
      (hf : (Rendering.perform (Rendering.template used.options context t) bench).1 = .error f) :=
    (Rendering.failsWith_template (o := used.options) hnumber context t bench f hf).cases
  refine ⟨⟨usable_of_safe htext, fun husable => ?_⟩, fun t context bench f hf => ?_⟩
  · intro d source t data explicit context _ _ bench f hf
    rcases hfails hf with htemplate | hdata | ⟨-, hunusable⟩
    · exact .inl htemplate
    · exact .inr hdata
    · exact absurd husable hunusable
  · exact (hfails hf).imp_right fun hother => hother.imp_right And.left

/-- Semicolons between the items, and the summary that is used when none is given. -/
theorem safe_semicolon :
    let c : Configuration :=
      ⟨{ Options.standard with
        enumeration := { Enumeration.standard with
          separator := .text "; ".toList, most := .whole 2 (by decide) } }, []⟩
    ofEntries "<config>".toList [(.text "collapse".toList, .mapping
      [(.text "separator".toList, .text "; ".toList), (.text "max_items".toList, .integer 2)])] =
        .ok c ∧ ∀ parts, (c.within parts).Safe := by
  intro c
  have haccepted : ofEntries "<config>".toList [(.text "collapse".toList, .mapping
      [(.text "separator".toList, .text "; ".toList),
        (.text "max_items".toList, .integer 2)])] = .ok c := rfl
  refine ⟨haccepted, fun parts => (safe_iff_usable haccepted parts).1.mpr ?_⟩
  exact
    { pair := rfl
      separator := fun _ => ⟨_, rfl⟩
      lastSeparator := fun _ => rfl
      whole := fun _ => rfl
      moreFormat := fun _ => ⟨_, rfl, fun n _ => ⟨_, Enumeration.fill_moreFormat parts n⟩⟩ }

/-- A number is accepted as a separator, and no list of three can be rendered with it. -/
theorem number_separator_fails :
    let c : Configuration :=
      ⟨{ Options.standard with
        enumeration := { Enumeration.standard with separator := .integer 3 } }, []⟩
    ofEntries "<config>".toList [(.text "collapse".toList, .mapping
      [(.text "separator".toList, .integer 3)])] = .ok c ∧
      ∀ bench, (Rendering.perform (Message.render c.options "\x7ba\x7d".toList
          (.mapping [(.text ['a'], .list [.text ['x'], .text ['y'], .text ['z']])])) bench).1 =
        .error (.option (.enumeration (.notAText "int" "join"))) := by
  intro c
  refine ⟨rfl, fun bench => ?_⟩
  have hrender := Rendering.render_listOf (o := c.options) rfl [['x'], ['y'], ['z']]
  exact congrArg (fun m => (Rendering.perform m bench).1) hrender

end Configuration

end Phrasing
