/-
# Sorted sequences

The elements of a sequence are styled before they are enumerated, and an enumeration that sorts
compares the texts that it is given.  So a sorted sequence stands in the order of its elements as
they are styled (`value_sorted`), and markers and escape sequences take part in the comparison.  In
ASCII, `a` comes before `a b` as plain text, and behind it when both are strong, because a space
comes before a star (`value_sorted_strong`).

Plain text is in the order of the wordings.  The others are as well where styling does not change how
two elements compare.  That is so if all of them are in one style, and no wording is the beginning of
another one (`Uniform`).  They are put between the same two texts then, so the first difference of two
elements is one of their wordings.
-/
import Phrasing.Proofs.Enumeration.Limit
import Phrasing.Proofs.Rendering.Nearest
import Phrasing.Proofs.Rendering.Plain
import Phrasing.Proofs.Style.Nesting

namespace Phrasing

/-! ## 1. Sorting by texts -/

namespace Text

variable {α : Type}

/-- Things in the order of the texts they have; those with the same text stay as they are. -/
def sortOn (key : α → Text) (as : List α) : List α := as.mergeSort fun a b => le (key a) (key b)

theorem sortOn_perm (key : α → Text) (as : List α) : (sortOn key as).Perm as :=
  List.mergeSort_perm as _

/-- The texts of the things in order are the texts in order. -/
theorem map_sortOn (key : α → Text) (as : List α) :
    (sortOn key as).map key = sort (as.map key) :=
  List.map_mergeSort fun _ _ _ _ => rfl

theorem sort_pair (s t : Text) : sort [s, t] = if le s t then [s, t] else [t, s] := by
  simp [sort, List.mergeSort, List.cons_merge_cons]

/-- Only the comparisons count. -/
theorem sortOn_congr {key key' : α → Text} {as : List α}
    (h : ∀ a ∈ as, ∀ b ∈ as, le (key a) (key b) = le (key' a) (key' b)) :
    sortOn key as = sortOn key' as := by
  have hmap := List.map_mergeSort (f := id) (s := fun a b => le (key' a) (key' b)) h
  rwa [List.map_id, List.map_id] at hmap

/-- What stands before both of two texts does not count. -/
theorem le_append_left (before a b : Text) : le (before ++ a) (before ++ b) = le a b := by
  induction before with
  | nil => rfl
  | cons c before ih => simp [le, ih]

/-- Nor does what stands behind both, unless one is the beginning of the other. -/
theorem le_append_right {a b : Text} (after : Text) (hab : a <+: b → a = b)
    (hba : b <+: a → b = a) : le (a ++ after) (b ++ after) = le a b := by
  induction a generalizing b with
  | nil => rw [← hab List.nil_prefix, le_refl, le_refl]
  | cons x a ih =>
    cases b with
    | nil => cases hba List.nil_prefix
    | cons y b =>
      rw [List.cons_append, List.cons_append, le, le]
      by_cases hxy : x = y
      · subst hxy
        have htail := ih (fun h => (List.cons.inj (hab (List.cons_prefix_cons.mpr ⟨rfl, h⟩))).2)
          fun h => (List.cons.inj (hba (List.cons_prefix_cons.mpr ⟨rfl, h⟩))).2
        rw [htail]
      · rw [if_neg hxy, if_neg hxy]

end Text

/-- The same options, but for sorting. -/
def Options.unsorted (o : Options) : Options := { o with enumeration := o.enumeration.unsorted }

namespace Rendering

/-! ## 2. The elements of a sequence -/

section

variable (o : Options) (place : Place) (style : Option Text) (bench : Workbench)

/-- The outcome of an element of a sequence that hands a style down. -/
def element (v : Value) : Except Failure Text :=
  (perform (value o place (requestedOf v style) v) bench).1

/-- The text of an element, if it has one. -/
def elementText (v : Value) : Text := (element o place style bench v).toOption.getD []

variable {o place style bench}

theorem element_eq_ok {v : Value} {t : Text} (h : element o place style bench v = .ok t) :
    element o place style bench v = .ok (elementText o place style bench v) := by
  rw [elementText, h]
  rfl

/-- The elements are rendered one by one, and each leaves the styles as they are. -/
theorem perform_items_cons_fst (v : Value) (vs : List Value) :
    (perform (items o place style (v :: vs)) bench).1 =
      (element o place style bench v).bind fun t =>
        (perform (items o place style vs) bench).1.map (t :: ·) := by
  rw [items]
  exact ((closed_steady o).value place _ v).perform_both_fst
    ((closed_steady o).items place style vs) (· :: ·) bench

theorem perform_items_of_forall {vs : List Value} {text : Value → Text}
    (h : ∀ v ∈ vs, element o place style bench v = .ok (text v)) :
    (perform (items o place style vs) bench).1 = .ok (vs.map text) := by
  induction vs with
  | nil => rfl
  | cons v vs ih =>
    obtain ⟨hv, hvs⟩ := List.forall_mem_cons.mp h
    rw [perform_items_cons_fst, hv, ih hvs]
    rfl

/-- Either all elements have texts, or they fail with one of them. -/
theorem items_fail_or_forall (vs : List Value) :
    (∃ v ∈ vs, ∃ f, element o place style bench v = .error f ∧
      (perform (items o place style vs) bench).1 = .error f) ∨
    ∀ v ∈ vs, element o place style bench v = .ok (elementText o place style bench v) := by
  induction vs with
  | nil => exact .inr (List.forall_mem_nil _)
  | cons v vs ih =>
    rw [perform_items_cons_fst]
    cases hv : element o place style bench v with
    | error f => exact .inl ⟨v, List.mem_cons_self, f, hv, rfl⟩
    | ok t =>
      rcases ih with ⟨w, hw, f, hf, hfails⟩ | hvs
      · exact .inl ⟨w, List.mem_cons_of_mem v hw, f, hf, by rw [hfails]; rfl⟩
      · exact .inr (List.forall_mem_cons.mpr ⟨element_eq_ok hv, hvs⟩)

theorem perform_wording_fst (content : Scalar) :
    (perform (wording o content) bench).1 = (o.wording.write content).mapError .data := by
  rw [wording]
  cases o.wording.write content <;> rfl

/-- As plain text, a scalar is its wording. -/
theorem element_plain (content : Scalar) (tag : Option Text) :
    element o.plain place style bench (.scalar content tag) =
      (o.wording.write content).mapError .data := by
  rw [element, value, scalar_plain, perform_wording_fst]
  rfl

/-- An element in a style, its own or else the one that is handed down. -/
theorem scalar_of_named {tag : Option Text} {name : Text}
    (hname : (named tag).or (named style) = some name) (content : Scalar) :
    scalar o place (requestedOf (.scalar content tag) style) content tag =
      wording o content >>= applyStyle o place name := by
  have hstyle : named ((named tag).or style) = some name := by rw [named_or, hname]
  rw [scalar_requestedOf]
  exact bind_congr fun t => applyStyle?_of_named o place hstyle t

/-- So an element in a style that is registered is the plain element in that style. -/
theorem element_of_style {tag : Option Text} {name : Text} {s : Style}
    (hname : (named tag).or (named style) = some name)
    (hfind : Named.find? name bench.registry.styles = some s) (content : Scalar) :
    element o place style bench (.scalar content tag) =
      (element o.plain place style bench (.scalar content tag)).map (s.apply o.capability) := by
  have hwording : Steady (wording o content) := ((closed_steady o).paired place).wording content
  have happly (t : Text) :
      (perform (applyStyle o place name t) bench).1 = .ok (s.apply o.capability t) := by
    have hresolve := Registry.resolve?_of_find? hfind o.capability o.strict
    rw [perform_applyStyle]
    generalize bench.registry.resolve? o.capability o.strict name = resolved at hresolve
    obtain ⟨f, registry, notices⟩ := resolved
    cases hresolve
    rfl
  rw [element_plain, element, value, scalar_of_named hname, hwording.perform_bind_fst
    (steady_applyStyle o place name), perform_wording_fst, funext happly]
  cases (o.wording.write content).mapError Failure.data <;> rfl

theorem elementText_of_style {content : Scalar} {tag : Option Text} {name t : Text} {s : Style}
    (hname : (named tag).or (named style) = some name)
    (hfind : Named.find? name bench.registry.styles = some s)
    (hok : element o place style bench (.scalar content tag) = .ok t) :
    elementText o place style bench (.scalar content tag) =
      s.apply o.capability (elementText o.plain place style bench (.scalar content tag)) := by
  rw [element_of_style hname hfind] at hok
  rw [elementText, elementText, element_of_style hname hfind]
  cases hplain : element o.plain place style bench (.scalar content tag) with
  | error f =>
    rw [hplain] at hok
    cases hok
  | ok t => rfl

end

/-- The texts of the elements are enumerated on any workbench alike. -/
theorem perform_sequence_fst (o : Options) (place : Place) (requested own : Option Text)
    (bench : Workbench) (vs : List Value) :
    (perform (value o place requested (.sequence vs own)) bench).1 =
      (perform (items o place (inherited own requested) vs) bench).1.bind fun ts =>
        (perform (enumerate o.enumeration ts) bench).1 := by
  rw [value]
  exact ((closed_steady o).items place _ vs).perform_bind_fst
    (fun ts => (closed_steady o).enumerate o.enumeration ts) bench

/-- A sorted sequence enumerates the texts of its elements in order. -/
theorem perform_sorted_fst {o : Options} (hsort : o.enumeration.sort = true) (place : Place)
    (requested own : Option Text) (bench : Workbench) {vs : List Value} {text : Value → Text}
    (h : ∀ v ∈ vs, element o place (inherited own requested) bench v = .ok (text v)) :
    (perform (value o place requested (.sequence vs own)) bench).1 =
      (perform (enumerate o.enumeration.unsorted (Text.sort (vs.map text))) bench).1 := by
  rw [perform_sequence_fst, perform_items_of_forall h, enumerate,
    ← Enumeration.write_sorted hsort]
  rfl

/-- Scalars are the same in a sequence that is not sorted. -/
theorem element_unsorted (o : Options) (place : Place) (style : Option Text) (bench : Workbench)
    (content : Scalar) (tag : Option Text) :
    element o.unsorted place style bench (.scalar content tag) =
      element o place style bench (.scalar content tag) := rfl

/-! ## 3. Elements in one style -/

/-- Scalars that are all in one style of the registry, which is given by markers, and can be told
apart by their wordings: none is the beginning of another one.  Nothing has an escape character. -/
structure Uniform (o : Options) (place : Place) (style : Option Text) (bench : Workbench)
    (vs : List Value) : Prop where
  markers : ∃ name m, Named.find? name bench.registry.styles = some (.markers m) ∧ m.Inert ∧
    ∀ v ∈ vs, (named v.style?).or (named style) = some name
  free : ∀ v ∈ vs, Sgr.escape ∉ elementText o.plain place style bench v
  apart : ∀ v ∈ vs, ∀ w ∈ vs, elementText o.plain place style bench v <+:
    elementText o.plain place style bench w →
    elementText o.plain place style bench v = elementText o.plain place style bench w

/-- Whatever the reader is shown, the wordings of such elements are put between two texts. -/
theorem Uniform.exists_between {o : Options} {place : Place} {style : Option Text}
    {bench : Workbench} {vs : List Value} (h : Uniform o place style bench vs)
    (hscalars : ∀ v ∈ vs, ∃ content tag, v = .scalar content tag)
    (hall : ∀ v ∈ vs, element o place style bench v = .ok (elementText o place style bench v)) :
    ∃ before after, ∀ v ∈ vs, elementText o place style bench v =
      before ++ elementText o.plain place style bench v ++ after := by
  obtain ⟨name, m, hfind, hinert, hname⟩ := h.markers
  obtain ⟨before, after, happly⟩ := hinert.exists_apply o.capability
  refine ⟨before, after, fun v hv => ?_⟩
  obtain ⟨content, tag, rfl⟩ := hscalars v hv
  have hstyle : (named tag).or (named style) = some name := hname _ hv
  rw [elementText_of_style hstyle hfind (hall _ hv), Style.apply_markers]
  exact happly _ (h.free _ hv)

/-- **Such elements are in the order of their wordings.** -/
theorem Uniform.sortOn_eq {o : Options} {place : Place} {style : Option Text}
    {bench : Workbench} {vs : List Value} (h : Uniform o place style bench vs)
    (hscalars : ∀ v ∈ vs, ∃ content tag, v = .scalar content tag)
    (hall : ∀ v ∈ vs, element o place style bench v = .ok (elementText o place style bench v)) :
    Text.sortOn (elementText o place style bench) vs =
      Text.sortOn (elementText o.plain place style bench) vs := by
  obtain ⟨before, after, hbetween⟩ := h.exists_between hscalars hall
  refine Text.sortOn_congr fun v hv w hw => ?_
  rw [hbetween v hv, hbetween w hw, List.append_assoc, List.append_assoc, Text.le_append_left,
    Text.le_append_right after (h.apart v hv w hw) (h.apart w hw v hv)]

/-! ## 4. The order of a sorted sequence -/

/-- **A sorted sequence is in the order of its elements as they are styled.**  As plain text, these
are their wordings.  If one of them cannot be worded or styled, the sequence fails with it.
Otherwise it is rendered like the unsorted sequence of its elements in the order of their styled
texts; so these are shown, and in that order, up to the limit.

The order is that of the wordings wherever styling does not change how two elements compare, and
where all elements are in one style, without escape characters, and no wording is the beginning of
another one. -/
theorem value_sorted {o : Options} (hsort : o.enumeration.sort = true) (place : Place)
    (requested own : Option Text) (bench : Workbench) {vs : List Value}
    (hscalars : ∀ v ∈ vs, ∃ content tag, v = .scalar content tag) :
    let style := inherited own requested
    let text := elementText o place style bench
    let words := elementText o.plain place style bench
    (∀ content tag, element o.plain place style bench (.scalar content tag) =
      (o.wording.write content).mapError .data) ∧
    ((∃ v ∈ vs, ∃ f, element o place style bench v = .error f ∧
        (perform (value o place requested (.sequence vs own)) bench).1 = .error f) ∨
      (∀ v ∈ vs, element o place style bench v = .ok (text v)) ∧
        (perform (value o place requested (.sequence vs own)) bench).1 =
          (perform (value o.unsorted place requested (.sequence (Text.sortOn text vs) own))
            bench).1 ∧
        ((∀ v ∈ vs, ∀ w ∈ vs, Text.le (text v) (text w) = Text.le (words v) (words w)) →
          Text.sortOn text vs = Text.sortOn words vs) ∧
        (Uniform o place style bench vs → Text.sortOn text vs = Text.sortOn words vs)) := by
  intro style text words
  refine ⟨element_plain, ?_⟩
  rcases items_fail_or_forall vs with ⟨v, hv, f, hf, hfails⟩ | hall
  · refine .inl ⟨v, hv, f, hf, ?_⟩
    rw [perform_sequence_fst, hfails]
    rfl
  · refine .inr ⟨hall, ?_, Text.sortOn_congr, fun h => h.sortOn_eq hscalars hall⟩
    have hsame : ∀ v ∈ Text.sortOn text vs,
        element o.unsorted place style bench v = .ok (text v) := by
      intro v hv
      have hmem : v ∈ vs := (Text.sortOn_perm text vs).mem_iff.mp hv
      obtain ⟨content, tag, rfl⟩ := hscalars v hmem
      rw [element_unsorted]
      exact hall _ hmem
    rw [perform_sorted_fst hsort place requested own bench hall, perform_sequence_fst,
      perform_items_of_forall hsame, Text.map_sortOn]
    rfl

/-- Strong elements are in the order of their wordings, if none of these is the beginning of
another one. -/
theorem value_sorted_between_stars :
    let o : Options := { Options.standard with
      capability := .ascii, enumeration := { Enumeration.standard with sort := true } }
    let place : Place := ⟨0, []⟩
    let strong := some "strong".toList
    let bench : Workbench := ⟨Registry.initial, []⟩
    let vs : List Value := [.scalar (.text "b".toList) none, .scalar (.text "a c".toList) none]
    (∀ v ∈ vs, ∃ content tag, v = .scalar content tag) ∧ Uniform o place strong bench vs ∧
      (perform (value o place strong (.sequence vs none)) bench).1 =
        (perform (value o.unsorted place strong
          (.sequence (Text.sortOn (elementText o.plain place strong bench) vs) none)) bench).1 := by
  intro o place strong bench vs
  have hscalars : ∀ v ∈ vs, ∃ content tag, v = .scalar content tag :=
    List.forall_mem_cons.mpr ⟨⟨_, _, rfl⟩, List.forall_mem_singleton.mpr ⟨_, _, rfl⟩⟩
  have hok : ∀ v ∈ vs, ∃ t, element o place strong bench v = .ok t :=
    List.forall_mem_cons.mpr ⟨⟨_, rfl⟩, List.forall_mem_singleton.mpr ⟨_, rfl⟩⟩
  have huniform : Uniform o place strong bench vs := by
    refine ⟨⟨"strong".toList, ⟨['*'], ['*'], some (['1'], ['2', '2']), false⟩, rfl, ⟨?_, ?_, ?_⟩,
      ?_⟩, ?_, ?_⟩
    · decide
    · decide
    · rintro on off ⟨⟩
      decide
    · exact List.forall_mem_cons.mpr ⟨rfl, List.forall_mem_singleton.mpr rfl⟩
    · decide +kernel
    · decide +kernel
  obtain ⟨-, ⟨v, hv, f, hf, -⟩ | ⟨-, hsorted, -, horder⟩⟩ :=
    value_sorted (o := o) rfl place strong none bench hscalars
  · obtain ⟨t, ht⟩ := hok v hv
    cases ht.symm.trans hf
  · exact ⟨hscalars, huniform, hsorted.trans (congrArg
      (fun ws => (perform (value o.unsorted place strong (.sequence ws none)) bench).1)
      (horder huniform))⟩

/-- A space comes before a star, but not before the end of a text. -/
theorem value_sorted_strong :
    let o : Options := { Options.standard with
      enumeration := { Enumeration.standard with sort := true } }
    let v : Value :=
      .sequence [.scalar (.text "a b".toList) none, .scalar (.text "a".toList) none] none
    let outcome (capability : Capability) : Except Failure Text :=
      (perform (value { o with capability := capability } ⟨0, []⟩ (some "strong".toList) v)
        ⟨Registry.initial, []⟩).1
    outcome .none = .ok "a and a b".toList ∧ outcome .ascii = .ok "*a b* and *a*".toList := by
  intro o v outcome
  have hitems (capability : Capability) :
      ∀ v ∈ [Value.scalar (.text "a b".toList) none, .scalar (.text "a".toList) none],
        element { o with capability := capability } ⟨0, []⟩ (some "strong".toList)
          ⟨Registry.initial, []⟩ v = .ok (elementText { o with capability := capability } ⟨0, []⟩
            (some "strong".toList) ⟨Registry.initial, []⟩ v) := by
    cases capability <;>
      exact List.forall_mem_cons.mpr ⟨rfl, List.forall_mem_singleton.mpr rfl⟩
  have hsorted (capability : Capability) := perform_sorted_fst
    (o := { o with capability := capability }) rfl ⟨0, []⟩ (some "strong".toList) none
    ⟨Registry.initial, []⟩ (hitems capability)
  simp only [List.map_cons, List.map_nil, Text.sort_pair] at hsorted
  exact ⟨hsorted .none, hsorted .ascii⟩

end Rendering

end Phrasing
