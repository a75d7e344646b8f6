/-
# The expression that an error blames

A template that was read can still fail to be rendered.  The error then carries the offset and the
source text of an expression, handed down from the tokens through evaluation, lists in lists, and
styles.  Three steps lead back from it to the source.

* What fails in an expression blames the expression (`fails_expression`).
* What fails in segments is the first of them that fails (`exists_first_failing`).
* What is in front of an expression is a template of its own (`exists_front_of_ofTokens`).
-/
import Phrasing.Proofs.Rendering.Steps
import Phrasing.Proofs.Template.Concatenation

namespace Phrasing

/-! ## 1. The source in front of an expression -/

section Source

variable {d : Delimiters}

theorem Passage.apart_of_append {ps qs : List Passage} (h : Apart d (ps ++ qs)) : Apart d ps where
  fits p hp := h.fits p (List.mem_append_left qs hp)
  chain := h.chain.left_of_append

/-- The segments in front of an expression are made by the passages in front of it. -/
theorem Segment.exists_front_of_ofTokens {ps : List Passage} {p : Position}
    {front back : List Segment} {body : Text} {path : Path} {position : Position}
    (h : ofTokens (Passage.tokens d p ps) = .ok (front ++ .expression body path position :: back)) :
    ∃ qs rs, ps = qs ++ .expression body :: rs ∧ ofTokens (Passage.tokens d p qs) = .ok front ∧
      position = (p.advance (Passage.sourceAll d qs)).next d.opening := by
  induction ps generalizing p front with
  | nil => cases front <;> cases h
  | cons q ps ih =>
    rcases ofTokens_cons_eq_ok h with ⟨hfinish, -⟩ | ⟨s, more, hs, hmore, hsplit⟩
    · cases q <;> cases hfinish
    cases front with
    | nil =>
      cases hsplit
      cases q with
      | text t => nomatch hs
      | expression b =>
        cases hs
        exact ⟨[], ps, rfl, rfl, rfl⟩
    | cons s' front =>
      cases hsplit
      obtain ⟨qs, rs, rfl, hqs, hposition⟩ := ih hmore
      refine ⟨q :: qs, rs, rfl, ofTokens_cons hs hqs, ?_⟩
      rw [hposition, Passage.sourceAll_cons, Position.advance_append]

end Source

/-! ## 2. What an expression fails with -/

/-- The kinds of the errors of templates that are rendered. -/
def renderingKinds : List String :=
  ["UnresolvedReference", "IndexOutOfRange", "FieldNotFound", "TypeMismatch", "UnsupportedStyle"]

/-- An error of rendering that blames a place. -/
structure TemplateError.BlamesPlace (place : Place) (e : TemplateError) : Prop where
  offset : e.offset = place.offset
  source : e.source = place.source
  kind : e.kind ∈ renderingKinds

theorem Context.blamesPlace_of_evaluate {c : Context} {path : Path} {place : Place}
    (hsource : place.source ≠ []) {e : TemplateError}
    (h : c.evaluate path place.source place.offset = .error e) : e.BlamesPlace place := by
  unfold evaluate at h
  split at h
  · cases h
  · next fault hlookUp =>
    cases h
    refine ⟨rfl, if_neg (by simpa using hsource), ?_⟩
    unfold lookUp at hlookUp
    split at hlookUp
    · cases hlookUp
      simp [TemplateError.kind, renderingKinds]
    · cases Value.ofAccessor_of_follow hlookUp <;> simp [TemplateError.kind, renderingKinds]

namespace Rendering

variable {o : Options} {c : Context}

theorem blamesPlace_of_value {place : Place} (hsource : place.source ≠ []) {requested : Option Text}
    {v : Value} {bench : Workbench} {e : TemplateError}
    (h : (perform (value o place requested v) bench).1 = .error (.template e)) :
    e.BlamesPlace place := by
  rcases value_failsWith o place requested v bench _ h with harises | ⟨style, hstyle⟩
  · cases harises
    exact ⟨rfl, rfl, by simp [TemplateError.kind, renderingKinds]⟩
  · cases hstyle
    exact ⟨rfl, if_neg (by simpa using hsource), by simp [TemplateError.kind, renderingKinds]⟩

/-- **An expression that fails is blamed**, wherever the failure comes from: the name, an accessor,
a mapping somewhere in the value, or a style. -/
theorem fails_expression {source : Text} (hsource : source ≠ []) {path : Path} {position : Position}
    {bench : Workbench} {e : TemplateError}
    (h : (perform (segment o c (.expression source path position)) bench).1 =
      .error (.template e)) : e.BlamesPlace ⟨position.offset, source⟩ := by
  rw [segment] at h
  unfold evaluate at h
  split at h
  · exact blamesPlace_of_value hsource h
  · next he =>
    cases h
    exact Context.blamesPlace_of_evaluate hsource he

/-! ## 3. The first segment that fails -/

/-- **What fails in segments is one of them**, and those in front of it have a text. -/
theorem exists_first_failing {ss : List Segment} {bench : Workbench} {f : Failure}
    (h : (perform (segments o c ss) bench).1 = .error f) :
    ∃ front s back text, ss = front ++ s :: back ∧
      (perform (segments o c front) bench).1 = .ok text ∧
      (perform (segment o c s) bench).1 = .error f := by
  induction ss with
  | nil => cases h
  | cons s ss ih =>
    rw [perform_segments_cons_fst] at h
    cases hs : (perform (segment o c s) bench).1 with
    | error f' =>
      rw [hs] at h
      cases h
      exact ⟨[], s, ss, [], rfl, rfl, hs⟩
    | ok t =>
      rw [hs] at h
      obtain ⟨front, s', back, text, rfl, hfront, hs'⟩ := ih (map_eq_error.mp h)
      refine ⟨s :: front, s', back, t ++ text, rfl, ?_, hs'⟩
      rw [perform_segments_cons_fst, hs, hfront]
      rfl

/-! ## 4. Templates -/

/-- An error blames an expression of a source, with its text and with the place behind the opening
delimiter that ends the text before it. -/
structure Blames (d : Delimiters) (source before : Text) (e : TemplateError) : Prop where
  offset : e.offset = before.length + 1
  spelled : ∃ after, source = before ++ d.opening :: e.source ++ d.closing :: after

/-- **An error of rendering blames the first expression that fails.**  Let a template be read from a
source, and fail with an error in some context.  The error is of one of the five kinds.  What it
blames stands in the source where it says, between an opening and a closing delimiter.  It is an
expression of the template, which fails with the error; and the source in front of its opening
delimiter is a template, made of the segments in front of the expression, that has a text. -/
theorem blames_first_failing {d : Delimiters} {source : Text} {t : Template}
    (ht : Template.parse d source = .ok t) {bench : Workbench} {e : TemplateError}
    (he : (perform (template o c t) bench).1 = .error (.template e)) :
    e.kind ∈ renderingKinds ∧
      ∃ before, Blames d source before e ∧
        ∃ front path position back,
          t.segments = front ++ .expression e.source path position :: back ∧
          (perform (segment o c (.expression e.source path position)) bench).1 =
            .error (.template e) ∧
          Template.parse d before = .ok ⟨before, front⟩ ∧
          ∃ text, (perform (template o c ⟨before, front⟩) bench).1 = .ok text := by
  obtain ⟨ts, ss, hts, hss, rfl⟩ := Template.parse_eq_ok_iff.mp ht
  obtain ⟨ps, hps, rfl, rfl⟩ := Token.tokenize_eq_ok_iff.mp hts
  rw [template_eq] at he
  obtain ⟨front, s, back, text, rfl, hfront, hs⟩ := exists_first_failing he
  cases s with
  | literal => cases hs
  | expression body path position =>
    have hsourced := Segment.sourced_of_ofTokens hss (.expression body path position) (by simp)
    obtain ⟨hoffset, hsource, hkind⟩ := fails_expression hsourced hs
    obtain ⟨qs, rs, rfl, hqs, hposition⟩ := Segment.exists_front_of_ofTokens hss
    obtain rfl : e.source = body := hsource
    have hparse : Template.parse d (Passage.sourceAll d qs) =
        .ok ⟨Passage.sourceAll d qs, front⟩ := by
      rw [Template.parse_sourceAll (Passage.apart_of_append hps), hqs]
      rfl
    refine ⟨hkind, Passage.sourceAll d qs, ⟨?_, Passage.sourceAll d rs, ?_⟩,
      front, path, position, back, rfl, hs, hparse, text, ?_⟩
    · have hnext : position.offset = (Passage.sourceAll d qs).length + 1 := by
        rw [hposition, ← Position.offset_start_advance]
        exact Position.advance_offset _ [d.opening]
      rw [hoffset, hnext]
      rfl
    · simp [Passage.sourceAll, Passage.source]
    · rw [template_eq]
      exact hfront

/-- A mapping in a list in a list, behind doubled delimiters and an expression that has a text. -/
theorem blames_nested_mapping :
    let source := "\x7b\x7b\x7ba\x7d\x7d\x7d \x7bxs:strong\x7d".toList
    let c : Context := ⟨[(['a'], .scalar (.text ['b']) none),
      ("xs".toList, .sequence [.scalar (.truth true) none, .sequence [.mapping []] none] none)]⟩
    let t : Template := ⟨source, [.literal ['\x7b'] 0, .expression ['a'] ⟨['a'], [], none⟩ ⟨3, 1, 4⟩,
      .literal ['\x7d', ' '] 5,
      .expression "xs:strong".toList ⟨"xs".toList, [], some "strong".toList⟩ ⟨9, 1, 10⟩]⟩
    let e : TemplateError :=
      ⟨9, "xs:strong".toList, .reference (.mismatch "scalar or sequence" "mapping")⟩
    Template.parse .braces source = .ok t ∧
      (perform (template Options.standard c t) ⟨Registry.initial, []⟩).1 = .error (.template e) ∧
      ∃ before, Blames .braces source before e ∧ ∃ u text, Template.parse .braces before = .ok u ∧
        (perform (template Options.standard c u) ⟨Registry.initial, []⟩).1 = .ok text := by
  intro source c t e
  have ht : Template.parse .braces source = .ok t := by decide +kernel
  have he : (perform (template Options.standard c t) ⟨Registry.initial, []⟩).1 =
      .error (.template e) := rfl
  obtain ⟨-, before, hblames, front, -, -, -, -, -, hparse, htext⟩ := blames_first_failing ht he
  exact ⟨ht, he, before, hblames, _, htext.choose, hparse, htext.choose_spec⟩

end Rendering

end Phrasing
