/-
# Rendering templates in a row

Two templates in a row are rendered one after the other: `segments_join` says so for joined
segments, and `segments_shift` for the failures of the second template, which blame displaced
places.

`concatenation` puts reading and rendering together: it says what becomes of two sources in a
row in terms of what becomes of each alone.
-/
import Phrasing.Proofs.Rendering.Steps
import Phrasing.Proofs.Template.Concatenation

namespace Phrasing

/-! ## 1. Paths further on -/

theorem Accessor.text_shift (n : Nat) (a : Accessor) : (a.shift n).text = a.text := by
  cases a <;> rfl

theorem Path.text_shift (n : Nat) (p : Path) : (p.shift n).text = p.text := by
  have haccessors : (p.accessors.map (Accessor.shift n)).flatMap Accessor.text =
      p.accessors.flatMap Accessor.text := by
    rw [List.flatMap_map]
    exact List.flatMap_congr fun a _ => Accessor.text_shift n a
  simp only [Path.text, Path.shift, haccessors]

theorem Value.select_shift (n : Nat) (v : Value) (a : Accessor) :
    v.select (a.shift n) = v.select a := by
  cases a <;> rfl

theorem Value.follow_shift (n : Nat) (v : Value) (as : List Accessor) :
    v.follow (as.map (Accessor.shift n)) = v.follow as := by
  induction as generalizing v with
  | nil => rfl
  | cons a as ih =>
    rw [List.map_cons, Value.follow, Value.follow, Value.select_shift]
    cases v.select a with
    | error fault => rfl
    | ok w => exact ih w

/-- A displaced path denotes the same, and an error is displaced. -/
theorem Context.evaluate_shift (e : Position) (c : Context) (p : Path) (source : Text)
    (offset : Int) :
    c.evaluate (p.shift e.offset) source (e.offset + offset) =
      (c.evaluate p source offset).mapError (TemplateError.shift e) := by
  have hlookUp : c.lookUp (p.shift e.offset) = c.lookUp p := by
    unfold lookUp
    split
    · next h => rw [show c.find? p.base = none from h]; rfl
    · next v h =>
      rw [show c.find? p.base = some v from h]
      exact Value.follow_shift e.offset v p.accessors
  rw [evaluate, evaluate, hlookUp, Path.text_shift]
  cases c.lookUp p <;> rfl

namespace Rendering

/-! ## 2. Segments in a row -/

/-- Joined segments are rendered one after the other. -/
theorem segments_join (o : Options) (c : Context) (ss more : List Segment) :
    segments o c (Segment.join ss more) = do
      let s ← segments o c ss
      let t ← segments o c more
      return s ++ t := by
  fun_induction Segment.join ss more with
  | case1 more => simp [segments]
  | case2 s n t m more =>
    simp only [segments, segment, pure_bind, bind_assoc, List.append_nil, List.append_assoc]
  | case3 s ss more _ ih =>
    rw [segments, segments, ih]
    simp only [bind_assoc, pure_bind, List.append_assoc]

/-! ## 3. Segments further on -/

theorem evaluate_displaced (e : Position) (c : Context) (p : Path) (place : Place) :
    evaluate c (p.shift e.offset) (place.shift e) = shift e (evaluate c p place) := by
  unfold evaluate
  rw [show (place.shift e).source = place.source from rfl,
    show (place.shift e).offset = e.offset + place.offset from rfl, Context.evaluate_shift]
  cases c.evaluate p place.source place.offset <;> rfl

theorem segment_shift (e : Position) (o : Options) (c : Context) (s : Segment) :
    segment o c (s.shift e) = shift e (segment o c s) := by
  cases s with
  | literal text offset => rfl
  | expression source path position =>
    have hplace : (⟨(position.shift e).offset, source⟩ : Place) =
        (⟨position.offset, source⟩ : Place).shift e := rfl
    rw [Segment.shift, segment, segment, shift_bind, hplace, evaluate_displaced]
    exact bind_congr fun v => value_displaced e o _ _ v

/-- Displaced segments are rendered as before, and a failure is displaced. -/
theorem segments_shift (e : Position) (o : Options) (c : Context) (ss : List Segment) :
    segments o c (ss.map (Segment.shift e)) = shift e (segments o c ss) := by
  induction ss with
  | nil => rfl
  | cons s ss ih =>
    rw [List.map_cons, segments, segments, segment_shift, ih, shift_bind]
    refine bind_congr fun t => ?_
    rw [shift_bind]
    rfl

/-- **Two templates in a row**: the first is rendered, then the second, on the same workbench as
far as results go; the first failure counts, and one of the second template is displaced. -/
theorem template_join (o : Options) (c : Context) (bench : Workbench) (e : Position)
    (t u : Template) :
    (perform (template o c (Template.join e t u)) bench).1 =
      (perform (template o c t) bench).1.bind fun a =>
        ((perform (template o c u) bench).1.mapError (Failure.shift e)).map (a ++ ·) := by
  have hsteady := (closed_steady o).segments c u.segments
  have halike := ((closed_steady o).segments c t.segments).keeps bench
  rw [template_eq, template_eq, template_eq, Template.join, segments_join, segments_shift,
    perform_bind]
  generalize perform (segments o c t.segments) bench = outcome at halike ⊢
  obtain ⟨r, after⟩ := outcome
  cases r with
  | error f => rfl
  | ok a =>
    rw [← hsteady.result after bench halike]
    dsimp only
    rw [perform_bind, perform_shift]
    obtain ⟨r', _⟩ := perform (segments o c u.segments) after
    cases r' with
    | ok b => rfl
    | error f => rfl

/-! ## 4. Sources in a row -/

/-- The text of a source in a context: the source is read and then rendered. -/
def source (d : Delimiters) (o : Options) (c : Context) (s : Text) : Rendering Text :=
  match Template.parse d s with
  | .ok t => template o c t
  | .error f => throw (.ofParse f)

theorem ofParse_shift (e : Position) (f : ParseFault) :
    Failure.ofParse (f.shift e) = (Failure.ofParse f).shift e := by
  cases f <;> rfl

theorem source_of_ok {d : Delimiters} {s : Text} {t : Template} (o : Options) (c : Context)
    (h : Template.parse d s = .ok t) : source d o c s = template o c t := by
  rw [source, h]

theorem source_of_error {d : Delimiters} {s : Text} {f : ParseFault} (o : Options) (c : Context)
    (h : Template.parse d s = .error f) : source d o c s = throw (.ofParse f) := by
  rw [source, h]

/-- Only what is read is rendered. -/
theorem exists_parse_of_source {d : Delimiters} {o : Options} {c : Context} {bench : Workbench}
    {s a : Text} (h : (perform (source d o c s) bench).1 = .ok a) :
    ∃ u, Template.parse d s = .ok u := by
  cases hs : Template.parse d s with
  | error f =>
    rw [source_of_error o c hs] at h
    cases h
  | ok u => exact ⟨u, rfl⟩

/-- **Two sources that are read** are rendered one after the other, as templates in a row. -/
theorem source_append {d : Delimiters} {s t : Text} {u v : Template} (o : Options) (c : Context)
    (bench : Workbench) (hs : Template.parse d s = .ok u) (ht : Template.parse d t = .ok v) :
    (perform (source d o c (s ++ t)) bench).1 =
      (perform (source d o c s) bench).1.bind fun a =>
        ((perform (source d o c t) bench).1.mapError
          (Failure.shift (Position.start.advance s))).map (a ++ ·) := by
  rw [source_of_ok o c hs, source_of_ok o c ht,
    source_of_ok o c (Template.parse_append_of_ok hs ht)]
  exact template_join o c bench _ u v

/-- **Reading and rendering go piece by piece.**  Let a source stand behind `s`, which ends at
`e`.

* If both are templates, so are the two in a row: the segments are those of the first and the
  displaced ones of the second, with literals at the seam joined, and the names are those of
  both, each once.
* If the second alone is at fault, the two in a row have that fault, displaced; an error keeps
  its kind, the source text it blames and its description.
* An error of the delimiters of the first stays the same if and only if the first does not run on
  into the second.
* In every context, and under all options, the text of the two in a row is that of the first
  and then that of the second, if both have one.  A failure of the second behind a text of the
  first is displaced.  A failure of the first stays the same in front of a template, unless the
  first runs on into it. -/
theorem concatenation (d : Delimiters) (s t : Text) :
    let e := Position.start.advance s
    (∀ u v, Template.parse d s = .ok u → Template.parse d t = .ok v →
      ∃ w, Template.parse d (s ++ t) = .ok w ∧
        w.segments = Segment.join u.segments (v.segments.map (Segment.shift e)) ∧
        w.names = Template.distinct (u.names ++ v.names)) ∧
    (∀ u f, Template.parse d s = .ok u → Template.parse d t = .error f →
      Template.parse d (s ++ t) = .error (f.shift e)) ∧
    (∀ err : TemplateError, (err.shift e).kind = err.kind ∧
      (err.shift e).source = err.source ∧ (err.shift e).describe = err.describe) ∧
    (∀ err, Token.tokenize d s = .error err →
      (Token.tokenize d (s ++ t) = .error err ↔ ¬ Token.RunsOn d s t)) ∧
    ∀ (o : Options) (c : Context) (bench : Workbench),
      let result := fun s => (perform (source d o c s) bench).1
      (∀ a b, result s = .ok a → result t = .ok b → result (s ++ t) = .ok (a ++ b)) ∧
      (∀ a f, result s = .ok a → result t = .error f → result (s ++ t) = .error (f.shift e)) ∧
      (∀ f v, result s = .error f → Template.parse d t = .ok v → ¬ Token.RunsOn d s t →
        result (s ++ t) = .error f) := by
  intro e
  refine ⟨?_, ?_, TemplateError.shift_keeps e,
    fun err herr => Token.tokenize_append_eq_error_iff herr t, ?_⟩
  · intro u v hs ht
    exact ⟨_, Template.parse_append_of_ok hs ht, rfl, Template.names_join e u v⟩
  · intro u f hs ht
    exact Template.parse_append_of_error hs ht
  · intro o c bench result
    have hjoin {u v : Template} (hs : Template.parse d s = .ok u)
        (ht : Template.parse d t = .ok v) :
        result (s ++ t) = (result s).bind fun a =>
          ((result t).mapError (Failure.shift e)).map (a ++ ·) := source_append o c bench hs ht
    refine ⟨?_, ?_, ?_⟩
    · intro a b ha hb
      obtain ⟨u, hs⟩ := exists_parse_of_source ha
      obtain ⟨v, ht⟩ := exists_parse_of_source hb
      rw [hjoin hs ht, ha, hb]
      rfl
    · intro a f ha hf
      obtain ⟨u, hs⟩ := exists_parse_of_source ha
      cases ht : Template.parse d t with
      | ok v =>
        rw [hjoin hs ht, ha, hf]
        rfl
      | error f' =>
        simp only [result, source_of_error o c ht] at hf
        simp only [result, source_of_error o c (Template.parse_append_of_error hs ht),
          ofParse_shift]
        cases hf
        rfl
    · intro f v hf ht hrest
      cases hs : Template.parse d s with
      | ok u =>
        rw [hjoin hs ht, hf]
        rfl
      | error f' =>
        have hst := Template.parse_append_of_fault hs ht hrest
        simp only [result, source_of_error o c hs] at hf
        simp only [result, source_of_error o c hst]
        exact hf

/-- **A source that runs on into another one** changes its error.  An expression that it leaves open
goes on in the other, and more text is blamed.  A closing delimiter at its end is doubled by the
first of two others, and the second is blamed. -/
theorem concatenation_runs_on :
    let result := fun s : String =>
      (perform (source .braces Options.standard ⟨[]⟩ s.toList) ⟨Registry.initial, []⟩).1
    let unclosed := fun blamed : String => Failure.template
      ⟨0, blamed.toList, .grammar 1 1 (.unbalanced ['{'])⟩
    let lone := fun offset : Int => Failure.template
      ⟨offset, ['}'], .grammar 1 (offset + 1) (.loneDelimiter ['}'])⟩
    (result "\x7ba" = .error (unclosed "\x7ba") ∧ result "b" = .ok ['b'] ∧
      result ("\x7ba" ++ "b") = .error (unclosed "\x7bab") ∧
      unclosed "\x7ba" ≠ unclosed "\x7bab") ∧
    result "\x7d" = .error (lone 0) ∧ result "\x7d\x7d" = .ok ['}'] ∧
      result ("\x7d" ++ "\x7d\x7d") = .error (lone 2) ∧ lone 0 ≠ lone 2 := by
  intro result unclosed lone
  refine ⟨⟨rfl, rfl, rfl, ?_⟩, rfl, rfl, rfl, ?_⟩
  · intro h
    cases h
  · intro h
    cases h

end Rendering

end Phrasing
