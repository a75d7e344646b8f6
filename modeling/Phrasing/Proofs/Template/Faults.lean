/-
# What keeps a template from being read

An error in a template is one of three: a delimiter that is not matched, one that is not doubled,
or an expression that the grammar does not have (`kind_of_parse`).  Beside these there is one way to
fail.  If an index has too many digits to be turned into a number, there is neither a template nor
an error in it, and whoever asks for one is left without an answer: a cache, a report, an attempt to
render.

`ReachesLongIndex` says of a source alone when this is so, and `parse_faults` that it is the only
exception.
-/
import Phrasing.Proofs.Template.Acceptance
import Phrasing.Proofs.Template.Concatenation
import Phrasing.Proofs.Template.Recency
import Phrasing.Proofs.Template.Scanner
import Phrasing.Report.Basic
import Phrasing.Session

namespace Phrasing

/-! ## 1. Expressions -/

namespace Path

/-- A text that is derived from the grammar, and whose indexes are not too long. -/
def Readable (t : Text) : Prop := ¬ LongIndex t ∧ ∃ x : Derivation, x.text = t

theorem readable_iff {t : Text} (start : Position) :
    Readable t ↔ ∃ p, parse start t = .ok p := by
  simp only [parse_eq_ok, read_eq_ok_iff]
  constructor
  · rintro ⟨hshort, x, hx⟩
    exact ⟨_, hshort, x, hx, rfl⟩
  · rintro ⟨p, hshort, x, hx, -⟩
    exact ⟨hshort, x, hx⟩

/-- Reading gives up for a number if and only if an index has too many digits. -/
theorem exists_parse_number_iff {t : Text} (start : Position) :
    (∃ f, parse start t = .error (.number f)) ↔ LongIndex t := by
  simp only [parse_eq_number]
  exact exists_number_iff

/-- A number that is to blame has too many digits to be read. -/
theorem tooLong_of_parse {start : Position} {t : Text} {f : NumberFault}
    (h : parse start t = .error (.number f)) :
    ∃ k, Number.digitLimit < k ∧ f = .tooLongToRead k := by
  have hlong := (exists_parse_number_iff start).mp ⟨f, h⟩
  obtain ⟨k, hk, hread⟩ := read_of_longIndex hlong start.offset
  rw [parse_eq_number.mp h] at hread
  cases hread
  exact ⟨k, hk, rfl⟩

end Path

/-! ## 2. Passages -/

namespace Passage

/-- Passages that are spelled at `p` fail with a fault if it is that of an expression, and all
expressions in front of this one can be read. -/
def Fail (d : Delimiters) (p : Position) (ps : List Passage) (f : ParseFault) : Prop :=
  ∃ front body back, ps = front ++ .expression body :: back ∧
    (∀ b, .expression b ∈ front → Path.Readable b) ∧
    Path.parse ((p.advance (sourceAll d front)).next d.opening) body = .error f

variable {d : Delimiters} {p : Position} {q : Passage} {qs : List Passage} {f : ParseFault}

theorem not_fail_nil : ¬ Fail d p [] f := by
  rintro ⟨front, body, back, h, -⟩
  cases front <;> cases h

/-- Either the first passage fails, or it is read and others fail. -/
theorem fail_cons :
    Fail d p (q :: qs) f ↔
      (∃ body, q = .expression body ∧ Path.parse (p.next d.opening) body = .error f) ∨
      (∀ b, q = .expression b → Path.Readable b) ∧ Fail d (p.advance (q.source d)) qs f := by
  constructor
  · rintro ⟨front, body, back, hsplit, hfront, hbody⟩
    cases front with
    | nil =>
      cases hsplit
      exact .inl ⟨body, rfl, hbody⟩
    | cons q front =>
      cases hsplit
      rw [sourceAll_cons, Position.advance_append] at hbody
      refine .inr ⟨fun b hb => hfront b (List.mem_cons.mpr (.inl hb.symm)),
        front, body, back, rfl, fun b hb => hfront b (List.mem_cons_of_mem _ hb), hbody⟩
  · rintro (⟨body, rfl, hbody⟩ | ⟨hq, front, body, back, rfl, hfront, hbody⟩)
    · exact ⟨[], body, qs, rfl, fun b hb => absurd hb List.not_mem_nil, hbody⟩
    · refine ⟨q :: front, body, back, rfl, fun b hb => ?_, ?_⟩
      · rcases List.mem_cons.mp hb with hb | hb
        · exact hq b hb.symm
        · exact hfront b hb
      · rw [sourceAll_cons, Position.advance_append]
        exact hbody

end Passage

/-- **The first expression that is not read decides.** -/
theorem Segment.ofTokens_tokens_eq_error {d : Delimiters} {p : Position} {ps : List Passage}
    {f : ParseFault} :
    ofTokens (Passage.tokens d p ps) = .error f ↔ Passage.Fail d p ps f := by
  induction ps generalizing p with
  | nil =>
    constructor
    · intro h
      cases h
    · intro h
      exact absurd h Passage.not_fail_nil
  | cons q qs ih =>
    rw [Passage.fail_cons]
    cases q with
    | text s =>
      rw [ofTokens_text, map_eq_error, ih]
      constructor
      · intro h
        exact .inr ⟨fun b hb => (by cases hb), h⟩
      · rintro (⟨body, hbody, -⟩ | ⟨-, h⟩)
        · cases hbody
        · exact h
    | expression t =>
      rw [ofTokens_expression]
      cases hpath : Path.parse (p.next d.opening) t with
      | error f' =>
        constructor
        · rintro ⟨⟩
          exact .inl ⟨t, rfl, hpath⟩
        · rintro (⟨_, ⟨⟩, hbody⟩ | ⟨hread, -⟩)
          · rw [hpath] at hbody
            cases hbody
            rfl
          · obtain ⟨path, hok⟩ := (Path.readable_iff _).mp (hread t rfl)
            rw [hpath] at hok
            cases hok
      | ok path =>
        refine map_eq_error.trans (ih.trans ⟨fun h => .inr ⟨?_, h⟩, ?_⟩)
        · rintro _ ⟨⟩
          exact (Path.readable_iff _).mpr ⟨path, hpath⟩
        · rintro (⟨_, ⟨⟩, hbody⟩ | ⟨-, h⟩)
          · rw [hpath] at hbody
            cases hbody
          · exact h

/-! ## 3. Templates -/

namespace Template

variable {d : Delimiters} {source : Text}

/-- The source spells passages, and the first expression of these that cannot be read has an index
of too many digits. -/
def ReachesLongIndex (d : Delimiters) (source : Text) : Prop :=
  ∃ front body back, Passage.Apart d (front ++ .expression body :: back) ∧
    Passage.sourceAll d (front ++ .expression body :: back) = source ∧
    (∀ b, .expression b ∈ front → Path.Readable b) ∧ Path.LongIndex body

/-- **A template is not read** if its source has no tokens, or else because of an expression. -/
theorem parse_eq_error_iff {f : ParseFault} :
    parse d source = .error f ↔
      (∃ e, Token.tokenize d source = .error e ∧ f = .error e) ∨
      ∃ ps, Passage.Apart d ps ∧ Passage.sourceAll d ps = source ∧
        Passage.Fail d .start ps f := by
  unfold parse
  cases hts : Token.tokenize d source with
  | error e =>
    constructor
    · rintro ⟨⟩
      exact .inl ⟨e, rfl, rfl⟩
    · rintro (⟨_, ⟨⟩, rfl⟩ | ⟨ps, hps, hsource, -⟩)
      · rfl
      · rw [Token.tokenize_eq_ok_iff.mpr ⟨ps, hps, hsource, rfl⟩] at hts
        cases hts
  | ok ts =>
    obtain ⟨ps, hps, hsource, rfl⟩ := Token.tokenize_eq_ok_iff.mp hts
    constructor
    · intro h
      rcases bind_eq_error.mp h with h | ⟨ss, -, h⟩
      · exact .inr ⟨ps, hps, hsource, Segment.ofTokens_tokens_eq_error.mp h⟩
      · cases h
    · rintro (⟨_, ⟨⟩, -⟩ | ⟨ps', hps', hsource', hfail⟩)
      rw [Token.tokenize_eq_ok_iff.mpr ⟨ps', hps', hsource', rfl⟩] at hts
      rw [← Except.ok.inj hts]
      exact bind_eq_error.mpr (.inl (Segment.ofTokens_tokens_eq_error.mpr hfail))

/-- **A number is to blame** if and only if an index of too many digits is reached. -/
theorem exists_number_iff :
    (∃ f, parse d source = .error (.number f)) ↔ ReachesLongIndex d source := by
  constructor
  · rintro ⟨f, h⟩
    rcases parse_eq_error_iff.mp h with ⟨e, -, hf⟩ | ⟨ps, hps, hsource, hfail⟩
    · cases hf
    · obtain ⟨front, body, back, rfl, hfront, hbody⟩ := hfail
      exact ⟨front, body, back, hps, hsource, hfront,
        (Path.exists_parse_number_iff _).mp ⟨f, hbody⟩⟩
  · rintro ⟨front, body, back, hps, hsource, hfront, hlong⟩
    obtain ⟨f, hf⟩ := (Path.exists_parse_number_iff
      (((Position.start.advance (Passage.sourceAll d front)).next d.opening))).mpr hlong
    exact ⟨f, parse_eq_error_iff.mpr
      (.inr ⟨_, hps, hsource, front, body, back, rfl, hfront, hf⟩)⟩

theorem tooLong_of_parse {f : NumberFault} (h : parse d source = .error (.number f)) :
    ∃ k, Number.digitLimit < k ∧ f = .tooLongToRead k := by
  rcases parse_eq_error_iff.mp h with ⟨e, -, hf⟩ | ⟨ps, -, -, front, body, back, -, -, hbody⟩
  · cases hf
  · exact Path.tooLong_of_parse hbody

/-- The kinds of errors that a template can have. -/
def errorKinds : List String := ["UnbalancedDelimiter", "InvalidEscape", "InvalidExpression"]

theorem kind_of_tokenize {e : TemplateError} (h : Token.tokenize d source = .error e) :
    e.kind ∈ errorKinds := by
  unfold Token.tokenize at h
  split at h
  · cases h
  · next stop _ =>
    cases h
    cases stop with
    | loneClosing => exact .tail _ (.head _)
    | unclosed body => exact .head _
    | nested body => exact .head _

/-- **An error in a template is one of three.** -/
theorem kind_of_parse {e : TemplateError} (h : parse d source = .error (.error e)) :
    e.kind ∈ errorKinds := by
  rcases parse_eq_error_iff.mp h with ⟨e', he', he⟩ | ⟨ps, -, -, front, body, back, -, -, hbody⟩
  · cases he
    exact kind_of_tokenize he'
  · rw [(Path.parse_eq_error hbody).2]
    exact .tail _ (.tail _ (.head _))

end Template

/-! ## 4. Who asks for a template -/

/-- Delimiters are named by their characters. -/
theorem Delimiters.ofTexts_chars (d : Delimiters) :
    ofTexts [[d.opening], [d.closing]] = .ok d := by
  rw [ofTexts, ofChars, dif_neg d.opening_ne_closing]
  split
  · rfl
  · next hblank => exact absurd d.closing_visible (hblank d.opening_visible)

/-- A source has a report unless a number is to blame. -/
theorem TemplateReport.exists_check_iff {d : Delimiters} {source : Text} :
    (∃ r, check d source = .ok r) ↔ ∀ f, Template.parse d source ≠ .error (.number f) := by
  unfold check
  constructor
  · rintro ⟨r, h⟩ f hf
    rw [hf] at h
    cases h
  · intro h
    split
    · exact ⟨_, rfl⟩
    · exact ⟨_, rfl⟩
    · next f hf => exact absurd hf (h f)

namespace Session

variable {α β : Type} {s s' : Session} {x : Step α}

/-- Steps in a row: the second is taken where the first led to a result. -/
theorem run_bind (x : Step α) (k : α → Step β) (s : Session) :
    (x >>= k).run s =
      match x.run s with
      | (.ok a, s') => (k a).run s'
      | (.error f, s') => (.error f, s') := by
  change (match x.run s with | (r, s') => ExceptT.bindCont k r s') = _
  match x.run s with
  | (.ok a, s') => rfl
  | (.error f, s') => rfl

/-- A failure keeps the steps behind it from being taken. -/
theorem run_bind_of_error {f : Failure} (h : x.run s = (.error f, s')) (k : α → Step β) :
    (x >>= k).run s = (.error f, s') := by
  rw [run_bind, h]

/-- A failure that is caught is handled in the session that it left. -/
theorem run_tryCatch_of_error {f : Failure} (h : x.run s = (.error f, s'))
    (k : Failure → Step α) : (tryCatch x k).run s = (k f).run s' := by
  change (ExceptT.tryCatch x k).run s = _
  rw [ExceptT.tryCatch, ExceptT.run_mk]
  change (StateT.bind x.run _ : StateM Session (Except Failure α)) s = _
  rw [StateT.bind, h]
  rfl

theorem run_get_bind (k : Session → Step α) : ((get : Step Session) >>= k).run s = (k s).run s :=
  rfl

/-- A session reads a template as if it were new, and only its cache notices. -/
theorem run_parse (hs : s.cache.Fresh) (source : Text) (d : Delimiters) :
    (parse source d).run s =
      ((Template.parse d source).mapError .ofParse,
        { s with cache := (s.cache.get ⟨source, d⟩).2 }) := by
  rw [← TemplateCache.get_fst hs ⟨source, d⟩]
  rw [parse, run_get_bind]
  match s.cache.get ⟨source, d⟩ with
  | (.ok t, cache) => rfl
  | (.error f, cache) => rfl

/-- A source that cannot be read is a failure, whatever is in the cache. -/
theorem run_parse_of_error (hs : s.cache.Fresh) {source : Text} {d : Delimiters} {f : ParseFault}
    (hf : Template.parse d source = .error f) :
    (parse source d).run s =
      (.error (.ofParse f), { s with cache := (s.cache.get ⟨source, d⟩).2 }) := by
  rw [run_parse hs, hf]
  rfl

/-- A source that cannot be read keeps a text from being rendered. -/
theorem exists_run_render_of_error (hs : s.cache.Fresh) {source : Text} {f : ParseFault}
    (hf : Template.parse .braces source = .error f) (o : Options) (own : Option Registry)
    (data : Data) (explicit : List (Data × Data)) :
    ∃ s', (render o own source data explicit).run s = (.error (.ofParse f), s') :=
  ⟨_, run_bind_of_error (run_parse_of_error hs hf) _⟩

/-- An attempt gives an error in a template as a result. -/
theorem run_attempt_of_template {e : TemplateError} (h : x.run s = (.error (.template e), s')) :
    (attempt x).run s = (.ok (.error e), s') := by
  rw [attempt, run_tryCatch_of_error (run_bind_of_error h _)]
  rfl

/-- It does not save from a number of too many digits. -/
theorem run_attempt_of_number {f : NumberFault} (h : x.run s = (.error (.number f), s')) :
    (attempt x).run s = (.error (.number f), s') := by
  rw [attempt, run_tryCatch_of_error (run_bind_of_error h _)]
  rfl

end Session

/-! ## 5. The one exception -/

/-- **Either a template, or an error, or an index that is too long.**  Whatever the source and the
delimiters:

* Scanning the source never misses a mark.
* If an index of too many digits is reached, it is to blame, and the fault is not an error in the
  template.  Otherwise there is a template, or an error of one of the three kinds.
* A cache gives the same, whatever was asked of it before.
* There is a report if and only if no such index is reached.
* An attempt to render gives every error in the source as a result.  Such an index makes it fail. -/
theorem Template.parse_faults (source : Text) :
    (∀ d : Delimiters,
      Scanner.start.scan d source = (Token.tokenize d source).mapError .error ∧
      (match parse d source with
        | .ok _ => ¬ ReachesLongIndex d source
        | .error (.error e) => ¬ ReachesLongIndex d source ∧ e.kind ∈ errorKinds
        | .error (.number f) => ReachesLongIndex d source ∧
            ∃ k, Number.digitLimit < k ∧ f = .tooLongToRead k) ∧
      (∀ limit calls,
        ((TemplateCache.after limit calls).request source [[d.opening], [d.closing]]).1 =
          (parse d source).mapError .template) ∧
      ((∃ r, TemplateReport.check d source = .ok r) ↔ ¬ ReachesLongIndex d source)) ∧
    ∀ (s : Session) limit calls o own data explicit,
      let outcome := (Session.attempt (Session.render o own source data explicit)).run
        { s with cache := TemplateCache.after limit calls }
      (∀ e, parse .braces source = .error (.error e) → outcome.1 = .ok (.error e)) ∧
      ∀ f, parse .braces source = .error (.number f) → outcome.1 = .error (.number f) := by
  refine ⟨fun d => ⟨Scanner.scan_start d source, ?_, fun limit calls => ?_, ?_⟩, ?_⟩
  · split
    · next t ht =>
      intro h
      obtain ⟨f, hf⟩ := exists_number_iff.mpr h
      rw [ht] at hf
      cases hf
    · next e he =>
      refine ⟨fun h => ?_, kind_of_parse he⟩
      obtain ⟨f, hf⟩ := exists_number_iff.mpr h
      rw [he] at hf
      cases hf
    · next f hf => exact ⟨exists_number_iff.mp ⟨f, hf⟩, tooLong_of_parse hf⟩
  · have hfresh := (TemplateCache.exact_after limit calls).fresh
    simp only [TemplateCache.request, Delimiters.ofTexts_chars]
    rw [TemplateCache.get_fst hfresh]
  · rw [TemplateReport.exists_check_iff, ← exists_number_iff, not_exists]
  · intro s limit calls o own data explicit outcome
    have hfresh := (TemplateCache.exact_after limit calls).fresh
    have hrender {f : ParseFault} (hf : parse .braces source = .error f) :=
      Session.exists_run_render_of_error (s := { s with cache := TemplateCache.after limit calls })
        hfresh hf o own data explicit
    refine ⟨fun e he => ?_, fun f hf => ?_⟩
    · obtain ⟨s', hs'⟩ := hrender he
      exact congrArg Prod.fst (Session.run_attempt_of_template hs')
    · obtain ⟨s', hs'⟩ := hrender hf
      exact congrArg Prod.fst (Session.run_attempt_of_number hs')

/-- An expression whose index has the digit `1` so many times. -/
def Path.repunit (digits : Nat) : Text := 'a' :: '[' :: (List.replicate digits '1' ++ [']'])

theorem Path.longIndex_repunit {k : Nat} (hk : Number.digitLimit < k) : LongIndex (repunit k) := by
  let n : Numeral :=
    { before := ⟨[], rfl⟩
      negative := false
      digits := List.replicate k '1'
      after := ⟨[], rfl⟩
      digits_ne_nil := List.ne_nil_of_length_pos (by rw [List.length_replicate]; omega)
      all_digits := List.all_eq_true.mpr fun c hc => by rw [List.eq_of_mem_replicate hc]; rfl }
  have hn : n.IsLong := by
    rw [Numeral.IsLong, List.length_replicate]
    exact hk
  refine ⟨⟨⟨[], rfl⟩, ⟨['a'], rfl, rfl⟩, []⟩, n, hn, ?_⟩
  have htext : (Step.index n).text = '[' :: (List.replicate k '1' ++ [']']) := by
    simp [Step.text, Numeral.text, n, sign]
  rw [htext]
  exact List.prefix_rfl

theorem Path.free_repunit (k : Nat) : Delimiters.braces.Free (repunit k) := by
  intro c hc
  simp only [repunit, List.mem_cons, List.mem_append, List.mem_replicate, List.not_mem_nil,
    or_false] at hc
  rcases hc with rfl | rfl | ⟨-, rfl⟩ | rfl <;> decide

theorem Template.reachesLongIndex_repunit {k : Nat} (hk : Number.digitLimit < k) :
    ReachesLongIndex .braces ('{' :: (Path.repunit k ++ ['}'])) := by
  refine ⟨[], Path.repunit k, [], ⟨?_, List.isChain_singleton _⟩, ?_, ?_, Path.longIndex_repunit hk⟩
  · exact List.forall_mem_singleton.mpr (Path.free_repunit k)
  · rw [List.nil_append, Passage.sourceAll_cons]
    exact List.append_nil _
  · intro b hb
    cases hb

/-- **An index of one digit too many** leaves neither a template nor an error, and no report. -/
theorem Template.parse_repunit :
    let source := '{' :: (Path.repunit 4301 ++ ['}'])
    (∀ t, parse .braces source ≠ .ok t) ∧ (∀ e, parse .braces source ≠ .error (.error e)) ∧
      ∀ r, TemplateReport.check .braces source ≠ .ok r := by
  intro source
  have hlimit : Number.digitLimit < 4301 := by decide
  obtain ⟨f, hf⟩ := exists_number_iff.mpr (reachesLongIndex_repunit hlimit)
  refine ⟨fun t ht => ?_, fun e he => ?_, fun r hr => ?_⟩
  · rw [hf] at ht
    cases ht
  · rw [hf] at he
    cases he
  · exact TemplateReport.exists_check_iff.mp ⟨r, hr⟩ f hf

end Phrasing
