/-
# Templates in a row

A template behind another one is read as if it stood alone, and displaced.  No lookahead crosses
the seam, so the passages of both stay what they are, but for a text at the seam: it joins a text
behind it, and the two make one token and one segment.

* `parse_append`: where the delimiters of both sources are in order, reading both in a row is
  reading the first, then the second, and joining the segments.
* `tokenize_append_of_error`: an error of the delimiters of the second source is displaced.
* `tokenize_append_eq_error_iff`: an error of the delimiters of the first source stays the same,
  unless the source runs on into the second one: it ends inside an expression, or with a closing
  delimiter that the second doubles.
* `names_join`: the names of both are those of the first and then those of the second, each once.
-/
import Phrasing.Proofs.Template.Displacement
import Phrasing.Proofs.Template.Ending
import Phrasing.Proofs.Template.Segments

namespace Phrasing

/-! ## 1. Passages -/

namespace Delimiters

theorem escape_append (d : Delimiters) (s t : Text) :
    d.escape (s ++ t) = d.escape s ++ d.escape t := List.flatMap_append

end Delimiters

namespace Passage

variable {d : Delimiters}

/-- Passages in a row, with a text at the seam joined to a text behind it. -/
def join : List Passage → List Passage → List Passage
  | [], qs => qs
  | [text s], text t :: qs => text (s ++ t) :: qs
  | p :: ps, qs => p :: join ps qs

@[simp] theorem sourceAll_cons (p : Passage) (ps : List Passage) :
    sourceAll d (p :: ps) = p.source d ++ sourceAll d ps := rfl

theorem sourceAll_join (ps qs : List Passage) :
    sourceAll d (join ps qs) = sourceAll d ps ++ sourceAll d qs := by
  fun_induction join ps qs with
  | case1 qs => rfl
  | case2 s t qs =>
    simp only [sourceAll_cons, source, Delimiters.escape_append, List.append_assoc]
    rfl
  | case3 qs p ps _ ih => rw [sourceAll_cons, ih, sourceAll_cons, List.append_assoc]

/-- Joining leaves the kind of the first passage as it is. -/
theorem kind_head?_join (p : Passage) (ps qs : List Passage) :
    ∃ q ∈ (join (p :: ps) qs).head?, q.kind = p.kind := by
  match p, ps, qs with
  | text s, [], text t :: qs => exact ⟨text (s ++ t), rfl, rfl⟩
  | text s, [], [] => exact ⟨text s, rfl, rfl⟩
  | text s, [], expression body :: qs => exact ⟨text s, rfl, rfl⟩
  | text s, q :: ps, qs => exact ⟨text s, rfl, rfl⟩
  | expression body, ps, qs => exact ⟨expression body, by simp [join], rfl⟩

theorem apart_cons {p : Passage} {ps : List Passage} (hp : p.Fits d) (hps : Apart d ps)
    (h : ∀ q ∈ ps.head?, ¬ (p.kind = .text ∧ q.kind = .text)) : Apart d (p :: ps) := by
  refine ⟨?_, hps.chain.cons h⟩
  intro q hq
  rcases List.mem_cons.mp hq with rfl | hq
  · exact hp
  · exact hps.fits q hq

/-- Passages that stand apart do so in a row, once the texts at the seam are joined. -/
theorem apart_join {ps qs : List Passage} (hps : Apart d ps) (hqs : Apart d qs) :
    Apart d (join ps qs) := by
  match ps, qs with
  | [], qs => exact hqs
  | [text s], text t :: qs =>
    have ht : t ≠ [] := hqs.fits (text t) List.mem_cons_self
    refine apart_cons ?_ (apart_tail hqs) fun q hq => ?_
    · exact fun h => ht (List.append_eq_nil_iff.mp h).2
    · exact hqs.chain.rel_head? hq
  | [text s], [] => exact hps
  | [text s], expression body :: qs =>
    refine apart_cons (hps.fits _ List.mem_cons_self) hqs fun q hq => ?_
    rw [← Option.some.inj hq]
    simp [kind]
  | text s :: p :: ps, qs =>
    obtain ⟨q, hq, hkind⟩ := kind_head?_join p ps qs
    refine apart_cons (hps.fits _ List.mem_cons_self) (apart_join (apart_tail hps) hqs) ?_
    intro q' hq'
    rw [Option.mem_unique hq' hq, hkind]
    exact hps.chain.rel
  | expression body :: ps, qs =>
    have htail := apart_join (apart_tail hps) hqs
    have hjoin : join (expression body :: ps) qs = expression body :: join ps qs := by simp [join]
    rw [hjoin]
    exact apart_cons (hps.fits _ List.mem_cons_self) htail fun q _ => by simp [kind]

end Passage

/-! ## 2. Segments -/

namespace Segment

variable {d : Delimiters}

/-- Segments in a row, with a literal at the seam joined to a literal behind it. -/
def join : List Segment → List Segment → List Segment
  | [], more => more
  | [literal s n], literal t _ :: more => literal (s ++ t) n :: more
  | s :: ss, more => s :: join ss more

theorem filterMap_path?_join (ss more : List Segment) :
    (join ss more).filterMap path? = ss.filterMap path? ++ more.filterMap path? := by
  fun_induction join ss more with
  | case1 more => rfl
  | case2 s n t m more => rfl
  | case3 s ss more _ ih =>
    rw [List.filterMap_cons, List.filterMap_cons, ih]
    cases s.path? <;> rfl

/-- The segments of a text in front of other passages. -/
theorem ofTokens_text (p : Position) (s : Text) (qs : List Passage) :
    ofTokens (Passage.tokens d p (.text s :: qs)) =
      (ofTokens (Passage.tokens d (p.advance (d.escape s)) qs)).map (literal s p.offset :: ·) :=
  rfl

/-- The segments of an expression in front of other passages; its own fault comes first. -/
theorem ofTokens_expression (p : Position) (body : Text) (qs : List Passage) :
    ofTokens (Passage.tokens d p (.expression body :: qs)) =
      (Path.parse (p.next d.opening) body).bind fun path =>
        (ofTokens (Passage.tokens d (p.advance (Passage.source d (.expression body))) qs)).map
          (expression body path (p.next d.opening) :: ·) :=
  rfl

/-- Some passages have some segments. -/
theorem ne_nil_of_ofTokens_tokens {p : Position} {q : Passage} {qs : List Passage}
    {ss : List Segment} (h : ofTokens (Passage.tokens d p (q :: qs)) = .ok ss) : ss ≠ [] := by
  rcases ofTokens_cons_eq_ok h with ⟨hfinish, -⟩ | ⟨s, more, -, -, rfl⟩
  · cases q <;> cases hfinish
  · exact List.cons_ne_nil s more

/-- **The segments of joined passages** are the joined segments of both; the first fault
counts. -/
theorem ofTokens_join (p : Position) (ps qs : List Passage) :
    ofTokens (Passage.tokens d p (Passage.join ps qs)) =
      (ofTokens (Passage.tokens d p ps)).bind fun ss =>
        (ofTokens (Passage.tokens d (p.advance (Passage.sourceAll d ps)) qs)).map (join ss) := by
  match ps, qs with
  | [], qs =>
    change ofTokens (Passage.tokens d p qs) = (ofTokens (Passage.tokens d p qs)).map fun more => more
    cases ofTokens (Passage.tokens d p qs) <;> rfl
  | [.text s], .text t :: qs =>
    have hseam : p.advance (Passage.sourceAll d [.text s]) = p.advance (d.escape s) := by
      simp [Passage.sourceAll, Passage.source]
    rw [hseam, Passage.join, ofTokens_text, ofTokens_text, ofTokens_text,
      Delimiters.escape_append, Position.advance_append]
    cases ofTokens (Passage.tokens d ((p.advance (d.escape s)).advance (d.escape t)) qs) <;> rfl
  | [.text s], [] => rfl
  | [.text s], .expression body :: qs =>
    have hseam : p.advance (Passage.sourceAll d [.text s]) = p.advance (d.escape s) := by
      simp [Passage.sourceAll, Passage.source]
    have hjoin : Passage.join [.text s] (.expression body :: qs) =
        .text s :: .expression body :: qs := rfl
    rw [hseam, hjoin, ofTokens_text, ofTokens_text, ofTokens_expression]
    generalize p.advance (d.escape s) = q
    cases Path.parse (q.next d.opening) body with
    | error f => rfl
    | ok path =>
      cases ofTokens (Passage.tokens d (q.advance (Passage.source d (.expression body))) qs) <;> rfl
  | .text s :: q :: ps, qs =>
    have ih := ofTokens_join (p.advance (d.escape s)) (q :: ps) qs
    have hseam : p.advance (Passage.sourceAll d (.text s :: q :: ps)) =
        (p.advance (d.escape s)).advance (Passage.sourceAll d (q :: ps)) :=
      Position.advance_append p _ _
    have hjoin : Passage.join (.text s :: q :: ps) qs =
        .text s :: Passage.join (q :: ps) qs := rfl
    rw [hseam, hjoin, ofTokens_text, ofTokens_text, ih]
    cases hss : ofTokens (Passage.tokens d (p.advance (d.escape s)) (q :: ps)) with
    | error f => rfl
    | ok ss =>
      obtain ⟨s', ss', rfl⟩ := List.exists_cons_of_ne_nil (ne_nil_of_ofTokens_tokens hss)
      cases ofTokens (Passage.tokens d
        ((p.advance (d.escape s)).advance (Passage.sourceAll d (q :: ps))) qs) <;> rfl
  | .expression body :: ps, qs =>
    have ih := ofTokens_join (p.advance (Passage.source d (.expression body))) ps qs
    have hseam : p.advance (Passage.sourceAll d (.expression body :: ps)) =
        (p.advance (Passage.source d (.expression body))).advance (Passage.sourceAll d ps) :=
      Position.advance_append p _ _
    have hjoin : Passage.join (.expression body :: ps) qs =
        .expression body :: Passage.join ps qs := by simp [Passage.join]
    rw [hseam, hjoin, ofTokens_expression, ofTokens_expression, ih]
    generalize p.advance (Passage.source d (.expression body)) = q
    cases Path.parse (p.next d.opening) body with
    | error f => rfl
    | ok path =>
      cases ofTokens (Passage.tokens d q ps) with
      | error f => rfl
      | ok ss =>
        have hsegments (more : List Segment) :
            join (expression body path (p.next d.opening) :: ss) more =
              expression body path (p.next d.opening) :: join ss more := by simp [join]
        cases ofTokens (Passage.tokens d (q.advance (Passage.sourceAll d ps)) qs) with
        | error f => rfl
        | ok more => simp only [Except.bind, Except.map, hsegments]

end Segment

/-! ## 3. Names -/

namespace Template

theorem distinct_filter (p : Text → Bool) (ts : List Text) :
    distinct (ts.filter p) = (distinct ts).filter p := by
  induction ts with
  | nil => rfl
  | cons t ts ih =>
    by_cases ht : p t = true
    · rw [List.filter_cons_of_pos ht, distinct, distinct, List.filter_cons_of_pos ht, ih,
        List.filter_comm]
    · rw [List.filter_cons_of_neg ht, distinct, List.filter_cons_of_neg ht, ih, List.filter_filter]
      refine List.filter_congr fun u _ => ?_
      by_cases hu : u = t
      · rw [hu]
        simp [ht]
      · simp [hu]

theorem distinct_distinct_append (ss ts : List Text) :
    distinct (distinct ss ++ ts) = distinct (ss ++ ts) := by
  induction ss with
  | nil => rfl
  | cons s ss ih =>
    have hfilter := congrArg (List.filter (· ≠ s)) ih
    rw [← distinct_filter, List.filter_append] at hfilter
    rw [List.cons_append, distinct, distinct, List.cons_append, distinct, ← distinct_filter,
      ← hfilter, List.filter_append, List.filter_filter]
    simp

theorem distinct_append_distinct (ss ts : List Text) :
    distinct (ss ++ distinct ts) = distinct (ss ++ ts) := by
  induction ss with
  | nil => simpa using distinct_distinct_append ts []
  | cons s ss ih => rw [List.cons_append, distinct, ih, List.cons_append, distinct]

/-- The bases of displaced paths are the same. -/
theorem filterMap_base_shift (e : Position) (ss : List Segment) :
    ((ss.map (Segment.shift e)).filterMap Segment.path?).map Path.base =
      (ss.filterMap Segment.path?).map Path.base := by
  induction ss with
  | nil => rfl
  | cons s ss ih =>
    cases s with
    | literal text offset => exact ih
    | expression source path position => exact congrArg (path.base :: ·) ih

/-- The templates that two in a row make, the second one at `e`. -/
def join (e : Position) (t u : Template) : Template :=
  ⟨t.source ++ u.source, Segment.join t.segments (u.segments.map (Segment.shift e))⟩

/-- The names of two templates in a row are those of both, each once. -/
theorem names_join (e : Position) (t u : Template) :
    (join e t u).names = distinct (t.names ++ u.names) := by
  simp only [names, paths, join, Segment.filterMap_path?_join, List.map_append,
    filterMap_base_shift, distinct_distinct_append, distinct_append_distinct]

end Template

/-! ## 4. Sources -/

section Sources

variable {d : Delimiters}

/-- The template that passages spell. -/
theorem Template.parse_sourceAll {ps : List Passage} (h : Passage.Apart d ps) :
    Template.parse d (Passage.sourceAll d ps) =
      (Segment.ofTokens (Passage.tokens d .start ps)).map
        (Template.mk (Passage.sourceAll d ps)) := by
  have htokens := Token.tokenize_eq_ok_iff.mpr ⟨ps, h, rfl, rfl⟩
  rw [Template.parse, htokens]
  rfl

/-- **Reading two sources in a row** is reading the first, then the second, and joining both, if
the delimiters of each are in order. -/
theorem Template.parse_append {s t : Text} {ss ts : List Token}
    (hs : Token.tokenize d s = .ok ss) (ht : Token.tokenize d t = .ok ts) :
    Template.parse d (s ++ t) =
      (Template.parse d s).bind fun u =>
        ((Template.parse d t).mapError (ParseFault.shift (Position.start.advance s))).map
          (Template.join (Position.start.advance s) u) := by
  obtain ⟨ps, hps, rfl, -⟩ := Token.tokenize_eq_ok_iff.mp hs
  obtain ⟨qs, hqs, rfl, -⟩ := Token.tokenize_eq_ok_iff.mp ht
  have hsource := Passage.sourceAll_join (d := d) ps qs
  generalize he : Position.start.advance (Passage.sourceAll d ps) = e
  have hshift : Passage.tokens d e qs = (Passage.tokens d .start qs).map (Token.shift e) := by
    rw [← Passage.tokens_shift e Position.proper_start, Position.start_shift]
  rw [← hsource, parse_sourceAll (Passage.apart_join hps hqs), parse_sourceAll hps,
    parse_sourceAll hqs, Segment.ofTokens_join, he, hshift,
    Segment.ofTokens_shift e (Passage.proper_of_mem_tokens Position.proper_start qs), hsource]
  cases Segment.ofTokens (Passage.tokens d .start ps) with
  | error f => rfl
  | ok ss => cases Segment.ofTokens (Passage.tokens d .start qs) <;> rfl

/-- An error of the delimiters of the second of two sources is displaced. -/
theorem Token.tokenize_append_of_error {s t : Text} {ss : List Token} {err : TemplateError}
    (hs : tokenize d s = .ok ss) (ht : tokenize d t = .error err) :
    tokenize d (s ++ t) = .error (err.shift (Position.start.advance s)) := by
  unfold tokenize at hs ht
  split at hs
  · next ls hsplit =>
    obtain ⟨hls, rest, rfl, rfl⟩ := Lexeme.split_eq_iff.mp hsplit
    split at ht
    · exact absurd ht (by simp)
    · next ms stop hstop =>
      rw [List.append_nil, tokenize, Lexeme.split_rawAll_append hls, hstop, ← Except.error.inj ht,
        ← LexicalStop.error_shift d _ (Position.proper_start.advance _),
        ← Position.advance_eq_shift, ← Position.advance_append, ← Lexeme.rawAll_append]
  · exact absurd hs (by simp)

/-- Two templates in a row are read as one. -/
theorem Template.parse_append_of_ok {s t : Text} {u v : Template}
    (hs : Template.parse d s = .ok u) (ht : Template.parse d t = .ok v) :
    Template.parse d (s ++ t) = .ok (Template.join (Position.start.advance s) u v) := by
  obtain ⟨ss, -, hss, -⟩ := parse_eq_ok_iff.mp hs
  obtain ⟨ts, -, hts, -⟩ := parse_eq_ok_iff.mp ht
  rw [parse_append hss hts, hs, ht]
  rfl

/-- A fault of the second of two sources is displaced. -/
theorem Template.parse_append_of_error {s t : Text} {u : Template} {f : ParseFault}
    (hs : Template.parse d s = .ok u) (ht : Template.parse d t = .error f) :
    Template.parse d (s ++ t) = .error (f.shift (Position.start.advance s)) := by
  obtain ⟨ss, -, hss, -⟩ := parse_eq_ok_iff.mp hs
  cases hts : Token.tokenize d t with
  | ok ts =>
    rw [parse_append hss hts, hs, ht]
    rfl
  | error err =>
    rw [Template.parse, hts] at ht
    rw [Template.parse, Token.tokenize_append_of_error hss hts, ← Except.error.inj ht]
    rfl

/-! ## 5. Sources that run on -/

/-- Whether a text runs on into the one behind it: it ends inside an expression, and there is a text
behind it; or it ends with a closing delimiter that stands alone, and another one follows. -/
def Token.RunsOn (d : Delimiters) (s t : Text) : Prop :=
  ∃ before, Reads d before ∧
    ((∃ body, d.Free body ∧ s = before ++ d.opening :: body ∧ t ≠ []) ∨
      s = before ++ [d.closing] ∧ t.head? = some d.closing)

/-- An error of the delimiters is a stop behind the lexemes of the source. -/
theorem Token.tokenize_eq_error_iff {s : Text} {err : TemplateError} :
    tokenize d s = .error err ↔ ∃ ls stop, Lexeme.split d s = (ls, some stop) ∧
      err = stop.error d (Position.start.advance (Lexeme.rawAll d ls)) := by
  unfold tokenize
  split
  · next ls hsplit => simp [hsplit]
  · next ls stop hsplit => simp [hsplit, eq_comm]

theorem LexicalStop.source_error (stop : LexicalStop) (p : Position) :
    (stop.error d p).source = stop.raw d := by
  cases stop <;> rfl

theorem LexicalStop.eq_of_raw {stop : LexicalStop} {body : Text} (hbody : d.Free body)
    (h : stop.raw d = d.opening :: body) : stop = .unclosed body := by
  cases stop with
  | loneClosing => exact absurd (List.cons.inj h).1 Delimiters.closing_ne_opening
  | unclosed body' => rw [(List.cons.inj h).2]
  | nested body' =>
    have hmem : d.opening ∈ body := (List.cons.inj h).2 ▸ List.mem_append_right body' (by simp)
    exact absurd Delimiters.marks_opening (hbody _ hmem)

theorem LexicalStop.eq_loneClosing_of_raw {stop : LexicalStop} (h : stop.raw d = [d.closing]) :
    stop = .loneClosing := by
  cases stop with
  | loneClosing => rfl
  | _ => exact absurd (List.cons.inj h).1 d.opening_ne_closing

/-- Reading stops where it stopped, if the text does not run on into the one behind it. -/
theorem Lexeme.split_append_of_stop {s t : Text} {ls : List Lexeme} {stop : LexicalStop}
    (h : split d s = (ls, some stop)) (hrest : ¬ Token.RunsOn d s t) :
    split d (s ++ t) = (ls, some stop) := by
  obtain ⟨hls, rest, rfl, hstop⟩ := split_eq_iff.mp h
  have hreads : Token.Reads d (rawAll d ls) := Ending.reads_rawAll hls
  refine split_eq_iff.mpr ⟨hls, rest ++ t, List.append_assoc _ _ _, ?_⟩
  match stop with
  | .loneClosing =>
    obtain ⟨behind, rfl, hbehind⟩ := hstop
    refine ⟨behind ++ t, rfl, fun hhead => ?_⟩
    cases behind with
    | nil => exact hrest ⟨_, hreads, .inr ⟨rfl, hhead⟩⟩
    | cons c behind => exact hbehind hhead
  | .unclosed body =>
    obtain ⟨rfl, hbody⟩ := hstop
    obtain rfl : t = [] :=
      Classical.not_not.mp fun ht => hrest ⟨_, hreads, .inl ⟨body, hbody, rfl, ht⟩⟩
    rw [List.append_nil]
    exact ⟨rfl, hbody⟩
  | .nested body =>
    obtain ⟨behind, rfl, hne, hbody⟩ := hstop
    exact ⟨behind ++ t, by simp, hne, hbody⟩

/-- With more text behind it, an expression that is not closed is not blamed in the same way: the
same text at the same place would leave nothing behind it. -/
theorem LexicalStop.error_ne_of_unclosed {before body t : Text} (hbody : d.Free body)
    (ht : t ≠ []) {ls : List Lexeme} {stop : LexicalStop}
    (hsplit : Lexeme.split d (before ++ d.opening :: body ++ t) = (ls, some stop)) :
    stop.error d (Position.start.advance (Lexeme.rawAll d ls)) ≠
      (unclosed body).error d (Position.start.advance before) := by
  intro hsame
  have hraw := congrArg TemplateError.source hsame
  rw [source_error, source_error] at hraw
  obtain rfl := eq_of_raw hbody hraw
  obtain ⟨-, rest, hsource, rfl, -⟩ := Lexeme.split_eq_iff.mp hsplit
  have hoffset := congrArg TemplateError.offset hsame
  have hlength := congrArg List.length hsource
  simp only [error, Position.offset_start_advance, Int.natCast_inj] at hoffset
  simp only [List.length_append, List.length_cons] at hlength
  exact ht (List.length_eq_zero_iff.mp (by omega))

/-- A closing delimiter that another one doubles is not blamed, but at most one behind both. -/
theorem LexicalStop.error_ne_of_doubled {before : List Lexeme} (hbefore : ∀ l ∈ before, l.Fits d)
    {behind : Text} {ls : List Lexeme} {stop : LexicalStop}
    (hsplit : Lexeme.split d (Lexeme.rawAll d before ++ d.closing :: d.closing :: behind) =
      (ls, some stop)) :
    stop.error d (Position.start.advance (Lexeme.rawAll d ls)) ≠
      loneClosing.error d (Position.start.advance (Lexeme.rawAll d before)) := by
  intro hsame
  have hraw := congrArg TemplateError.source hsame
  rw [source_error, source_error] at hraw
  obtain rfl := eq_loneClosing_of_raw hraw
  rw [Lexeme.split_rawAll_append hbefore, Lexeme.split_doubled Delimiters.marks_closing,
    Prod.mk.injEq] at hsplit
  have hoffset := congrArg TemplateError.offset hsame
  simp only [error, Position.offset_start_advance, Int.natCast_inj] at hoffset
  rw [← hsplit.1, Lexeme.rawAll_append, List.length_append, Lexeme.push, Lexeme.rawAll_cons,
    List.length_append] at hoffset
  simp only [Lexeme.raw, List.length_cons] at hoffset
  omega

/-- **An error of the delimiters stays the same** in front of a text if and only if the source does
not run on into it. -/
theorem Token.tokenize_append_eq_error_iff {s : Text} {err : TemplateError}
    (hs : tokenize d s = .error err) (t : Text) :
    tokenize d (s ++ t) = .error err ↔ ¬ RunsOn d s t := by
  obtain ⟨ls, stop, hsplit, rfl⟩ := tokenize_eq_error_iff.mp hs
  refine ⟨fun herror hruns => ?_, fun hrest =>
    tokenize_eq_error_iff.mpr ⟨ls, stop, Lexeme.split_append_of_stop hsplit hrest, rfl⟩⟩
  obtain ⟨ls', stop', hsplit', hsame⟩ := tokenize_eq_error_iff.mp herror
  obtain ⟨before, hbefore, hruns⟩ := hruns
  obtain ⟨ms, hms, rfl⟩ := Ending.exists_lexemes_of_reads hbefore
  rcases hruns with ⟨body, hbody, rfl, ht⟩ | ⟨rfl, hhead⟩
  · rw [Lexeme.split_rawAll_append hms, Lexeme.split_unclosed hbody, List.append_nil] at hsplit
    cases hsplit
    exact LexicalStop.error_ne_of_unclosed hbody ht hsplit' hsame.symm
  · obtain ⟨behind, rfl⟩ := List.head?_eq_some_iff.mp hhead
    rw [Lexeme.split_rawAll_append hms, Lexeme.split_loneClosing (by simp), List.append_nil]
      at hsplit
    cases hsplit
    rw [List.append_assoc, List.singleton_append] at hsplit'
    exact LexicalStop.error_ne_of_doubled hms hsplit' hsame.symm

/-- A fault of the first of two sources stays the same in front of a template, unless the source
runs on into it. -/
theorem Template.parse_append_of_fault {s t : Text} {f : ParseFault} {v : Template}
    (hs : Template.parse d s = .error f) (ht : Template.parse d t = .ok v)
    (hrest : ¬ Token.RunsOn d s t) : Template.parse d (s ++ t) = .error f := by
  obtain ⟨ts, -, hts, -⟩ := parse_eq_ok_iff.mp ht
  cases hss : Token.tokenize d s with
  | ok ss =>
    rw [parse_append hss hts, hs]
    rfl
  | error err =>
    have hst := (Token.tokenize_append_eq_error_iff hss t).mpr hrest
    rw [Template.parse, hss] at hs
    rw [Template.parse, hst, ← Except.error.inj hs]

end Sources

end Phrasing
