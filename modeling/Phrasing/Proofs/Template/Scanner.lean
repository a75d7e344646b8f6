/-
# The marks of a scanner

A scanner looks back by its marks, and would have nothing to say if it came to need one that is not
set.  It never does: scanning a template gives its tokens or its error, as gathering them from the
lexemes does (`scan_start`).

The argument is a simulation.  A reader carries in its phase what a scanner has to look up, so a
scanner that `Mirrors` a reader has set the marks that its mode needs, and no others.  Every step
keeps this (`agrees_step`), and so does a whole run (`outcome_scan`).
-/
import Phrasing.Proofs.Template.Reader
import Phrasing.Template.Scanner

namespace Phrasing

namespace Scanner

/-! ## 1. Looking back -/

/-- What was cut out of a source stands between the offsets of its ends. -/
theorem slice_append (s t u : Text) {p q : Nat} (hp : p = s.length) (hq : q = p + t.length) :
    slice (s ++ (t ++ u)) p q = t := by
  subst hp hq
  rw [slice, ← List.append_assoc, ← List.length_append, List.take_left, List.drop_left]

/-- A text that a reader gathers ends the source that was read. -/
def Gathered (before : Text) (g : Option Stretch) : Prop :=
  ∀ s ∈ g, ∃ front, before = front ++ s.raw ∧ s.start.offset = front.length

/-- **A scanner that has made the same notes as a reader**, in front of what is unread of the
source.  The marks that are set are those that the mode will need. -/
inductive Mirrors (d : Delimiters) (source unread : Text) : Scanner → Reader → Prop where
  | literal (before : Text) {p : Position} {g : Option Stretch} {tokens : List Token}
      (hsource : source = before ++ unread) (hp : p.offset = before.length)
      (hg : Gathered before g) :
      Mirrors d source unread
        ⟨.literal, p, (g.map Stretch.value).getD [], g.map Stretch.start, none, none, tokens⟩
        ⟨.literal, p, g, tokens⟩
  | inExpression (before body : Text) {opened p : Position} {tokens : List Token}
      (hsource : source = before ++ (d.opening :: body ++ unread))
      (hopened : opened.offset = before.length)
      (hp : p.offset = opened.offset + (d.opening :: body).length) :
      Mirrors d source unread
        ⟨.inExpression, p, [], none, some opened, none, tokens⟩
        ⟨.inExpression opened body, p, none, tokens⟩
  | inEscape (before : Text) {closed p : Position} {g : Option Stretch} {tokens : List Token}
      (hsource : source = before ++ d.closing :: unread) (hclosed : closed.offset = before.length)
      (hp : p.offset = closed.offset + 1) (hg : Gathered before g) :
      Mirrors d source unread
        ⟨.inEscape, p, (g.map Stretch.value).getD [], g.map Stretch.start <|> some closed, none,
          some closed, tokens⟩
        ⟨.inEscape closed, p, g, tokens⟩

/-- The outcome of a step of a scanner agrees with that of a reader: both go on with the same notes,
or both stop with the same error. -/
def Agrees (d : Delimiters) (source : Text) (outcome : Except ScanStop Scanner)
    (r : Reader × Text) : Prop :=
  match outcome with
  | .ok s => Mirrors d source r.2 s r.1
  | .error (.error e) => r.1.phase = .failed e
  | .error .unmarked => False

variable {d : Delimiters} {source unread rest : Text} {s : Scanner} {r : Reader} {c : Char}

/-! ## 2. Notes -/

/-- What is unread starts at the offset that was reached. -/
theorem Mirrors.drop_offset (h : Mirrors d source unread s r) :
    source.drop s.position.offset = unread := by
  cases h with
  | literal before hsource hp hg => rw [hsource, hp, List.drop_left]
  | inExpression before body hsource hopened hp =>
    rw [hsource, hp, hopened, ← List.append_assoc, ← List.length_append, List.drop_left]
  | inEscape before hsource hclosed hp hg =>
    have hlength : before.length + 1 = (before ++ [d.closing]).length := by simp
    rw [hsource, List.append_cons, hp, hclosed, hlength, List.drop_left]

/-- The character at an offset in front of what is left. -/
theorem Mirrors.getElem?_offset (h : Mirrors d source unread s r) :
    source[s.position.offset]? = unread.head? := by
  rw [← h.drop_offset, List.head?_drop]

/-- A text that is added to what was gathered is gathered from the same start. -/
theorem mirrors_gather {before raw : Text} {p q : Position} {g : Option Stretch}
    (hsource : source = before ++ (raw ++ unread)) (hp : p.offset = before.length)
    (hq : q.offset = p.offset + raw.length) (hg : Gathered before g) (value : Text)
    (tokens : List Token) :
    Mirrors d source unread
      ⟨.literal, q, (g.map Stretch.value).getD [] ++ value, g.map Stretch.start <|> some p, none,
        none, tokens⟩
      (Reader.gather ⟨.literal, q, g, tokens⟩ p value raw) := by
  rw [← List.append_assoc] at hsource
  rw [hp, ← List.length_append] at hq
  cases g with
  | none =>
    refine .literal (before ++ raw) (g := some ⟨p, value, raw⟩) hsource hq ?_
    rintro _ ⟨⟩
    exact ⟨before, rfl, hp⟩
  | some g =>
    obtain ⟨front, hbefore, hfront⟩ := hg g rfl
    refine .literal (before ++ raw) (g := some ⟨g.start, g.value ++ value, g.raw ++ raw⟩) hsource
      hq ?_
    rintro _ ⟨⟩
    exact ⟨front, by rw [hbefore, List.append_assoc], hfront⟩

/-- Cutting the text that was gathered makes the token that the reader makes of it. -/
theorem flush_eq {before : Text} {p : Position} {g : Option Stretch}
    (hsource : source = before ++ unread) (hp : p.offset = before.length)
    (hg : Gathered before g) (mode : ScanMode) (opened closed : Option Position)
    (tokens : List Token) :
    flush source
        ⟨mode, p, (g.map Stretch.value).getD [], g.map Stretch.start, opened, closed, tokens⟩ =
      ⟨mode, p, [], none, opened, closed, tokens ++ g.toList.map Stretch.token⟩ := by
  cases g with
  | none => simp [flush]
  | some g =>
    obtain ⟨front, rfl, hfront⟩ := hg g rfl
    have hraw : slice source g.start.offset p.offset = g.raw := by
      rw [hsource, List.append_assoc]
      exact slice_append front g.raw unread hfront (by rw [hp, hfront, List.length_append])
    simp only [flush, Option.map_some, hraw]
    rfl

/-- The part of a source that a text starts with which is unread. -/
theorem slice_of_drop {t : Text} {p : Nat} (h : source.drop p = t ++ rest) :
    slice source p (p + t.length) = t := by
  rw [slice, List.drop_take, h, Nat.add_sub_cancel_left, List.take_left]

/-- The next character, as it is cut out. -/
theorem Mirrors.slice_next (h : Mirrors d source (c :: rest) s r) :
    slice source s.position.offset (s.position.offset + 1) = [c] :=
  slice_of_drop (t := [c]) h.drop_offset

section Cuts

variable {before body : Text} {opened p : Position}
  (hsource : source = before ++ (d.opening :: body ++ c :: rest))
  (hopened : opened.offset = before.length)
  (hp : p.offset = opened.offset + (d.opening :: body).length)

include hsource hopened hp

/-- The text of an expression is cut out behind its mark. -/
theorem slice_body : slice source (opened.offset + 1) p.offset = body := by
  rw [hsource, List.cons_append, List.append_cons]
  refine slice_append (before ++ [d.opening]) body (c :: rest) ?_ ?_
  · rw [hopened, List.length_append, List.length_singleton]
  · rw [hp, List.length_cons]
    omega

/-- From its mark on, up to the next character, it is cut out with its delimiters. -/
theorem slice_raw : slice source opened.offset (p.offset + 1) = d.opening :: body ++ [c] := by
  rw [hsource, List.append_cons (d.opening :: body)]
  refine slice_append before (d.opening :: body ++ [c]) rest hopened ?_
  rw [hp, List.length_append, List.length_singleton, Nat.add_assoc]

end Cuts

/-! ## 3. Steps -/

/-- **A step in a text.** -/
theorem agrees_stepLiteral {before : Text} {p : Position} {g : Option Stretch}
    {tokens : List Token} (hsource : source = before ++ c :: rest) (hp : p.offset = before.length)
    (hg : Gathered before g) :
    let s : Scanner :=
      ⟨.literal, p, (g.map Stretch.value).getD [], g.map Stretch.start, none, none, tokens⟩
    Agrees d source (s.step d source c) (Reader.step d ⟨.literal, p, g, tokens⟩ c rest) := by
  intro s
  have hs : Mirrors d source (c :: rest) s ⟨.literal, p, g, tokens⟩ :=
    .literal before hsource hp hg
  have hone : slice source p.offset (p.offset + 1) = [c] := hs.slice_next
  have hdrop : source.drop p.offset = c :: rest := hs.drop_offset
  have hnext : source[p.offset + 1]? = rest.head? := by
    rw [← List.head?_drop, ← List.drop_drop, hdrop]
    rfl
  simp only [step, stepLiteral, Reader.step, hnext, s]
  by_cases hopening : c = d.opening
  · subst hopening
    by_cases hdoubled : rest.head? = some d.opening
    · obtain ⟨rest, rfl⟩ := List.head?_eq_some_iff.mp hdoubled
      have htwo : slice source p.offset (p.offset + 2) = [d.opening, d.opening] :=
        slice_of_drop (t := [d.opening, d.opening]) hdrop
      simp only [↓reduceIte, hdoubled, startText, gather, advance, htwo]
      exact mirrors_gather hsource hp (Position.advance_offset p _) hg _ _
    · simp only [↓reduceIte, hdoubled, flush_eq hsource hp hg, advance, hone]
      exact .inExpression before [] hsource hp (Position.advance_offset p _)
  by_cases hclosing : c = d.closing
  · subst hclosing
    simp only [↓reduceIte, hopening, startText, advance, hone]
    exact .inEscape before hsource hp (Position.advance_offset p _) hg
  · simp only [↓reduceIte, hopening, hclosing, startText, gather, advance, hone]
    exact mirrors_gather hsource hp (Position.advance_offset p _) hg _ _

/-- **A step behind a closing delimiter.** -/
theorem agrees_stepEscape {before : Text} {closed p : Position} {g : Option Stretch}
    {tokens : List Token} (hsource : source = before ++ d.closing :: c :: rest)
    (hclosed : closed.offset = before.length) (hp : p.offset = closed.offset + 1)
    (hg : Gathered before g) :
    let s : Scanner :=
      ⟨.inEscape, p, (g.map Stretch.value).getD [], g.map Stretch.start <|> some closed, none,
        some closed, tokens⟩
    Agrees d source (s.step d source c)
      (Reader.step d ⟨.inEscape closed, p, g, tokens⟩ c rest) := by
  intro s
  have hs : Mirrors d source (c :: rest) s ⟨.inEscape closed, p, g, tokens⟩ :=
    .inEscape before hsource hclosed hp hg
  have hone : slice source p.offset (p.offset + 1) = [c] := hs.slice_next
  simp only [step, stepEscape, Reader.step, s]
  by_cases hclosing : c = d.closing
  · subst hclosing
    simp only [↓reduceIte, gather, advance, hone]
    -- The text goes on at the mark, since the first of the two delimiters was not gathered yet.
    refine mirrors_gather hsource hclosed ?_ hg _ _
    rw [Position.advance_offset, hp]
    rfl
  · simp only [if_neg hclosing]
    rfl

/-- **A step in an expression.** -/
theorem agrees_stepExpression {before body : Text} {opened p : Position} {tokens : List Token}
    (hsource : source = before ++ (d.opening :: body ++ c :: rest))
    (hopened : opened.offset = before.length)
    (hp : p.offset = opened.offset + (d.opening :: body).length) :
    let s : Scanner := ⟨.inExpression, p, [], none, some opened, none, tokens⟩
    Agrees d source (s.step d source c)
      (Reader.step d ⟨.inExpression opened body, p, none, tokens⟩ c rest) := by
  intro s
  have hs : Mirrors d source (c :: rest) s ⟨.inExpression opened body, p, none, tokens⟩ :=
    .inExpression before body hsource hopened hp
  have hone : slice source p.offset (p.offset + 1) = [c] := hs.slice_next
  have hbody := slice_body hsource hopened hp
  have hraw := slice_raw hsource hopened hp
  simp only [step, stepExpression, Reader.step, s]
  by_cases hclosing : c = d.closing
  · subst hclosing
    simp only [↓reduceIte, advance, hone, hbody, hraw]
    -- The mark is taken back together with the expression that it was for.
    refine .literal (before ++ (d.opening :: body ++ [d.closing])) (g := none) ?_ ?_ ?_
    · rw [hsource]
      simp
    · rw [Position.advance_offset, hp, hopened]
      simp [Nat.add_assoc]
    · rintro _ ⟨⟩
  by_cases hopening : c = d.opening
  · subst hopening
    simp only [↓reduceIte, if_neg hclosing, hraw]
    rfl
  · simp only [if_neg hclosing, if_neg hopening, advance, hone]
    refine .inExpression before (body ++ [c]) ?_ hopened ?_
    · rw [hsource]
      simp
    · rw [Position.advance_offset, hp]
      simp [Nat.add_assoc]

/-- **Every step agrees**: a scanner that mirrors a reader goes on mirroring it, or stops with its
error. -/
theorem agrees_step (h : Mirrors d source (c :: rest) s r) :
    Agrees d source (s.step d source c) (r.step d c rest) := by
  cases h with
  | literal _ hsource hp hg => exact agrees_stepLiteral hsource hp hg
  | inExpression _ _ hsource hopened hp => exact agrees_stepExpression hsource hopened hp
  | inEscape _ hsource hclosed hp hg => exact agrees_stepEscape hsource hclosed hp hg

/-! ## 4. Runs -/

/-- The outcome of scanning is that of reading: the same tokens or the same error, and never a mark
that is not set. -/
def Ends (outcome : Except ScanStop (List Token)) (r : Reader) : Prop :=
  match outcome with
  | .ok ts => r.phase = .done ∧ r.tokens = ts
  | .error (.error e) => r.phase = .failed e
  | .error .unmarked => False

theorem ends_finish (h : Mirrors d source [] s r) : Ends (s.finish d source) (r.finish d) := by
  cases h with
  | literal before hsource hp hg =>
    simp only [finish, flush_eq hsource hp hg]
    exact ⟨rfl, rfl⟩
  | @inExpression before body opened _ _ hsource hopened hp =>
    have hbody : source.drop opened.offset = d.opening :: body := by
      rw [hsource, List.append_nil, hopened, List.drop_left]
    simp only [finish, hbody]
    rfl
  | inEscape before hsource hclosed hp hg => rfl

theorem scan_of_getElem?_eq_none (h : source[s.position.offset]? = none) :
    s.scan d source = s.finish d source := by
  rw [scan]
  split
  · rfl
  · next hc =>
    rw [h] at hc
    cases hc

theorem scan_of_getElem?_eq_some (h : source[s.position.offset]? = some c) :
    s.scan d source = (s.step d source c).bind (scan d source) := by
  rw [scan]
  split
  · next hc =>
    rw [h] at hc
    cases hc
  · next hc =>
    rw [h] at hc
    cases hc
    split
    · next hs => rw [hs]; rfl
    · next hs => rw [hs]; rfl

/-- No phase that a scanner can mirror is a failure. -/
theorem Mirrors.phase_ne_failed (h : Mirrors d source unread s r) (e : TemplateError) :
    r.phase ≠ .failed e := by
  cases h <;> simp

/-- **A whole run ends as that of the reader.** -/
theorem outcome_scan (t : Text) {s : Scanner} {r : Reader} (h : Mirrors d source t s r) :
    Ends (s.scan d source) (r.read d t) := by
  have hhead := h.getElem?_offset
  match t with
  | [] =>
    rw [scan_of_getElem?_eq_none hhead, Reader.read_nil]
    exact ends_finish h
  | c :: rest =>
    have hstep := agrees_step h
    have hshorter := Reader.length_step_le d r c rest
    rw [scan_of_getElem?_eq_some hhead, Reader.read_cons h.phase_ne_failed]
    cases houtcome : s.step d source c with
    | ok s' =>
      rw [houtcome] at hstep
      exact outcome_scan (r.step d c rest).2 hstep
    | error stop =>
      rw [houtcome] at hstep
      cases stop with
      | unmarked => exact hstep.elim
      | error e =>
        -- The scanner gives up at once, and the reader stays where it failed.
        have hfailed : (r.step d c rest).1.phase = .failed e := hstep
        rw [Reader.read_of_failed hfailed]
        exact hfailed
termination_by t.length

/-- The reader knows the outcome. -/
theorem Ends.unique {x y : Except ScanStop (List Token)} (hx : Ends x r) (hy : Ends y r) :
    x = y := by
  have hdone {ts : List Token} {e : TemplateError} (h : Ends (.ok ts) r)
      (h' : Ends (.error (.error e)) r) : False := by
    have hfailed : r.phase = .failed e := h'
    rw [h.1] at hfailed
    cases hfailed
  match x, y with
  | .error .unmarked, _ => exact hx.elim
  | _, .error .unmarked => exact hy.elim
  | .ok ts, .ok ts' => rw [← hx.2, ← hy.2]
  | .ok ts, .error (.error e) => exact (hdone hx hy).elim
  | .error (.error e), .ok ts => exact (hdone hy hx).elim
  | .error (.error e), .error (.error e') =>
    have hfailed : r.phase = .failed e := hx
    have hfailed' : r.phase = .failed e' := hy
    rw [hfailed] at hfailed'
    cases hfailed'
    rfl

/-- **No mark is ever missed**: scanning a template gives its tokens, or the error in it. -/
theorem scan_start (d : Delimiters) (source : Text) :
    start.scan d source = (Token.tokenize d source).mapError .error := by
  have hstart : Mirrors d source source start Reader.start :=
    .literal [] (g := none) rfl rfl (by rintro _ ⟨⟩)
  refine (outcome_scan source hstart).unique ?_
  have hread := Reader.outcome_read d source
  cases hts : Token.tokenize d source with
  | ok ts =>
    rw [hts] at hread
    exact hread
  | error e =>
    rw [hts] at hread
    exact hread

end Scanner

end Phrasing
