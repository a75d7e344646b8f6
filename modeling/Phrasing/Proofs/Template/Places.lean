/-
# The places of a template

Everything that is read from a template knows where it stands: tokens, expressions, errors and
the accessors of paths.  All of these places are reached by reading on from the start of the
template, so their lines and columns are what counting gives (`places_agree`), also inside an
expression of several lines.  The bracket or dot of an accessor stands at its offset.
-/
import Phrasing.Proofs.Template.Acceptance
import Phrasing.Proofs.Template.Encoding
import Phrasing.Proofs.Text.Places

namespace Phrasing

/-- An error of grammar whose line and column agree with its offset. -/
def TemplateError.Agrees (source : Text) (e : TemplateError) : Prop :=
  ∃ (p : Position) (fault : GrammarFault), p.Agrees source ∧ e.offset = p.offset ∧
    e.fault = .grammar p.line p.column fault

/-! ## 1. Tokens -/

/-- The tokens of passages stand where reading on from the first of them leads.  Behind the place
of an expression stands its text. -/
theorem Passage.standsBefore_of_mem_tokens {d : Delimiters} {source : Text} {p : Position}
    {ps : List Passage} (h : p.StandsBefore source (sourceAll d ps)) :
    ∀ t ∈ tokens d p ps, ∃ rest, t.position.StandsBefore source rest ∧
      (t.kind = .expression → t.value <+: rest) := by
  induction ps generalizing p with
  | nil =>
    intro t ht
    rw [List.mem_singleton.mp ht]
    exact ⟨_, h, fun hkind => by cases hkind⟩
  | cons q qs ih =>
    intro t ht
    rcases List.mem_cons.mp ht with rfl | ht
    · cases q with
      | text s => exact ⟨_, h, fun hkind => by cases hkind⟩
      | expression body =>
        have hopening : p.StandsBefore source
            (d.opening :: (body ++ d.closing :: sourceAll d qs)) := by
          simpa [sourceAll, Passage.source] using h
        exact ⟨_, hopening.step, fun _ => ⟨_, rfl⟩⟩
    · exact ih (Position.StandsBefore.advance h) t ht

theorem Token.standsBefore_of_tokenize {d : Delimiters} {source : Text} {ts : List Token}
    (h : tokenize d source = .ok ts) : ∀ t ∈ ts, ∃ rest, t.position.StandsBefore source rest ∧
      (t.kind = .expression → t.value <+: rest) := by
  obtain ⟨ps, -, rfl, rfl⟩ := tokenize_eq_ok_iff.mp h
  exact Passage.standsBefore_of_mem_tokens (Position.standsBefore_start _)

/-! ## 2. Errors -/

/-- An error of the delimiters is at the stop, or at the delimiter inside the expression. -/
theorem LexicalStop.agrees_error {d : Delimiters} {source rest : Text} {p : Position}
    {stop : LexicalStop} (hp : p.StandsBefore source rest) (hstop : stop.Fits d rest) :
    (stop.error d p).Agrees source := by
  cases stop with
  | loneClosing => exact ⟨p, _, hp.agrees, rfl, rfl⟩
  | unclosed body => exact ⟨p, _, hp.agrees, rfl, rfl⟩
  | nested body =>
    obtain ⟨more, rfl, -, -⟩ := hstop
    have hnested : (p.advance (d.opening :: body)).StandsBefore source (d.opening :: more) :=
      Position.StandsBefore.advance (t := d.opening :: body) hp
    exact ⟨_, _, hnested.agrees, rfl, rfl⟩

theorem Token.agrees_of_tokenize {d : Delimiters} {source : Text} {e : TemplateError}
    (h : tokenize d source = .error e) : e.Agrees source := by
  obtain ⟨ls, stop, rest, hls, rfl, hstop⟩ := Lexeme.exists_reading d source
  rw [tokenize, Lexeme.split_eq_iff.mpr ⟨hls, rest, rfl, hstop⟩] at h
  cases stop with
  | none => cases h
  | some stop =>
    cases h
    exact LexicalStop.agrees_error (Position.standsBefore_start _).advance hstop

/-- An error inside an expression is where reading the expression up to it leads. -/
theorem Path.agrees_of_parse {source s rest : Text} {p : Position} {e : TemplateError}
    (hp : p.StandsBefore source (s ++ rest)) (h : parse p s = .error (.error e)) :
    e.Agrees source := by
  unfold parse at h
  split at h
  · cases h
  · next refusal _ =>
    cases refusal with
    | number f => cases h
    | fault f unread =>
      cases h
      generalize s.length - unread.length = n
      have hsplit : s ++ rest = s.take n ++ (s.drop n ++ rest) := by
        rw [← List.append_assoc, List.take_append_drop]
      rw [hsplit] at hp
      exact ⟨_, _, hp.advance.agrees, rfl, rfl⟩

/-- Every error of grammar in a template agrees with its offset. -/
theorem Template.agrees_of_parse {d : Delimiters} {source : Text} {e : TemplateError}
    (h : parse d source = .error (.error e)) : e.Agrees source := by
  unfold parse at h
  split at h
  · next htokens =>
    cases h
    exact Token.agrees_of_tokenize htokens
  · next ts htokens =>
    rcases bind_eq_error.mp h with hfault | ⟨ss, -, hss⟩
    · obtain ⟨t, ht, hkind, hpath⟩ := Segment.exists_fault_of_ofTokens hfault
      obtain ⟨rest, hrest, hvalue⟩ := Token.standsBefore_of_tokenize htokens t ht
      obtain ⟨more, rfl⟩ := hvalue hkind
      exact Path.agrees_of_parse hrest hpath
    · cases hss

/-! ## 3. Accessors -/

namespace Accessor

/-- The character that an accessor starts with. -/
def mark : Accessor → Char
  | index .. => '['
  | field .. => '.'

/-- An accessor stands in a source where it notes: its bracket or dot does, and with it the whole
text of the accessor. -/
structure StandsIn (source : Text) (a : Accessor) : Prop where
  mark : source[a.offset]? = some a.mark
  spelled : ∃ s rest, source.drop a.offset = s ++ rest ∧ Spells s a

theorem Spells.head? {s : Text} {a : Accessor} (h : Spells s a) : s.head? = some a.mark := by
  cases h <;> rfl

theorem StandsIn.of_spells {source s rest : Text} {a : Accessor}
    (h : source.drop a.offset = s ++ rest) (hs : Spells s a) : a.StandsIn source where
  mark := by
    rw [← List.head?_drop, h, List.head?_append, hs.head?]
    rfl
  spelled := ⟨s, rest, h, hs⟩

end Accessor

/-- The accessors of an expression stand inside it, one behind the other. -/
theorem Path.accessors_stand {source s rest : Text} {p : Position} {path : Path}
    (hp : p.StandsBefore source (s ++ rest)) (h : parse p s = .ok path) :
    (∀ a ∈ path.accessors,
      a.StandsIn source ∧ p.offset ≤ a.offset ∧ a.offset < p.offset + s.length) ∧
    path.accessors.Pairwise (·.offset < ·.offset) := by
  unfold parse at h
  split at h
  · next hread =>
    cases h
    obtain ⟨before, row, after, rfl, hrow⟩ := exists_spelled_of_read hread
    refine ⟨fun a ha => ?_, hrow.pairwise⟩
    obtain ⟨before', t, after', rfl, hoffset, ht⟩ := hrow.exists_append a ha
    have hpos := ht.length_pos
    have hdrop : source.drop a.offset = t ++ (after' ++ (after ++ rest)) := by
      have hbefore : a.offset = p.offset + (before ++ before').length := by
        rw [hoffset, List.length_append, Nat.add_assoc]
      rw [hbefore, ← List.drop_drop, hp.drop]
      simp only [List.append_assoc]
      rw [← List.append_assoc, List.drop_left]
    refine ⟨.of_spells hdrop ht, by omega, ?_⟩
    simp only [List.length_append]
    omega
  · cases h

/-! ## 4. Templates -/

/-- **Lines, columns and offsets agree**, whatever the delimiters.

* The place of every token, the end token included, and of every expression is in the source,
  and its line and column are what counting line feeds gives.
* So is the place of every error of grammar, whether the delimiters are at fault or the text of
  an expression.
* Every accessor of an expression stands at its offset in the source, inside the expression, and
  the offsets increase. -/
theorem Template.places_agree (d : Delimiters) (source : Text) :
    (∀ ts, Token.tokenize d source = .ok ts → ∀ t ∈ ts, t.position.Agrees source) ∧
    (∀ e, Token.tokenize d source = .error e → e.Agrees source) ∧
    (∀ e, parse d source = .error (.error e) → e.Agrees source) ∧
    ∀ t, parse d source = .ok t → ∀ s path p, Segment.expression s path p ∈ t.segments →
      p.Agrees source ∧
      (∀ a ∈ path.accessors,
        a.StandsIn source ∧ p.offset ≤ a.offset ∧ a.offset < p.offset + s.length) ∧
      path.accessors.Pairwise (·.offset < ·.offset) := by
  refine ⟨?_, fun e => Token.agrees_of_tokenize, fun e => agrees_of_parse, ?_⟩
  · intro ts h t ht
    obtain ⟨rest, hrest, -⟩ := Token.standsBefore_of_tokenize h t ht
    exact hrest.agrees
  · intro t h s path p hs
    obtain ⟨ts, ss, htokens, hss, rfl⟩ := parse_eq_ok_iff.mp h
    obtain ⟨u, hu, hmade⟩ := Segment.exists_ofToken_of_mem hss _ hs
    obtain ⟨rest, hrest, hvalue⟩ := Token.standsBefore_of_tokenize htokens u hu
    cases hmade with
    | expression path hkind hpath =>
      obtain ⟨more, rfl⟩ := hvalue hkind
      exact ⟨hrest.agrees, Path.accessors_stand hrest hpath⟩

end Phrasing
