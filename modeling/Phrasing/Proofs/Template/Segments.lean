/-
# The segments of a template

What it takes for a template to be read: `parse_eq_ok_iff` for the template, and
`ofTokens_cons_eq_ok` for its segments, one token at a time.  Every token but the end token makes
a segment, and an expression of a template is never empty (`sourced_of_parse`).
-/
import Phrasing.Proofs.Outcome
import Phrasing.Template.Basic

namespace Phrasing

theorem Path.ne_nil_of_parse {start : Position} {source : Text} {p : Path}
    (h : Path.parse start source = .ok p) : source ≠ [] := by
  rintro rfl
  cases h

namespace Segment

/-- The segment that a token makes: its text, or the path of its expression. -/
inductive OfToken (t : Token) : Segment → Prop where
  | literal : t.kind = .text → OfToken t (.literal t.value t.position.offset)
  | expression (path : Path) : t.kind = .expression → Path.parse t.position t.value = .ok path →
      OfToken t (.expression t.value path t.position)

/-- **The segments of tokens** are those that the tokens make, up to the end token. -/
theorem ofTokens_cons_eq_ok {t : Token} {ts : List Token} {ss : List Segment}
    (h : ofTokens (t :: ts) = .ok ss) :
    (t.kind = .finish ∧ ss = []) ∨
      ∃ s more, OfToken t s ∧ ofTokens ts = .ok more ∧ ss = s :: more := by
  rw [ofTokens] at h
  split at h
  · next hkind =>
    cases h
    exact .inl ⟨hkind, rfl⟩
  · next hkind =>
    obtain ⟨more, hmore, hss⟩ := bind_eq_ok.mp h
    cases hss
    exact .inr ⟨_, more, .literal hkind, hmore, rfl⟩
  · next hkind =>
    obtain ⟨path, hpath, hrest⟩ := bind_eq_ok.mp h
    obtain ⟨more, hmore, hss⟩ := bind_eq_ok.mp hrest
    cases hss
    exact .inr ⟨_, more, .expression path hkind hpath, hmore, rfl⟩

/-- A token that makes a segment puts it in front of those that follow. -/
theorem ofTokens_cons {t : Token} {ts : List Token} {s : Segment} {ss : List Segment}
    (hs : OfToken t s) (hss : ofTokens ts = .ok ss) : ofTokens (t :: ts) = .ok (s :: ss) := by
  cases hs with
  | literal hkind =>
    rw [ofTokens, hkind]
    simp only [hss]
    rfl
  | expression path hkind hpath =>
    rw [ofTokens, hkind]
    simp only [hpath, hss]
    rfl

/-- Every segment is made by one of the tokens. -/
theorem exists_ofToken_of_mem {ts : List Token} {ss : List Segment} (h : ofTokens ts = .ok ss) :
    ∀ s ∈ ss, ∃ t ∈ ts, OfToken t s := by
  induction ts generalizing ss with
  | nil =>
    cases h
    exact List.forall_mem_nil _
  | cons t ts ih =>
    rcases ofTokens_cons_eq_ok h with ⟨-, rfl⟩ | ⟨s, more, hs, hmore, rfl⟩
    · exact List.forall_mem_nil _
    · refine List.forall_mem_cons.mpr ⟨⟨t, List.mem_cons_self, hs⟩, fun s' hs' => ?_⟩
      obtain ⟨u, hu, hs'⟩ := ih hmore s' hs'
      exact ⟨u, List.mem_cons_of_mem t hu, hs'⟩

/-- Where tokens have no segments, the path of one of the expressions is at fault. -/
theorem exists_fault_of_ofTokens {ts : List Token} {f : ParseFault}
    (h : ofTokens ts = .error f) :
    ∃ t ∈ ts, t.kind = .expression ∧ Path.parse t.position t.value = .error f := by
  induction ts with
  | nil => cases h
  | cons t ts ih =>
    have hmore (h : ofTokens ts = .error f) : ∃ u ∈ t :: ts,
        u.kind = .expression ∧ Path.parse u.position u.value = .error f := by
      obtain ⟨u, hu, hfault⟩ := ih h
      exact ⟨u, List.mem_cons_of_mem t hu, hfault⟩
    rw [ofTokens] at h
    split at h
    · cases h
    · rcases bind_eq_error.mp h with hts | ⟨ss, -, hss⟩
      · exact hmore hts
      · cases hss
    · next hkind =>
      rcases bind_eq_error.mp h with hpath | ⟨path, -, hrest⟩
      · exact ⟨t, List.mem_cons_self, hkind, hpath⟩
      · rcases bind_eq_error.mp hrest with hts | ⟨ss, -, hss⟩
        · exact hmore hts
        · cases hss

/-- A segment that is no expression, or one with a source text to blame. -/
def Sourced : Segment → Prop
  | literal .. => True
  | expression source .. => source ≠ []

theorem sourced_of_ofTokens {ts : List Token} {ss : List Segment}
    (h : ofTokens ts = .ok ss) : ∀ s ∈ ss, s.Sourced := by
  induction ts generalizing ss with
  | nil =>
    cases h
    exact List.forall_mem_nil _
  | cons t ts ih =>
    rcases ofTokens_cons_eq_ok h with ⟨-, rfl⟩ | ⟨s, more, hs, hmore, rfl⟩
    · exact List.forall_mem_nil _
    · refine List.forall_mem_cons.mpr ⟨?_, ih hmore⟩
      cases hs with
      | literal => trivial
      | expression path _ hpath => exact Path.ne_nil_of_parse hpath

end Segment

namespace Template

/-- **A template is read** if its source has tokens and these have segments. -/
theorem parse_eq_ok_iff {d : Delimiters} {source : Text} {t : Template} :
    parse d source = .ok t ↔
      ∃ ts ss, Token.tokenize d source = .ok ts ∧ Segment.ofTokens ts = .ok ss ∧
        t = ⟨source, ss⟩ := by
  unfold parse
  constructor
  · intro h
    cases hts : Token.tokenize d source with
    | error e =>
      rw [hts] at h
      cases h
    | ok ts =>
      rw [hts] at h
      obtain ⟨ss, hss, ht⟩ := bind_eq_ok.mp h
      cases ht
      exact ⟨ts, ss, rfl, hss, rfl⟩
  · rintro ⟨ts, ss, hts, hss, rfl⟩
    rw [hts]
    exact bind_eq_ok.mpr ⟨ss, hss, rfl⟩

/-- Every expression that was read has a source text. -/
theorem sourced_of_parse {d : Delimiters} {source : Text} {t : Template}
    (h : parse d source = .ok t) : ∀ s ∈ t.segments, s.Sourced := by
  obtain ⟨ts, ss, -, hss, rfl⟩ := parse_eq_ok_iff.mp h
  exact Segment.sourced_of_ofTokens hss

end Template

end Phrasing
