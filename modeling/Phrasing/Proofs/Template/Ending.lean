/-
# How reading ends

Reading the tokens of a template ends in one of four ways: with all of it read, at a closing
delimiter that stands alone, at an opening one that is never closed, or at an opening one inside
an expression.  `Ending.Holds` says what each of them takes, in terms of the source alone: what
is in front of an offset can be read, and which characters stand at and behind it.

Each ending is the same as a stop behind the lexemes of the source (`holds_ofStop`,
`exists_stop_of_holds`).  The lexemes and the stop are unique, so **every source has exactly one
ending**, and the ending decides the outcome (`tokenize_ending`).
-/
import Mathlib.Logic.ExistsUnique
import Phrasing.Proofs.Template.Reader

namespace Phrasing

/-! ## 1. The four endings -/

/-- The source can be read into tokens. -/
def Token.Reads (d : Delimiters) (source : Text) : Prop := ∃ ts, tokenize d source = .ok ts

/-- How reading ends, and the offsets that matter to it. -/
inductive Ending where
  | complete
  /-- The closing delimiter at `p` stands alone. -/
  | loneClosing (p : Nat)
  /-- The expression that opens at `p` is not closed before the end. -/
  | unclosed (p : Nat)
  /-- The expression that opens at `p` has another one open inside it, at `q`. -/
  | nested (p q : Nat)
deriving DecidableEq, Repr

namespace Ending

/-- What has to hold of a source for each ending.  Right behind an opening delimiter, another one
makes it a doubled one; so some text stands between two that are nested. -/
def Holds (d : Delimiters) (source : Text) : Ending → Prop
  | complete => Token.Reads d source
  | loneClosing p =>
    Token.Reads d (source.take p) ∧ source[p]? = some d.closing ∧
      source[p + 1]? ≠ some d.closing
  | unclosed p =>
    Token.Reads d (source.take p) ∧ source[p]? = some d.opening ∧
      source[p + 1]? ≠ some d.opening ∧ ∀ i, p < i → ∀ c ∈ source[i]?, ¬ d.Marks c
  | nested p q =>
    p + 1 < q ∧ Token.Reads d (source.take p) ∧ source[p]? = some d.opening ∧
      source[q]? = some d.opening ∧ ∀ i, p < i → i < q → ∀ c ∈ source[i]?, ¬ d.Marks c

/-- An error of grammar at an offset of a source. -/
def errorAt (source : Text) (p : Nat) (blamed : Text) (fault : GrammarFault) : TemplateError :=
  let place := Position.start.advance (source.take p)
  ⟨p, blamed, .grammar place.line place.column fault⟩

/-- The error of each ending.  A closing delimiter is blamed alone, an expression with all of its
text up to where reading stopped. -/
def error? (d : Delimiters) (source : Text) : Ending → Option TemplateError
  | complete => none
  | loneClosing p => some (errorAt source p [d.closing] (.loneDelimiter [d.closing]))
  | unclosed p => some (errorAt source p (source.drop p) (.unbalanced [d.opening]))
  | nested p q =>
    some (errorAt source q ((source.drop p).take (q + 1 - p)) (.unbalanced [d.opening]))

/-! ## 2. Sources that can be read -/

variable {d : Delimiters} {source : Text}

theorem reads_rawAll {ls : List Lexeme} (h : ∀ l ∈ ls, l.Fits d) :
    Token.Reads d (Lexeme.rawAll d ls) := by
  have hsplit : Lexeme.split d (Lexeme.rawAll d ls) = (ls, none) :=
    Lexeme.split_eq_iff.mpr ⟨h, [], (List.append_nil _).symm, rfl⟩
  exact ⟨_, by rw [Token.tokenize, hsplit]⟩

theorem exists_lexemes_of_reads (h : Token.Reads d source) :
    ∃ ls : List Lexeme, (∀ l ∈ ls, l.Fits d) ∧ source = Lexeme.rawAll d ls := by
  obtain ⟨ts, hts⟩ := h
  unfold Token.tokenize at hts
  split at hts
  · next ls hsplit =>
    obtain ⟨hls, rest, hsource, rfl⟩ := Lexeme.split_eq_iff.mp hsplit
    exact ⟨ls, hls, by rw [hsource, List.append_nil]⟩
  · cases hts

/-- A source whose first `p` characters can be read is their lexemes and the characters from `p`
on. -/
theorem exists_lexemes_of_reads_take {p : Nat} {c : Char} (h : Token.Reads d (source.take p))
    (hc : source[p]? = some c) :
    ∃ ls : List Lexeme, (∀ l ∈ ls, l.Fits d) ∧ (Lexeme.rawAll d ls).length = p ∧
      source = Lexeme.rawAll d ls ++ c :: source.drop (p + 1) := by
  obtain ⟨ls, hls, htake⟩ := exists_lexemes_of_reads h
  obtain ⟨hp, rfl⟩ := List.getElem?_eq_some_iff.mp hc
  refine ⟨ls, hls, ?_, ?_⟩
  · rw [← htake, List.length_take]
    omega
  · rw [← htake, ← List.drop_eq_getElem_cons hp, List.take_append_drop]

theorem free_iff_getElem? {t : Text} : d.Free t ↔ ∀ i : Nat, ∀ c ∈ t[i]?, ¬ d.Marks c := by
  constructor
  · intro h i c hc
    exact h c (List.mem_of_getElem? hc)
  · intro h c hc
    obtain ⟨i, hi⟩ := List.mem_iff_getElem?.mp hc
    exact h i c hi

/-! ## 3. Endings and stops -/

/-- The ending that a stop behind `p` characters makes. -/
def ofStop (p : Nat) : Option LexicalStop → Ending
  | none => complete
  | some .loneClosing => loneClosing p
  | some (.unclosed _) => unclosed p
  | some (.nested body) => nested p (p + 1 + body.length)

/-- **A stop behind lexemes is an ending.** -/
theorem holds_ofStop {ls : List Lexeme} {stop : Option LexicalStop} {rest : Text}
    (hls : ∀ l ∈ ls, l.Fits d) (hstop : Lexeme.StopsAt d stop rest) :
    (ofStop (Lexeme.rawAll d ls).length stop).Holds d (Lexeme.rawAll d ls ++ rest) := by
  have hreads := reads_rawAll hls
  generalize Lexeme.rawAll d ls = before at hreads
  -- Characters behind `before` are looked up in what follows it.
  have hbehind (i : Nat) : (before ++ rest)[before.length + i]? = rest[i]? := by
    rw [List.getElem?_append_right (Nat.le_add_right _ _), Nat.add_sub_cancel_left]
  have hat := hbehind 0
  rw [Nat.add_zero] at hat
  match stop with
  | none =>
    obtain rfl : rest = [] := hstop
    simpa [ofStop, Holds] using hreads
  | some .loneClosing =>
    obtain ⟨rest, rfl, hhead⟩ := hstop
    refine ⟨by rwa [List.take_left], by rw [hat]; rfl, ?_⟩
    rw [hbehind 1, List.getElem?_cons_succ, ← List.head?_eq_getElem?]
    exact hhead
  | some (.unclosed body) =>
    obtain ⟨rfl, hbody⟩ := hstop
    refine ⟨by rwa [List.take_left], by rw [hat]; rfl, ?_, ?_⟩
    · rw [hbehind 1, List.getElem?_cons_succ]
      exact fun h => free_iff_getElem?.mp hbody 0 _ h Delimiters.marks_opening
    · intro i hi c hc
      obtain ⟨j, rfl⟩ := Nat.exists_eq_add_of_lt hi
      rw [Nat.add_assoc, hbehind, List.getElem?_cons_succ] at hc
      exact free_iff_getElem?.mp hbody j c hc
  | some (.nested body) =>
    obtain ⟨rest, rfl, hne, hbody⟩ := hstop
    have hlength := List.length_pos_iff.mpr hne
    refine ⟨by omega, by rwa [List.take_left], by rw [hat]; rfl, ?_, ?_⟩
    · rw [Nat.add_assoc, hbehind, Nat.add_comm, List.getElem?_cons_succ,
        List.getElem?_append_right (Nat.le_refl _), Nat.sub_self]
      rfl
    · intro i hi hq c hc
      obtain ⟨j, rfl⟩ := Nat.exists_eq_add_of_lt hi
      have hj : j < body.length := by omega
      rw [Nat.add_assoc, hbehind, List.getElem?_cons_succ, List.getElem?_append_left hj] at hc
      exact free_iff_getElem?.mp hbody j c hc

/-- **An ending is a stop behind lexemes.** -/
theorem exists_stop_of_holds {k : Ending} (h : k.Holds d source) :
    ∃ (ls : List Lexeme) (stop : Option LexicalStop) (rest : Text), (∀ l ∈ ls, l.Fits d) ∧
      source = Lexeme.rawAll d ls ++ rest ∧ Lexeme.StopsAt d stop rest ∧
      k = ofStop (Lexeme.rawAll d ls).length stop := by
  cases k with
  | complete =>
    obtain ⟨ls, hls, hsource⟩ := exists_lexemes_of_reads h
    exact ⟨ls, none, [], hls, by rw [hsource, List.append_nil], rfl, rfl⟩
  | loneClosing p =>
    obtain ⟨hreads, hp, hnext⟩ := h
    obtain ⟨ls, hls, hlength, hsource⟩ := exists_lexemes_of_reads_take hreads hp
    refine ⟨ls, some .loneClosing, _, hls, hsource, ⟨_, rfl, ?_⟩, by rw [hlength]; rfl⟩
    rwa [List.head?_drop]
  | unclosed p =>
    obtain ⟨hreads, hp, -, hbehind⟩ := h
    obtain ⟨ls, hls, hlength, hsource⟩ := exists_lexemes_of_reads_take hreads hp
    refine ⟨ls, some (.unclosed (source.drop (p + 1))), _, hls, hsource, ⟨rfl, ?_⟩,
      by rw [hlength]; rfl⟩
    refine free_iff_getElem?.mpr fun i c hc => ?_
    rw [List.getElem?_drop] at hc
    exact hbehind _ (by omega) c hc
  | nested p q =>
    obtain ⟨hpq, hreads, hp, hq, hbetween⟩ := h
    obtain ⟨ls, hls, hlength, hsource⟩ := exists_lexemes_of_reads_take hreads hp
    obtain ⟨hq, hopening⟩ := List.getElem?_eq_some_iff.mp hq
    -- The text between the two opening delimiters.
    let body := (source.drop (p + 1)).take (q - (p + 1))
    have hbody : body.length = q - (p + 1) := by
      simp only [body, List.length_take, List.length_drop]
      omega
    have hrest : source.drop (p + 1) = body ++ d.opening :: source.drop (q + 1) := by
      rw [← hopening, ← List.drop_eq_getElem_cons hq]
      have hdrop : source.drop q = (source.drop (p + 1)).drop (q - (p + 1)) := by
        rw [List.drop_drop]
        congr 1
        omega
      rw [hdrop, List.take_append_drop]
    refine ⟨ls, some (.nested body), _, hls, hsource, ⟨source.drop (q + 1), ?_, ?_, ?_⟩, ?_⟩
    · rw [hrest]
    · exact List.length_pos_iff.mp (by omega)
    · refine free_iff_getElem?.mpr fun i c hc => ?_
      have hi : i < q - (p + 1) := by
        rw [← hbody]
        exact (List.getElem?_eq_some_iff.mp hc).1
      rw [List.getElem?_take_of_lt hi, List.getElem?_drop] at hc
      exact hbetween _ (by omega) (by omega) c hc
    · rw [ofStop, hlength, hbody]
      congr 1
      omega

/-- An error behind some text is at the place that reading the text leads to. -/
theorem errorAt_append (before rest blamed : Text) (fault : GrammarFault) :
    errorAt (before ++ rest) before.length blamed fault =
      let place := Position.start.advance before
      ⟨place.offset, blamed, .grammar place.line place.column fault⟩ := by
  simp only [errorAt, List.take_left, Position.offset_start_advance]

/-- The error of an ending is the error of the stop. -/
theorem error?_ofStop {before rest : Text} {stop : Option LexicalStop}
    (hstop : Lexeme.StopsAt d stop rest) :
    (ofStop before.length stop).error? d (before ++ rest) =
      stop.map (·.error d (Position.start.advance before)) := by
  match stop with
  | none => rfl
  | some .loneClosing =>
    rw [ofStop, error?, errorAt_append]
    rfl
  | some (.unclosed body) =>
    obtain ⟨rfl, -⟩ := hstop
    rw [ofStop, error?, errorAt_append, List.drop_left]
    rfl
  | some (.nested body) =>
    obtain ⟨rest, rfl, -, -⟩ := hstop
    -- The error is behind the first delimiter and the body.
    have hlength : before.length + 1 + body.length = (before ++ d.opening :: body).length := by
      simp only [List.length_append, List.length_cons]
      omega
    have hsource : before ++ d.opening :: (body ++ d.opening :: rest) =
        (before ++ d.opening :: body) ++ d.opening :: rest := by simp
    have hblamed : ((before ++ d.opening :: (body ++ d.opening :: rest)).drop before.length).take
        (before.length + 1 + body.length + 1 - before.length) =
          d.opening :: body ++ [d.opening] := by
      have hbehind : d.opening :: (body ++ d.opening :: rest) =
          (d.opening :: body ++ [d.opening]) ++ rest := by simp
      rw [List.drop_left, hbehind]
      refine List.take_left' ?_
      simp only [List.length_append, List.length_cons, List.length_nil]
      omega
    rw [ofStop, error?, hblamed, hlength, hsource, errorAt_append]
    simp only [Position.advance_append]
    rfl

end Ending

/-! ## 4. Every source has one ending -/

/-- **Exactly one outcome.**  Every source has exactly one of the four endings, and whichever
holds of it decides what becomes of it.

* If all of it can be read, it has tokens, and the reader is done.
* If a closing delimiter stands alone, or an expression is not closed before the source ends or
  another one opens, this is the error: it blames the lone delimiter, the delimiter that is not
  closed, or the one inside the expression.  The reader has then failed. -/
theorem Token.tokenize_ending (d : Delimiters) (source : Text) :
    (∃! k : Ending, k.Holds d source) ∧
    ∀ k : Ending, k.Holds d source →
      match k.error? d source with
      | none => Token.Reads d source ∧ (Reader.start.read d source).phase = .done
      | some e =>
        tokenize d source = .error e ∧ (Reader.start.read d source).phase = .failed e := by
  obtain ⟨ls, stop, rest, hls, hsource, hstop⟩ := Lexeme.exists_reading d source
  have hsplit := Lexeme.split_eq_iff.mpr ⟨hls, rest, hsource, hstop⟩
  have hunique : ∀ k : Ending, k.Holds d source →
      k = Ending.ofStop (Lexeme.rawAll d ls).length stop := by
    intro k hk
    obtain ⟨ls', stop', rest', hls', hsource', hstop', rfl⟩ := Ending.exists_stop_of_holds hk
    have hsplit' := Lexeme.split_eq_iff.mpr ⟨hls', rest', hsource', hstop'⟩
    rw [hsplit, Prod.mk.injEq] at hsplit'
    rw [hsplit'.1, hsplit'.2]
  refine ⟨⟨_, ?_, hunique⟩, ?_⟩
  · rw [hsource]
    exact Ending.holds_ofStop hls hstop
  · intro k hk
    have hread := Reader.outcome_read d source
    rw [tokenize, hsplit] at hread
    have herror : (Ending.ofStop (Lexeme.rawAll d ls).length stop).error? d
        (Lexeme.rawAll d ls ++ rest) = _ := Ending.error?_ofStop hstop
    rw [← hsource, ← hunique k hk] at herror
    rw [herror]
    cases stop with
    | none => exact ⟨⟨_, by rw [tokenize, hsplit]⟩, hread.1⟩
    | some stop => exact ⟨by rw [tokenize, hsplit], hread⟩

end Phrasing
