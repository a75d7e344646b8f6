/-
# Reading lexemes

A lexeme fits a pair of delimiters if its source text is read as that lexeme: plain characters
are no delimiters, doubled ones are, and no delimiter stands inside an expression.

Reading is settled by three facts.

* A fitting lexeme is read off the front of any text (`split_raw_append`), so **no lookahead
  reaches past a lexeme**: what follows it does not matter.
* Reading stops exactly in front of the texts that `LexicalStop.Fits` describes
  (`split_of_stopsAt`).
* Every text is fitting lexemes and then one of these ends (`exists_reading`).

Hence `split_eq_iff`: the lexemes of a text and the stop behind them are the only such
decomposition of it.
-/
import Phrasing.Template.Lexeme

namespace Phrasing

/-! ## 1. Lexemes that fit -/

namespace Delimiters

/-- One of the two delimiters. -/
def Marks (d : Delimiters) (c : Char) : Prop := c = d.opening ∨ c = d.closing

instance (d : Delimiters) : DecidablePred d.Marks := fun c =>
  inferInstanceAs (Decidable (c = d.opening ∨ c = d.closing))

/-- A text without delimiters. -/
def Free (d : Delimiters) (t : Text) : Prop := ∀ c ∈ t, ¬ d.Marks c

variable {d : Delimiters}

theorem marks_opening : d.Marks d.opening := Or.inl rfl

theorem marks_closing : d.Marks d.closing := Or.inr rfl

theorem closing_ne_opening : d.closing ≠ d.opening := fun h => d.opening_ne_closing h.symm

@[simp] theorem free_nil : d.Free [] := by simp [Free]

@[simp] theorem free_cons {c : Char} {t : Text} : d.Free (c :: t) ↔ ¬ d.Marks c ∧ d.Free t := by
  simp [Free]

end Delimiters

/-- The lexemes that are read from their source text. -/
def Lexeme.Fits (d : Delimiters) : Lexeme → Prop
  | plain c => ¬ d.Marks c
  | doubled c => d.Marks c
  | expression body => d.Free body

/-- The texts at the front of which no lexeme fits, by the reason.  An expression that opens
right behind the opening delimiter of another makes it a doubled one, so some text stands
between nested expressions. -/
def LexicalStop.Fits (d : Delimiters) : LexicalStop → Text → Prop
  | loneClosing, t => ∃ rest, t = d.closing :: rest ∧ rest.head? ≠ some d.closing
  | unclosed body, t => t = d.opening :: body ∧ d.Free body
  | nested body, t =>
    ∃ rest, t = d.opening :: (body ++ d.opening :: rest) ∧ body ≠ [] ∧ d.Free body

namespace Lexeme

variable {d : Delimiters}

/-- The texts that reading leaves behind: nothing if it did not stop. -/
def StopsAt (d : Delimiters) : Option LexicalStop → Text → Prop
  | none, t => t = []
  | some stop, t => stop.Fits d t

@[simp] theorem rawAll_nil : rawAll d [] = [] := rfl

@[simp] theorem rawAll_cons (l : Lexeme) (ls : List Lexeme) :
    rawAll d (l :: ls) = l.raw d ++ rawAll d ls := rfl

@[simp] theorem rawAll_append (ls ls' : List Lexeme) :
    rawAll d (ls ++ ls') = rawAll d ls ++ rawAll d ls' := List.flatMap_append

/-! ## 2. Reading a lexeme off the front -/

/-- Outside an expression, the last character is looked at alone. -/
theorem splitFrom_none_singleton (c : Char) :
    splitFrom d none [c] =
      if c = d.opening then ([], some (.unclosed []))
      else if c = d.closing then ([], some .loneClosing)
      else ([.plain c], none) := rfl

/-- Any other is looked at together with the next one. -/
theorem splitFrom_none_cons (c c' : Char) (rest : Text) :
    splitFrom d none (c :: c' :: rest) =
      if c = d.opening then
        if c' = d.opening then push (.doubled c) (splitFrom d none rest)
        else splitFrom d (some []) (c' :: rest)
      else if c = d.closing then
        if c' = d.closing then push (.doubled c) (splitFrom d none rest)
        else ([], some .loneClosing)
      else push (.plain c) (splitFrom d none (c' :: rest)) := rfl

/-- Inside an expression, one character is enough. -/
theorem splitFrom_some_cons (before : Text) (c : Char) (rest : Text) :
    splitFrom d (some before) (c :: rest) =
      if c = d.closing then push (.expression before.reverse) (splitFrom d none rest)
      else if c = d.opening then ([], some (.nested before.reverse))
      else splitFrom d (some (c :: before)) rest := rfl

/-- Inside an expression, characters other than delimiters are gathered. -/
theorem splitFrom_free {body : Text} (h : d.Free body) (before rest : Text) :
    splitFrom d (some before) (body ++ rest) =
      splitFrom d (some (body.reverse ++ before)) rest := by
  induction body generalizing before with
  | nil => rfl
  | cons c body ih =>
    obtain ⟨hc, hbody⟩ := Delimiters.free_cons.mp h
    have hopening : c ≠ d.opening := fun hc' => hc (Or.inl hc')
    have hclosing : c ≠ d.closing := fun hc' => hc (Or.inr hc')
    rw [List.cons_append, splitFrom_some_cons, if_neg hclosing, if_neg hopening, ih hbody]
    simp

/-- A single opening delimiter starts an expression. -/
theorem splitFrom_opening {rest : Text} (h : rest.head? ≠ some d.opening) :
    splitFrom d none (d.opening :: rest) = splitFrom d (some []) rest := by
  cases rest with
  | nil => exact if_pos rfl
  | cons c rest =>
    have hc : c ≠ d.opening := by simpa using h
    rw [splitFrom_none_cons, if_pos rfl, if_neg hc]

/-- What follows the opening delimiter of an expression is not that delimiter again. -/
theorem head?_free_append {body : Text} (h : d.Free body) (rest : Text)
    (hrest : body = [] → rest.head? ≠ some d.opening) :
    (body ++ rest).head? ≠ some d.opening := by
  cases body with
  | nil => simpa using hrest rfl
  | cons c body =>
    have hc := (Delimiters.free_cons.mp h).1
    simpa using fun hc' => hc (Or.inl hc')

theorem split_plain {c : Char} (h : ¬ d.Marks c) (rest : Text) :
    split d (c :: rest) = push (.plain c) (split d rest) := by
  have hopening : c ≠ d.opening := fun hc => h (Or.inl hc)
  have hclosing : c ≠ d.closing := fun hc => h (Or.inr hc)
  cases rest with
  | nil =>
    rw [split, splitFrom_none_singleton, if_neg hopening, if_neg hclosing]
    rfl
  | cons c' rest => rw [split, splitFrom_none_cons, if_neg hopening, if_neg hclosing, split]

theorem split_doubled {c : Char} (h : d.Marks c) (rest : Text) :
    split d (c :: c :: rest) = push (.doubled c) (split d rest) := by
  rcases h with rfl | rfl
  · rw [split, splitFrom_none_cons, if_pos rfl, if_pos rfl, split]
  · rw [split, splitFrom_none_cons, if_neg Delimiters.closing_ne_opening, if_pos rfl, if_pos rfl,
      split]

theorem split_expression {body : Text} (h : d.Free body) (rest : Text) :
    split d (d.opening :: (body ++ d.closing :: rest)) =
      push (.expression body) (split d rest) := by
  have hhead := head?_free_append h (d.closing :: rest) fun _ => by
    simpa using Delimiters.closing_ne_opening
  rw [split, splitFrom_opening hhead, splitFrom_free h, splitFrom_some_cons, if_pos rfl, split]
  simp

/-- **No lookahead.**  A fitting lexeme is read off the front of any text. -/
theorem split_raw_append {l : Lexeme} (h : l.Fits d) (rest : Text) :
    split d (l.raw d ++ rest) = push l (split d rest) := by
  cases l with
  | plain c => exact split_plain h rest
  | doubled c => exact split_doubled h rest
  | expression body => simpa [raw] using split_expression h rest

theorem split_rawAll_append {ls : List Lexeme} (h : ∀ l ∈ ls, l.Fits d) (rest : Text) :
    split d (rawAll d ls ++ rest) = (ls ++ (split d rest).1, (split d rest).2) := by
  induction ls with
  | nil => rfl
  | cons l ls ih =>
    have hl := h l List.mem_cons_self
    have hls := ih fun l' hl' => h l' (List.mem_cons_of_mem l hl')
    rw [rawAll_cons, List.append_assoc, split_raw_append hl, hls]
    rfl

/-! ## 3. Where reading stops -/

theorem split_loneClosing {rest : Text} (h : rest.head? ≠ some d.closing) :
    split d (d.closing :: rest) = ([], some .loneClosing) := by
  cases rest with
  | nil =>
    rw [split, splitFrom_none_singleton, if_neg Delimiters.closing_ne_opening, if_pos rfl]
  | cons c rest =>
    have hc : c ≠ d.closing := by simpa using h
    rw [split, splitFrom_none_cons, if_neg Delimiters.closing_ne_opening, if_pos rfl, if_neg hc]

theorem split_unclosed {body : Text} (h : d.Free body) :
    split d (d.opening :: body) = ([], some (.unclosed body)) := by
  have hhead := head?_free_append h [] (by simp)
  have hbody := splitFrom_free h [] []
  rw [List.append_nil] at hhead hbody
  rw [split, splitFrom_opening hhead, hbody]
  simp [splitFrom]

theorem split_nested {body : Text} (hne : body ≠ []) (h : d.Free body) (rest : Text) :
    split d (d.opening :: (body ++ d.opening :: rest)) = ([], some (.nested body)) := by
  have hhead := head?_free_append h (d.opening :: rest) fun hnil => absurd hnil hne
  rw [split, splitFrom_opening hhead, splitFrom_free h, splitFrom_some_cons,
    if_neg d.opening_ne_closing, if_pos rfl]
  simp

/-- Reading stops in front of a text at which no lexeme fits, and at the end. -/
theorem split_of_stopsAt {stop : Option LexicalStop} {t : Text} (h : StopsAt d stop t) :
    split d t = ([], stop) := by
  match stop with
  | none => rw [h]; rfl
  | some .loneClosing =>
    obtain ⟨rest, rfl, hrest⟩ := h
    exact split_loneClosing hrest
  | some (.unclosed body) =>
    obtain ⟨rfl, hbody⟩ := h
    exact split_unclosed hbody
  | some (.nested body) =>
    obtain ⟨rest, rfl, hne, hbody⟩ := h
    exact split_nested hne hbody rest

/-! ## 4. Every text is read one way -/

/-- A text up to its first delimiter. -/
theorem exists_free_append (d : Delimiters) (t : Text) :
    ∃ body rest, d.Free body ∧ t = body ++ rest ∧ ∀ c ∈ rest.head?, d.Marks c := by
  induction t with
  | nil => exact ⟨[], [], by simp⟩
  | cons c t ih =>
    by_cases hc : d.Marks c
    · exact ⟨[], c :: t, by simp [hc]⟩
    · obtain ⟨body, rest, hbody, rfl, hrest⟩ := ih
      exact ⟨c :: body, rest, by simp [hc, hbody], rfl, hrest⟩

/-- **At the front of a text stands a lexeme, or one of the ends.** -/
theorem exists_front (d : Delimiters) (t : Text) :
    (∃ stop, StopsAt d stop t) ∨
      ∃ (l : Lexeme) (rest : Text), l.Fits d ∧ t = l.raw d ++ rest := by
  match t with
  | [] => exact Or.inl ⟨none, rfl⟩
  | c :: t =>
    by_cases hopening : c = d.opening
    · subst hopening
      obtain ⟨body, rest, hbody, rfl, hrest⟩ := exists_free_append d t
      match rest, hrest with
      | [], _ => exact Or.inl ⟨some (.unclosed body), by simp [StopsAt, LexicalStop.Fits, hbody]⟩
      | c' :: rest, hrest =>
        rcases hrest c' rfl with rfl | rfl
        · by_cases hnil : body = []
          · subst hnil
            exact Or.inr ⟨.doubled d.opening, rest, Delimiters.marks_opening, rfl⟩
          · exact Or.inl ⟨some (.nested body), rest, rfl, hnil, hbody⟩
        · exact Or.inr ⟨.expression body, rest, hbody, by simp [raw]⟩
    · by_cases hclosing : c = d.closing
      · subst hclosing
        by_cases hnext : t.head? = some d.closing
        · obtain ⟨rest, rfl⟩ := List.head?_eq_some_iff.mp hnext
          exact Or.inr ⟨.doubled d.closing, rest, Delimiters.marks_closing, rfl⟩
        · exact Or.inl ⟨some .loneClosing, t, rfl, hnext⟩
      · exact Or.inr ⟨.plain c, t, fun h => h.elim hopening hclosing, rfl⟩

theorem raw_ne_nil (d : Delimiters) (l : Lexeme) : l.raw d ≠ [] := by
  cases l <;> simp [raw]

/-- **Every text is fitting lexemes and then one of the ends.** -/
theorem exists_reading (d : Delimiters) (t : Text) :
    ∃ ls stop rest, (∀ l ∈ ls, l.Fits d) ∧ t = rawAll d ls ++ rest ∧ StopsAt d stop rest := by
  rcases exists_front d t with ⟨stop, hstop⟩ | ⟨l, rest, hl, ht⟩
  · exact ⟨[], stop, t, by simp, rfl, hstop⟩
  · have hpos : 0 < (l.raw d).length := List.length_pos_iff.mpr (raw_ne_nil d l)
    have hlen : t.length = (l.raw d).length + rest.length := by rw [ht, List.length_append]
    obtain ⟨ls, stop, rest', hls, hrest, hstop⟩ := exists_reading d rest
    refine ⟨l :: ls, stop, rest', ?_, ?_, hstop⟩
    · intro l' hl'
      rcases List.mem_cons.mp hl' with rfl | hl'
      · exact hl
      · exact hls l' hl'
    · rw [ht, hrest, rawAll_cons, List.append_assoc]
termination_by t.length

/-- **Reading, exactly.**  The lexemes of a text and the stop behind them are the one way to
take the text apart into fitting lexemes and an end. -/
theorem split_eq_iff {t : Text} {ls : List Lexeme} {stop : Option LexicalStop} :
    split d t = (ls, stop) ↔
      (∀ l ∈ ls, l.Fits d) ∧ ∃ rest, t = rawAll d ls ++ rest ∧ StopsAt d stop rest := by
  have hsplit : ∀ {ls stop rest}, (∀ l ∈ ls, l.Fits d) → StopsAt d stop rest →
      split d (rawAll d ls ++ rest) = (ls, stop) := by
    intro ls stop rest hls hstop
    rw [split_rawAll_append hls, split_of_stopsAt hstop, List.append_nil]
  constructor
  · intro h
    obtain ⟨ls', stop', rest, hls, rfl, hstop⟩ := exists_reading d t
    rw [hsplit hls hstop, Prod.mk.injEq] at h
    obtain ⟨rfl, rfl⟩ := h
    exact ⟨hls, rest, rfl, hstop⟩
  · rintro ⟨hls, rest, rfl, hstop⟩
    exact hsplit hls hstop

end Lexeme

end Phrasing
