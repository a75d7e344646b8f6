/-
# Reading character by character gives the tokens

The reader goes one character at a time and takes notes; the tokens of a template are gathered
from its lexemes all at once.  Both are the same (`outcome_read`): a template that has tokens
leaves the reader done, with these tokens, and a template with an error leaves it failed, with
this error.

The reader takes in a whole lexeme in a row of steps (`read_raw_append`), and in front of
lexemes its notes are complete: **what it has noted and the tokens of what is unread are the
tokens of the whole** (`upTo_take`).
-/
import Phrasing.Proofs.Template.Lexemes
import Phrasing.Template.Reader

namespace Phrasing

theorem Delimiters.opening_ne_lineFeed (d : Delimiters) : d.opening ≠ '\n' := by
  intro h
  have hvisible := d.opening_visible
  rw [h] at hvisible
  exact absurd hvisible (by decide)

namespace Reader

variable {d : Delimiters} {r : Reader}

/-! ## 1. Notes -/

@[simp] theorem phase_pass (phase : Phase) (t : Text) : (r.pass phase t).phase = phase := rfl

@[simp] theorem pass_pass (phase phase' : Phase) (s t : Text) :
    (r.pass phase s).pass phase' t = r.pass phase' (s ++ t) := by
  simp [pass]

@[simp] theorem gather_pass (phase : Phase) (t : Text) (p : Position) (value raw : Text) :
    (r.pass phase t).gather p value raw = (r.gather p value raw).pass phase t := rfl

@[simp] theorem emit_pass (phase : Phase) (t : Text) (u : Token) :
    (r.pass phase t).emit u = (r.emit u).pass phase t := rfl

/-- The place of an expression is right behind its opening delimiter. -/
theorem expressionToken_eq (p : Position) (body : Text) :
    expressionToken d p body =
      ⟨.expression, body, p.next d.opening, Lexeme.raw d (.expression body)⟩ := by
  have hnext : p.next d.opening = ⟨p.offset + 1, p.line, p.column + 1⟩ :=
    if_neg d.opening_ne_lineFeed
  rw [hnext]
  rfl

/-! ## 2. Steps -/

theorem read_of_failed {e : TemplateError} (h : r.phase = .failed e) (t : Text) :
    r.read d t = r := by
  rw [read.eq_def, h]

theorem read_nil : r.read d [] = r.finish d := by
  rw [read.eq_def]
  split
  · next h => rw [finish, h]
  · rfl
  · next h _ => cases h

theorem read_cons (h : ∀ e, r.phase ≠ .failed e) (c : Char) (rest : Text) :
    r.read d (c :: rest) = (r.step d c rest).1.read d (r.step d c rest).2 := by
  rw [read.eq_def]
  split
  · next e hphase => exact absurd hphase (h e)
  · next heq _ => cases heq
  · next heq _ =>
    cases heq
    rfl

/-- The reader behind a lexeme. -/
def take (d : Delimiters) (r : Reader) (l : Lexeme) : Reader :=
  match l with
  | .plain c => (r.gather r.position [c] [c]).pass .literal (l.raw d)
  | .doubled c => (r.gather r.position [c] [c, c]).pass .literal (l.raw d)
  | .expression body => (r.flush.emit (expressionToken d r.position body)).pass .literal (l.raw d)

@[simp] theorem phase_take (l : Lexeme) : (r.take d l).phase = .literal := by
  cases l <;> rfl

@[simp] theorem position_take (l : Lexeme) :
    (r.take d l).position = r.position.advance (l.raw d) := by
  cases l <;> rfl

theorem read_plain (hr : r.phase = .literal) {c : Char} (h : ¬ d.Marks c) (rest : Text) :
    r.read d (c :: rest) = (r.take d (.plain c)).read d rest := by
  have hopening : c ≠ d.opening := fun hc => h (Or.inl hc)
  have hclosing : c ≠ d.closing := fun hc => h (Or.inr hc)
  rw [read_cons (by simp [hr]), step, hr]
  simp only [if_neg hopening, if_neg hclosing]
  rfl

theorem read_doubled (hr : r.phase = .literal) {c : Char} (h : d.Marks c) (rest : Text) :
    r.read d (c :: c :: rest) = (r.take d (.doubled c)).read d rest := by
  rw [read_cons (by simp [hr]), step, hr]
  rcases h with rfl | rfl
  · simp only [List.head?_cons, ↓reduceIte]
    rfl
  · -- The first closing delimiter is kept in mind, the second one makes it text.
    simp only [if_neg Delimiters.closing_ne_opening, ↓reduceIte]
    rw [read_cons (by simp), step]
    simp only [phase_pass, gather_pass, pass_pass, ↓reduceIte]
    rfl

/-- A single opening delimiter starts an expression. -/
theorem read_opening (hr : r.phase = .literal) {rest : Text} (h : rest.head? ≠ some d.opening) :
    r.read d (d.opening :: rest) =
      (r.flush.pass (.inExpression r.position []) [d.opening]).read d rest := by
  rw [read_cons (by simp [hr]), step, hr]
  simp only [if_neg h, ↓reduceIte]

/-- Inside an expression, characters other than delimiters are gathered. -/
theorem read_free {body : Text} (h : d.Free body) (opened : Position) (before t rest : Text) :
    (r.pass (.inExpression opened before) t).read d (body ++ rest) =
      (r.pass (.inExpression opened (before ++ body)) (t ++ body)).read d rest := by
  induction body generalizing before t with
  | nil => simp
  | cons c body ih =>
    obtain ⟨hc, hbody⟩ := Delimiters.free_cons.mp h
    have hopening : c ≠ d.opening := fun hc' => hc (Or.inl hc')
    have hclosing : c ≠ d.closing := fun hc' => hc (Or.inr hc')
    rw [List.cons_append, read_cons (by simp), step]
    simp only [phase_pass, if_neg hclosing, if_neg hopening, pass_pass]
    rw [ih hbody]
    simp

theorem read_expression (hr : r.phase = .literal) {body : Text} (h : d.Free body) (rest : Text) :
    r.read d (d.opening :: (body ++ d.closing :: rest)) =
      (r.take d (.expression body)).read d rest := by
  have hhead := Lexeme.head?_free_append h (d.closing :: rest) fun _ => by
    simpa using Delimiters.closing_ne_opening
  rw [read_opening hr hhead, read_free h, read_cons (by simp), step]
  simp only [phase_pass, emit_pass, pass_pass, ↓reduceIte]
  rfl

/-- **A fitting lexeme is taken in whole.** -/
theorem read_raw_append (hr : r.phase = .literal) {l : Lexeme} (h : l.Fits d) (rest : Text) :
    r.read d (l.raw d ++ rest) = (r.take d l).read d rest := by
  cases l with
  | plain c => exact read_plain hr h rest
  | doubled c => exact read_doubled hr h rest
  | expression body => simpa [Lexeme.raw] using read_expression hr h rest

/-- The reader behind lexemes in a row. -/
def takeAll (d : Delimiters) (r : Reader) (ls : List Lexeme) : Reader := ls.foldl (take d) r

theorem phase_takeAll (hr : r.phase = .literal) (ls : List Lexeme) :
    (r.takeAll d ls).phase = .literal := by
  induction ls generalizing r with
  | nil => exact hr
  | cons l ls ih => exact ih (phase_take l)

theorem position_takeAll (ls : List Lexeme) :
    (r.takeAll d ls).position = r.position.advance (Lexeme.rawAll d ls) := by
  induction ls generalizing r with
  | nil => rfl
  | cons l ls ih =>
    rw [Lexeme.rawAll_cons, Position.advance_append, ← position_take]
    exact ih

theorem read_rawAll_append (hr : r.phase = .literal) {ls : List Lexeme} (h : ∀ l ∈ ls, l.Fits d)
    (rest : Text) : r.read d (Lexeme.rawAll d ls ++ rest) = (r.takeAll d ls).read d rest := by
  induction ls generalizing r with
  | nil => rfl
  | cons l ls ih =>
    obtain ⟨hl, hls⟩ := List.forall_mem_cons.mp h
    rw [Lexeme.rawAll_cons, List.append_assoc, read_raw_append hr hl, ih (phase_take l) hls]
    rfl

/-! ## 3. Where the reader fails -/

/-- **The reader fails where no lexeme fits**, with the error of the stop there. -/
theorem phase_read_of_stop (hr : r.phase = .literal) {stop : LexicalStop} {t : Text}
    (h : stop.Fits d t) : (r.read d t).phase = .failed (stop.error d r.position) := by
  cases stop with
  | loneClosing =>
    obtain ⟨rest, rfl, hrest⟩ := h
    rw [read_cons (by simp [hr]), step, hr]
    simp only [if_neg Delimiters.closing_ne_opening, ↓reduceIte]
    match rest with
    | [] => rw [read_nil]; rfl
    | c :: rest =>
      have hc : c ≠ d.closing := by simpa using hrest
      rw [read_cons (by simp), step]
      simp only [phase_pass, if_neg hc]
      rw [read_of_failed rfl]
      rfl
  | unclosed body =>
    obtain ⟨rfl, hbody⟩ := h
    have hhead := Lexeme.head?_free_append hbody [] (by simp)
    have hread := read_free (r := r.flush) hbody r.position [] [d.opening] []
    rw [List.append_nil] at hhead hread
    rw [read_opening hr hhead, hread, read_nil]
    rfl
  | nested body =>
    obtain ⟨rest, rfl, hne, hbody⟩ := h
    have hhead := Lexeme.head?_free_append hbody (d.opening :: rest) fun hnil => absurd hnil hne
    rw [read_opening hr hhead, read_free hbody, read_cons (by simp), step]
    simp only [phase_pass, if_neg d.opening_ne_closing, ↓reduceIte]
    rw [read_of_failed rfl]
    rfl

/-! ## 4. The tokens that the reader has noted -/

/-- The tokens that a reader has noted, in front of those that follow. -/
def upTo (r : Reader) (following : List Token) : List Token :=
  r.tokens ++
    match r.gathered with
    | none => following
    | some s => Token.consText s.value s.raw s.start following

theorem consText_consText (value value' raw raw' : Text) (p q : Position) (ts : List Token) :
    Token.consText value raw p (Token.consText value' raw' q ts) =
      Token.consText (value ++ value') (raw ++ raw') p ts := by
  match ts with
  | [] => rfl
  | ⟨.text, _, _, _⟩ :: _ => simp [Token.consText]
  | ⟨.expression, _, _, _⟩ :: _ => rfl
  | ⟨.finish, _, _, _⟩ :: _ => rfl

theorem upTo_gather (p : Position) (value raw : Text) (ts : List Token) :
    (r.gather p value raw).upTo ts = r.upTo (Token.consText value raw p ts) := by
  obtain ⟨phase, position, gathered, tokens⟩ := r
  cases gathered with
  | none => rfl
  | some s => exact congrArg (tokens ++ ·) (consText_consText ..).symm

@[simp] theorem upTo_pass (phase : Phase) (t : Text) (ts : List Token) :
    (r.pass phase t).upTo ts = r.upTo ts := rfl

/-- A token other than a text ends the text in front of it. -/
theorem upTo_cons {t : Token} (h : t.kind ≠ .text) (ts : List Token) :
    r.upTo (t :: ts) = r.flush.tokens ++ t :: ts := by
  obtain ⟨kind, value, position, raw⟩ := t
  unfold upTo flush
  cases r.gathered with
  | none => simp
  | some s =>
    cases kind with
    | text => exact absurd rfl h
    | expression => simp [Token.consText, Stretch.token]
    | finish => simp [Token.consText, Stretch.token]

/-- **The notes are complete**: taking a lexeme in moves its part of the tokens from what is unread
to the notes. -/
theorem upTo_take (l : Lexeme) (ls : List Lexeme) :
    (r.take d l).upTo (Token.ofLexemes d (r.take d l).position ls) =
      r.upTo (Token.ofLexemes d r.position (l :: ls)) := by
  rw [position_take]
  cases l with
  | plain c => rw [take, upTo_pass, upTo_gather, Token.ofLexemes, Lexeme.raw]
  | doubled c => rw [take, upTo_pass, upTo_gather, Token.ofLexemes, Lexeme.raw]
  | expression body =>
    rw [Token.ofLexemes, upTo_cons (by simp), ← expressionToken_eq]
    simp [take, upTo, pass, emit, flush]

theorem upTo_takeAll (ls : List Lexeme) :
    (r.takeAll d ls).upTo [⟨.finish, [], (r.takeAll d ls).position, []⟩] =
      r.upTo (Token.ofLexemes d r.position ls) := by
  induction ls generalizing r with
  | nil => rfl
  | cons l ls ih =>
    rw [← upTo_take]
    exact ih

/-- At the end of a template the reader has its tokens, end token and all. -/
theorem finish_of_literal (hr : r.phase = .literal) :
    (r.finish d).phase = .done ∧
      (r.finish d).tokens = r.upTo [⟨.finish, [], r.position, []⟩] := by
  rw [upTo_cons (by simp), finish, hr]
  exact ⟨rfl, rfl⟩

/-! ## 5. Reading a template -/

/-- **Character by character.**  A template that has tokens leaves the reader done, with these
tokens.  One that has an error leaves the reader failed, with this error. -/
theorem outcome_read (d : Delimiters) (source : Text) :
    match Token.tokenize d source with
    | .ok ts => (start.read d source).phase = .done ∧ (start.read d source).tokens = ts
    | .error e => (start.read d source).phase = .failed e := by
  obtain ⟨ls, stop, rest, hls, rfl, hstop⟩ := Lexeme.exists_reading d source
  have hsplit := Lexeme.split_eq_iff.mpr ⟨hls, rest, rfl, hstop⟩
  have hphase := phase_takeAll (d := d) (r := start) rfl ls
  rw [Token.tokenize, hsplit, read_rawAll_append rfl hls]
  cases stop with
  | none =>
    obtain rfl : rest = [] := hstop
    obtain ⟨hdone, htokens⟩ := finish_of_literal (d := d) hphase
    rw [read_nil]
    refine ⟨hdone, ?_⟩
    rw [htokens, upTo_takeAll]
    rfl
  | some stop =>
    have hfailed := phase_read_of_stop hphase hstop
    rw [position_takeAll] at hfailed
    exact hfailed

end Reader

end Phrasing
