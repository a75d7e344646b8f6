/-
# Texts further on in a source

When a text stands behind another one, everything in it is displaced: offsets grow by the length
of the text before it, lines by its line feeds, and columns only on the line that both share.

A displacement is given by the place `e` at which the text starts, and `x.shift e` is what a
place, a token, a path or an error `x` of the text becomes.  The statements of this
module say that **reading a displaced text is displacing what was read**: the tokens of passages
(`tokens_shift`), the path of an expression (`parse_shift`) and the segments of tokens
(`ofTokens_shift`).
-/
import Phrasing.Proofs.Template.Encoding

namespace Phrasing

/-! ## 1. Places -/

namespace Position

/-- A place of a text that stands at `e`. -/
def shift (p e : Position) : Position :=
  ⟨e.offset + p.offset, e.line + p.line - 1,
    if p.line = 1 then e.column + p.column - 1 else p.column⟩

/-- A place whose line and column are counted from one. -/
def Proper (p : Position) : Prop := 1 ≤ p.line ∧ 1 ≤ p.column

theorem proper_start : start.Proper := ⟨Nat.le_refl 1, Nat.le_refl 1⟩

theorem Proper.next {p : Position} (h : p.Proper) (c : Char) : (p.next c).Proper := by
  obtain ⟨hline, hcolumn⟩ := h
  unfold Position.next
  split
  · exact ⟨Nat.le_add_left 1 p.line, Nat.le_refl 1⟩
  · exact ⟨hline, Nat.le_add_left 1 p.column⟩

theorem Proper.advance {p : Position} (h : p.Proper) (t : Text) : (p.advance t).Proper := by
  induction t generalizing p with
  | nil => exact h
  | cons c t ih => exact ih (h.next c)

/-- The first place of a text is where it stands. -/
@[simp] theorem start_shift (e : Position) : start.shift e = e := by
  simp [shift, start]

theorem next_shift (e : Position) {p : Position} (h : p.Proper) (c : Char) :
    (p.shift e).next c = (p.next c).shift e := by
  obtain ⟨hline, hcolumn⟩ := h
  by_cases hc : c = '\n'
  · simp only [next, shift, if_pos hc, mk.injEq]
    refine ⟨by omega, by omega, ?_⟩
    rw [if_neg (by omega)]
  · simp only [next, shift, if_neg hc, mk.injEq, true_and]
    refine ⟨by omega, ?_⟩
    split
    · omega
    · rfl

/-- Reading on from a displaced place ends in a displaced place. -/
theorem advance_shift (e : Position) {p : Position} (h : p.Proper) (t : Text) :
    (p.shift e).advance t = (p.advance t).shift e := by
  induction t generalizing p with
  | nil => rfl
  | cons c t ih => rw [advance_cons, advance_cons, next_shift e h, ih (h.next c)]

/-- In particular, the end of two texts in a row is the end of the second, displaced behind the
first. -/
theorem advance_eq_shift (e : Position) (t : Text) : e.advance t = (start.advance t).shift e := by
  rw [← advance_shift e proper_start, start_shift]

end Position

/-! ## 2. Tokens -/

/-- A token of a text that stands at `e`. -/
def Token.shift (e : Position) (t : Token) : Token := { t with position := t.position.shift e }

namespace Passage

variable {d : Delimiters}

theorem token_shift (e : Position) {p : Position} (h : p.Proper) (q : Passage) :
    q.token d (p.shift e) = (q.token d p).shift e := by
  cases q with
  | text t => rfl
  | expression body => simp only [token, Token.shift, Position.next_shift e h]

/-- The tokens of displaced passages are the displaced tokens. -/
theorem tokens_shift (e : Position) {p : Position} (h : p.Proper) (ps : List Passage) :
    tokens d (p.shift e) ps = (tokens d p ps).map (Token.shift e) := by
  induction ps generalizing p with
  | nil => rfl
  | cons q qs ih =>
    rw [tokens, tokens, List.map_cons, token_shift e h, Position.advance_shift e h,
      ih (h.advance _)]

theorem proper_of_mem_tokens {p : Position} (h : p.Proper) (ps : List Passage) :
    ∀ t ∈ tokens d p ps, t.position.Proper := by
  induction ps generalizing p with
  | nil =>
    intro t ht
    rw [List.mem_singleton.mp ht]
    exact h
  | cons q qs ih =>
    intro t ht
    rcases List.mem_cons.mp ht with rfl | ht
    · cases q with
      | text t => exact h
      | expression body => exact h.next d.opening
    · exact ih (h.advance _) t ht

end Passage

/-! ## 3. Errors -/

namespace TemplateError

/-- The cause of an error in a text that stands at `e`: the line and column are displaced. -/
def shiftFault (e : Position) : TemplateFault → TemplateFault
  | .grammar line column fault =>
    .grammar (e.line + line - 1) (if line = 1 then e.column + column - 1 else column) fault
  | fault => fault

/-- An error in a text that stands at `e`. -/
def shift (e : Position) (err : TemplateError) : TemplateError :=
  { err with offset := e.offset + err.offset, fault := shiftFault e err.fault }

/-- A displaced error is of the same kind, blames the same source text, and is described in the
same words. -/
theorem shift_keeps (e : Position) (err : TemplateError) :
    (err.shift e).kind = err.kind ∧ (err.shift e).source = err.source ∧
      (err.shift e).describe = err.describe := by
  obtain ⟨offset, source, fault⟩ := err
  cases fault with
  | grammar line column fault => cases fault <;> exact ⟨rfl, rfl, rfl⟩
  | unspecified => exact ⟨rfl, rfl, rfl⟩
  | reference fault => exact ⟨rfl, rfl, rfl⟩
  | rendering fault => exact ⟨rfl, rfl, rfl⟩

/-- An error of grammar at a displaced place is the displaced error. -/
theorem grammar_shift (e : Position) {p : Position} (h : p.Proper) (source : Text)
    (fault : GrammarFault) :
    (⟨(p.shift e).offset, source, .grammar (p.shift e).line (p.shift e).column fault⟩ :
        TemplateError) =
      shift e ⟨p.offset, source, .grammar p.line p.column fault⟩ := by
  obtain ⟨hline, hcolumn⟩ := h
  simp only [shift, shiftFault, Position.shift, mk.injEq, TemplateFault.grammar.injEq, true_and,
    and_true]
  refine ⟨by omega, by omega, ?_⟩
  by_cases hone : p.line = 1
  · rw [if_pos hone, if_pos (by omega)]
    omega
  · rw [if_neg hone, if_neg (by omega)]

end TemplateError

/-- An error at a stop in a text that stands at `e`. -/
theorem LexicalStop.error_shift (d : Delimiters) (e : Position) {p : Position} (h : p.Proper)
    (stop : LexicalStop) : stop.error d (p.shift e) = (stop.error d p).shift e := by
  cases stop with
  | loneClosing => exact TemplateError.grammar_shift e h _ _
  | unclosed body => exact TemplateError.grammar_shift e h _ _
  | nested body =>
    simp only [error, Position.advance_shift e h]
    exact TemplateError.grammar_shift e (h.advance _) _ _

/-- A fault in a text that stands at `e`. -/
def ParseFault.shift (e : Position) : ParseFault → ParseFault
  | .error err => .error (err.shift e)
  | .number f => .number f

/-! ## 4. Paths -/

/-- An accessor `n` characters further on. -/
def Accessor.shift (n : Nat) : Accessor → Accessor
  | index i offset => index i (n + offset)
  | field name offset => field name (n + offset)

namespace Path

/-- A path `n` characters further on. -/
def shift (n : Nat) (p : Path) : Path := { p with accessors := p.accessors.map (Accessor.shift n) }

/-- The accessors of a text that ends `n` characters further on. -/
theorem readAccessors_shift (n stop : Nat) (t : Text) (h : t.length ≤ stop) :
    readAccessors (n + stop) t =
      (readAccessors stop t).map fun r => (r.1.map (Accessor.shift n), r.2) := by
  match t with
  | [] => simp [readAccessors, Except.map]
  | c :: inner =>
    rw [List.length_cons] at h
    have hoffset : n + stop - (inner.length + 1) = n + (stop - (inner.length + 1)) := by omega
    rw [readAccessors, readAccessors, hoffset]
    split
    · split
      · rfl
      · next i rest hindex =>
        have hrest := length_of_readIndex hindex
        rw [readAccessors_shift n stop rest (by omega)]
        cases readAccessors stop rest <;> rfl
    · split
      · split
        · rfl
        · next name rest hname =>
          have hrest := length_of_readName hname
          rw [readAccessors_shift n stop rest (by omega)]
          cases readAccessors stop rest <;> rfl
      · rfl
termination_by t.length

/-- A path is read alike wherever it stands, but for the offsets of its accessors. -/
theorem read_shift (n offset : Nat) (source : Text) :
    read (n + offset) source = (read offset source).map (shift n) := by
  unfold read
  by_cases hempty : (Text.trimStart source).isEmpty = true
  · simp only [if_pos hempty]
    rfl
  · simp only [if_neg hempty]
    cases hname : readName (Text.trimStart source) with
    | none => rfl
    | some named =>
      obtain ⟨base, rest⟩ := named
      have hinner := length_dropWhile_le Text.isBlank source
      have hrest := length_of_readName hname
      rw [Text.trimStart] at hrest
      simp only [Nat.add_assoc]
      rw [readAccessors_shift n (offset + source.length) rest (by omega)]
      cases readAccessors (offset + source.length) rest with
      | error refusal => rfl
      | ok result =>
        obtain ⟨accessors, afterAccessors⟩ := result
        simp only [Except.map, bind, Except.bind]
        cases readStyle afterAccessors with
        | error refusal => rfl
        | ok result =>
          obtain ⟨style, afterStyle⟩ := result
          simp only
          cases Text.trimStart afterStyle with
          | nil => rfl
          | cons c more => rfl

/-- The path of an expression that stands at `e` is the displaced path, or the displaced
fault. -/
theorem parse_shift (e : Position) {p : Position} (h : p.Proper) (source : Text) :
    parse (p.shift e) source =
      ((parse p source).map (shift e.offset)).mapError (ParseFault.shift e) := by
  have hoffset : (p.shift e).offset = e.offset + p.offset := rfl
  rw [parse, parse, hoffset, read_shift]
  match read p.offset source with
  | .ok path => rfl
  | .error (.number f) => rfl
  | .error (.fault f unread) =>
    simp only [Except.map, Except.mapError, PathRefusal.toParseFault, ParseFault.shift,
      Position.advance_shift e h, TemplateError.grammar_shift e (h.advance _)]

end Path

/-! ## 5. Segments -/

namespace Segment

/-- A segment of a text that stands at `e`. -/
def shift (e : Position) : Segment → Segment
  | literal text offset => literal text (e.offset + offset)
  | expression source path position =>
    expression source (path.shift e.offset) (position.shift e)

/-- The segments of displaced tokens are the displaced segments, or the first fault is
displaced. -/
theorem ofTokens_shift (e : Position) {ts : List Token} (h : ∀ t ∈ ts, t.position.Proper) :
    ofTokens (ts.map (Token.shift e)) =
      ((ofTokens ts).map (List.map (shift e))).mapError (ParseFault.shift e) := by
  induction ts with
  | nil => rfl
  | cons t ts ih =>
    have ht := h t List.mem_cons_self
    have hts := ih fun u hu => h u (List.mem_cons_of_mem t hu)
    obtain ⟨kind, value, position, raw⟩ := t
    rw [List.map_cons]
    cases kind with
    | finish => rfl
    | text =>
      simp only [ofTokens, Token.shift, hts]
      cases ofTokens ts <;> rfl
    | expression =>
      simp only [ofTokens, Token.shift, hts, Path.parse_shift e ht]
      match Path.parse position value with
      | .error f => rfl
      | .ok path => cases ofTokens ts <;> rfl

end Segment

end Phrasing
