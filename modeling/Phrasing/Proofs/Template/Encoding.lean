/-
# The encoding of tokens

A template spells a row of passages: texts, in which every delimiter is doubled, and
expressions between their delimiters.  Passages stand apart if no text is empty and no two
texts are neighbours, so that the row cannot be cut in another way.

`tokenize_eq_ok_iff` says that reading tokens and spelling passages are inverse to each other:
**the tokens of a source are those of the one row of passages that stands apart and is spelled
by it**.  The rest of the module draws on this: tokens give their source back and tile it, and a
text with doubled delimiters is rendered as the text itself.
-/
import Mathlib.Data.List.Chain
import Phrasing.Proofs.Template.Lexemes
import Phrasing.Rendering

namespace Phrasing

/-! ## 1. Passages and their spelling -/

/-- A text with every delimiter doubled. -/
def Delimiters.escape (d : Delimiters) (t : Text) : Text :=
  t.flatMap fun c => if d.Marks c then [c, c] else [c]

/-- What a token of a template stands for: a text, or the text of an expression. -/
inductive Passage where
  | text (t : Text)
  | expression (body : Text)
deriving DecidableEq, Repr

namespace Passage

/-- The kind of token that a passage makes. -/
def kind : Passage → TokenKind
  | text _ => .text
  | expression _ => .expression

/-- The spelling of a passage. -/
def source (d : Delimiters) : Passage → Text
  | text t => d.escape t
  | expression body => d.opening :: body ++ [d.closing]

/-- A passage that a token can stand for: a text is not empty, and an expression is free of
delimiters. -/
def Fits (d : Delimiters) : Passage → Prop
  | text t => t ≠ []
  | expression body => d.Free body

/-- Fitting passages without neighbouring texts. -/
structure Apart (d : Delimiters) (ps : List Passage) : Prop where
  fits : ∀ p ∈ ps, p.Fits d
  chain : ps.IsChain fun p q => ¬ (p.kind = .text ∧ q.kind = .text)

/-- The spelling of passages in a row. -/
def sourceAll (d : Delimiters) (ps : List Passage) : Text := ps.flatMap (source d)

/-- The token of a passage that is spelled at `p`. -/
def token (d : Delimiters) (p : Position) (q : Passage) : Token :=
  match q with
  | text t => ⟨.text, t, p, q.source d⟩
  | expression body => ⟨.expression, body, p.next d.opening, q.source d⟩

/-- The tokens of passages that are spelled at `p`, followed by the end token. -/
def tokens (d : Delimiters) (p : Position) : List Passage → List Token
  | [] => [⟨.finish, [], p, []⟩]
  | q :: qs => q.token d p :: tokens d (p.advance (q.source d)) qs

end Passage

namespace Token

/-- The spelling of what a token stands for; the end token spells nothing. -/
def encoding (d : Delimiters) (t : Token) : Text :=
  match t.kind with
  | .text => d.escape t.value
  | .expression => d.opening :: t.value ++ [d.closing]
  | .finish => []

/-- The characters between the start of a token's source text and its place: the opening
delimiter of an expression. -/
def inset (t : Token) : Nat :=
  match t.kind with
  | .expression => 1
  | _ => 0

/-- Tokens tile a source from the offset `n` on: the source text of each starts where that of
the one before ended and is what the source has there, and the last one ends with the source. -/
def Tiles (source : Text) : Nat → List Token → Prop
  | n, [] => n = source.length
  | n, t :: ts =>
    t.position.offset = n + t.inset ∧ (source.drop n).take t.raw.length = t.raw ∧
      Tiles source (n + t.raw.length) ts

end Token

/-! ## 2. The lexemes of passages -/

namespace Delimiters

variable {d : Delimiters}

@[simp] theorem escape_nil : d.escape [] = [] := rfl

theorem escape_cons (c : Char) (t : Text) :
    d.escape (c :: t) = (if d.Marks c then [c, c] else [c]) ++ d.escape t := rfl

/-- The lexeme that spells a character of a text. -/
def lexeme (d : Delimiters) (c : Char) : Lexeme := if d.Marks c then .doubled c else .plain c

theorem lexeme_fits (c : Char) : (d.lexeme c).Fits d := by
  unfold lexeme
  split <;> assumption

theorem raw_lexeme (c : Char) : (d.lexeme c).raw d = if d.Marks c then [c, c] else [c] := by
  unfold lexeme
  split <;> rfl

end Delimiters

namespace Passage

variable {d : Delimiters}

/-- The lexemes that spell a passage. -/
def lexemes (d : Delimiters) : Passage → List Lexeme
  | text t => t.map d.lexeme
  | expression body => [.expression body]

theorem rawAll_lexemes (q : Passage) : Lexeme.rawAll d (q.lexemes d) = q.source d := by
  cases q with
  | text t =>
    induction t with
    | nil => rfl
    | cons c t ih =>
      simp only [lexemes, source] at ih ⊢
      rw [List.map_cons, Lexeme.rawAll_cons, ih, Delimiters.raw_lexeme, Delimiters.escape_cons]
  | expression body => simp [lexemes, source, Lexeme.raw]

theorem rawAll_flatMap_lexemes (ps : List Passage) :
    Lexeme.rawAll d (ps.flatMap (lexemes d)) = sourceAll d ps := by
  induction ps with
  | nil => rfl
  | cons q qs ih =>
    rw [List.flatMap_cons, Lexeme.rawAll_append, ih, rawAll_lexemes]
    rfl

theorem fits_of_mem_lexemes {ps : List Passage} (h : ∀ p ∈ ps, p.Fits d) :
    ∀ l ∈ ps.flatMap (lexemes d), l.Fits d := by
  intro l hl
  obtain ⟨q, hq, hlq⟩ := List.mem_flatMap.mp hl
  cases q with
  | text t =>
    obtain ⟨c, -, rfl⟩ := List.mem_map.mp hlq
    exact Delimiters.lexeme_fits c
  | expression body =>
    rw [List.mem_singleton.mp hlq]
    exact h _ hq

theorem apart_tail {q : Passage} {qs : List Passage} (h : Apart d (q :: qs)) : Apart d qs :=
  ⟨fun p hp => h.fits p (List.mem_cons_of_mem q hp), h.chain.of_cons⟩

/-- A character in front of passages that stand apart joins the text that they start with, or
makes one. -/
theorem exists_apart_lexeme {ps : List Passage} (h : Apart d ps) (c : Char) :
    ∃ qs, Apart d qs ∧ qs.flatMap (lexemes d) = d.lexeme c :: ps.flatMap (lexemes d) := by
  match ps with
  | [] => exact ⟨[text [c]], ⟨by simp [Fits], by simp⟩, rfl⟩
  | text t :: ps =>
    refine ⟨text (c :: t) :: ps, ⟨?_, ?_⟩, rfl⟩
    · intro q hq
      rcases List.mem_cons.mp hq with rfl | hq
      · simp [Fits]
      · exact h.fits q (List.mem_cons_of_mem _ hq)
    · exact List.IsChain.cons_of_imp (a := text t) (fun _ hne => hne) h.chain
  | expression body :: ps =>
    refine ⟨text [c] :: expression body :: ps, ⟨?_, ?_⟩, rfl⟩
    · intro q hq
      rcases List.mem_cons.mp hq with rfl | hq
      · simp [Fits]
      · exact h.fits q hq
    · exact h.chain.cons (by simp [kind])

/-- Fitting lexemes spell passages that stand apart. -/
theorem exists_apart {ls : List Lexeme} (h : ∀ l ∈ ls, l.Fits d) :
    ∃ ps, Apart d ps ∧ ps.flatMap (lexemes d) = ls := by
  induction ls with
  | nil => exact ⟨[], ⟨by simp, List.isChain_nil⟩, rfl⟩
  | cons l ls ih =>
    obtain ⟨ps, hps, rfl⟩ := ih fun l' hl' => h l' (List.mem_cons_of_mem l hl')
    have hl := h l List.mem_cons_self
    cases l with
    | plain c =>
      have hc : d.lexeme c = .plain c := if_neg hl
      exact hc ▸ exists_apart_lexeme hps c
    | doubled c =>
      have hc : d.lexeme c = .doubled c := if_pos hl
      exact hc ▸ exists_apart_lexeme hps c
    | expression body =>
      refine ⟨expression body :: ps, ⟨?_, hps.chain.cons (by simp [kind])⟩, rfl⟩
      intro q hq
      rcases List.mem_cons.mp hq with rfl | hq
      · exact hl
      · exact hps.fits q hq

/-! ## 3. The tokens of passages -/

/-- A text lexeme in front of others joins their first token, if that is a text. -/
theorem ofLexemes_lexeme (p : Position) (c : Char) (ls : List Lexeme) :
    Token.ofLexemes d p (d.lexeme c :: ls) =
      Token.consText [c] ((d.lexeme c).raw d) p
        (Token.ofLexemes d (p.advance ((d.lexeme c).raw d)) ls) := by
  unfold Delimiters.lexeme
  split <;> rfl

/-- The lexemes of a text make one token, if no text follows. -/
theorem ofLexemes_text {t : Text} (ht : t ≠ []) (p : Position) {ls : List Lexeme}
    (hls : ∀ p, ∀ u ∈ (Token.ofLexemes d p ls).head?, u.kind ≠ .text) :
    Token.ofLexemes d p (t.map d.lexeme ++ ls) =
      ⟨.text, t, p, d.escape t⟩ :: Token.ofLexemes d (p.advance (d.escape t)) ls := by
  induction t generalizing p with
  | nil => exact absurd rfl ht
  | cons c t ih =>
    rw [List.map_cons, List.cons_append, ofLexemes_lexeme, Delimiters.raw_lexeme,
      Delimiters.escape_cons, Position.advance_append]
    generalize (if d.Marks c then [c, c] else [c]) = raw
    by_cases hnil : t = []
    · subst hnil
      have hhead := hls (p.advance raw)
      rw [List.map_nil, List.nil_append, Delimiters.escape_nil, List.append_nil,
        Position.advance_nil]
      match hts : Token.ofLexemes d (p.advance raw) ls with
      | [] => rfl
      | ⟨.text, _, _, _⟩ :: _ => exact absurd rfl (hhead _ (by rw [hts]; rfl))
      | ⟨.expression, _, _, _⟩ :: _ => rfl
      | ⟨.finish, _, _, _⟩ :: _ => rfl
    · rw [ih hnil]
      rfl

/-- The kinds of the tokens of passages. -/
theorem map_kind_tokens (p : Position) (ps : List Passage) :
    (tokens d p ps).map Token.kind = ps.map kind ++ [.finish] := by
  induction ps generalizing p with
  | nil => rfl
  | cons q qs ih =>
    rw [tokens, List.map_cons, ih]
    cases q <;> rfl

/-- **The tokens of the lexemes of passages are those of the passages**, if these stand
apart. -/
theorem ofLexemes_flatMap_lexemes {ps : List Passage} (h : Apart d ps) (p : Position) :
    Token.ofLexemes d p (ps.flatMap (lexemes d)) = tokens d p ps := by
  induction ps generalizing p with
  | nil => rfl
  | cons q qs ih =>
    have hqs := ih (apart_tail h)
    cases q with
    | text t =>
      have ht : t ≠ [] := h.fits (text t) List.mem_cons_self
      have hhead : ∀ p, ∀ u ∈ (Token.ofLexemes d p (qs.flatMap (lexemes d))).head?,
          u.kind ≠ .text := by
        intro p u hu
        rw [hqs p] at hu
        match qs, h.chain with
        | [], _ =>
          rw [← Option.some.inj hu]
          simp
        | text t' :: qs, hchain => exact absurd ⟨rfl, rfl⟩ hchain.rel
        | expression body :: qs, _ =>
          rw [← Option.some.inj hu]
          simp [token]
      rw [List.flatMap_cons, lexemes, ofLexemes_text ht p hhead, hqs, tokens]
      rfl
    | expression body =>
      rw [List.flatMap_cons, lexemes, List.singleton_append, Token.ofLexemes, hqs, tokens]
      rfl

end Passage

/-! ## 4. Reading and spelling are inverse -/

namespace Token

variable {d : Delimiters}

/-- A source is read if it spells passages, and its tokens are then those of the passages that
stand apart. -/
theorem tokenize_eq_ok_iff {source : Text} {ts : List Token} :
    tokenize d source = .ok ts ↔
      ∃ ps, Passage.Apart d ps ∧ Passage.sourceAll d ps = source ∧
        ts = Passage.tokens d .start ps := by
  constructor
  · intro h
    unfold tokenize at h
    split at h
    · next ls hsplit =>
      obtain ⟨hls, rest, rfl, rfl⟩ := Lexeme.split_eq_iff.mp hsplit
      obtain ⟨ps, hps, rfl⟩ := Passage.exists_apart hls
      refine ⟨ps, hps, ?_, ?_⟩
      · rw [List.append_nil, Passage.rawAll_flatMap_lexemes]
      · rw [← Passage.ofLexemes_flatMap_lexemes hps]
        exact (Except.ok.inj h).symm
    · exact absurd h (by simp)
  · rintro ⟨ps, hps, rfl, rfl⟩
    have hsplit : Lexeme.split d (Passage.sourceAll d ps) =
        (ps.flatMap (Passage.lexemes d), none) := by
      refine Lexeme.split_eq_iff.mpr ⟨Passage.fits_of_mem_lexemes hps.fits, [], ?_, rfl⟩
      rw [List.append_nil, Passage.rawAll_flatMap_lexemes]
    simp only [tokenize, hsplit, Passage.ofLexemes_flatMap_lexemes hps]

end Token

namespace Passage

variable {d : Delimiters}

theorem encoding_token (p : Position) (q : Passage) :
    (q.token d p).encoding d = q.source d := by
  cases q <;> rfl

theorem raw_token (p : Position) (q : Passage) : (q.token d p).raw = q.source d := by
  cases q <;> rfl

theorem position_token (p : Position) (q : Passage) :
    (q.token d p).position.offset = p.offset + (q.token d p).inset := by
  cases q with
  | text t => rfl
  | expression body => exact Position.advance_offset p [d.opening]

/-- The tokens of passages spell them. -/
theorem flatMap_encoding_tokens (p : Position) (ps : List Passage) :
    (tokens d p ps).flatMap (Token.encoding d) = sourceAll d ps := by
  induction ps generalizing p with
  | nil => rfl
  | cons q qs ih =>
    rw [tokens, List.flatMap_cons, ih, encoding_token]
    rfl

/-- The tokens of passages tile any source that ends in their spelling, from where that
starts. -/
theorem tiles_tokens (before : Text) (p : Position) (hp : p.offset = before.length)
    (ps : List Passage) :
    Token.Tiles (before ++ sourceAll d ps) before.length (tokens d p ps) := by
  induction ps generalizing before p with
  | nil => simp [tokens, Token.Tiles, Token.inset, sourceAll, hp]
  | cons q qs ih =>
    have hsource : before ++ sourceAll d (q :: qs) =
        (before ++ q.source d) ++ sourceAll d qs := by simp [sourceAll]
    have hmore := ih (before ++ q.source d) (p.advance (q.source d)) (by simp [hp])
    rw [← hsource, List.length_append] at hmore
    refine ⟨?_, ?_, ?_⟩
    · rw [position_token, hp]
    · rw [raw_token, List.drop_left]
      exact List.take_left
    · rw [raw_token]
      exact hmore

theorem value_ne_nil_of_mem_tokens {ps : List Passage} (h : ∀ p ∈ ps, p.Fits d) (p : Position) :
    ∀ t ∈ tokens d p ps, t.kind = .text → t.value ≠ [] := by
  induction ps generalizing p with
  | nil =>
    intro t ht hkind
    rw [List.mem_singleton.mp ht] at hkind
    exact absurd hkind (by simp)
  | cons q qs ih =>
    intro t ht hkind
    rcases List.mem_cons.mp ht with rfl | ht
    · cases q with
      | text u => exact h (text u) List.mem_cons_self
      | expression body => exact absurd hkind (by simp [token])
    · exact ih (fun p hp => h p (List.mem_cons_of_mem q hp)) _ t ht hkind

theorem isChain_tokens {ps : List Passage} (h : Apart d ps) (p : Position) :
    (tokens d p ps).IsChain fun t u => ¬ (t.kind = .text ∧ u.kind = .text) := by
  have hkinds : ((tokens d p ps).map Token.kind).IsChain fun k k' => ¬ (k = .text ∧ k' = .text) := by
    rw [map_kind_tokens, List.isChain_append]
    exact ⟨(List.isChain_map kind).mpr h.chain, List.isChain_singleton _, by simp⟩
  exact (List.isChain_map Token.kind).mp hkinds

end Passage

/-! ## 5. Texts with doubled delimiters -/

namespace Rendering

variable {d : Delimiters}

/-- A text with doubled delimiters is a template of the text alone. -/
theorem parse_escape (t : Text) :
    Template.parse d (d.escape t) =
      .ok ⟨d.escape t, if t = [] then [] else [.literal t 0]⟩ := by
  have htokens : Token.tokenize d (d.escape t) =
      .ok (Passage.tokens d .start (if t = [] then [] else [.text t])) := by
    refine Token.tokenize_eq_ok_iff.mpr ⟨_, ?_, ?_, rfl⟩
    · split
      · exact ⟨by simp, List.isChain_nil⟩
      · next ht => exact ⟨by simpa [Passage.Fits] using ht, List.isChain_singleton _⟩
    · split
      · next ht => rw [ht]; rfl
      · simp [Passage.sourceAll, Passage.source]
  rw [Template.parse, htokens]
  by_cases ht : t = []
  · rw [if_pos ht, if_pos ht]
    rfl
  · rw [if_neg ht, if_neg ht]
    rfl

/-- A template without expressions is rendered as its literal text, and nothing is left
behind. -/
theorem template_of_no_expressions (o : Options) (c : Context) {t : Template}
    (h : t.hasExpressions = false) : template o c t = pure t.literalText := by
  rw [template, h]
  rfl

end Rendering

/-! ## 6. Tokens and their encoding -/

/-- **Reading tokens is inverse to spelling them.**

* The tokens of a source spell it, tile it, and hold no empty text and no neighbouring texts.
* Passages that stand apart are read back from their spelling, followed by the end token.
* A text with doubled delimiters is read and rendered as the text, whatever the context and the
  options, and rendering leaves nothing behind. -/
theorem Token.tokenize_inverse_encoding (d : Delimiters) :
    (∀ source ts, Token.tokenize d source = .ok ts →
      ts.flatMap (Token.encoding d) = source ∧
      Token.Tiles source 0 ts ∧
      (∀ t ∈ ts, t.kind = .text → t.value ≠ []) ∧
      ts.IsChain fun t u => ¬ (t.kind = .text ∧ u.kind = .text)) ∧
    (∀ ps, Passage.Apart d ps →
      Token.tokenize d (Passage.sourceAll d ps) = .ok (Passage.tokens d .start ps)) ∧
    ∀ (s : Text) (o : Options) (c : Context) (bench : Workbench),
      ∃ t, Template.parse d (d.escape s) = .ok t ∧
        (Rendering.template o c t).run bench = (.ok s, bench) := by
  refine ⟨?_, ?_, ?_⟩
  · intro source ts h
    obtain ⟨ps, hps, rfl, rfl⟩ := Token.tokenize_eq_ok_iff.mp h
    exact ⟨Passage.flatMap_encoding_tokens _ ps, Passage.tiles_tokens [] .start rfl ps,
      Passage.value_ne_nil_of_mem_tokens hps.fits _, Passage.isChain_tokens hps _⟩
  · intro ps hps
    exact Token.tokenize_eq_ok_iff.mpr ⟨ps, hps, rfl, rfl⟩
  · intro s o c bench
    refine ⟨_, Rendering.parse_escape s, ?_⟩
    by_cases hs : s = []
    · subst hs
      rw [if_pos rfl, Rendering.template_of_no_expressions o c rfl]
      rfl
    · have htext : Template.literalText ⟨d.escape s, [.literal s 0]⟩ = s := List.append_nil s
      rw [if_neg hs, Rendering.template_of_no_expressions o c rfl, htext]
      rfl

end Phrasing
