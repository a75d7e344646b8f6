/-
# Nested renditions

A text in a style is the text between two sequences, one that switches the rendition of the
style on and one that switches it off.  Where the text starts with a sequence, or ends in one,
the two next to each other are merged.  A terminal reads the same parameters then, and in the
same order (`stream_openWith`, `stream_closeWith`), so styles can be nested without being aware
of each other (`stream_apply_iff`).

There is one exception.  A line feed may follow the sequence that a text ends in, and merging
loses it.  `LosesLineFeed` says of which texts.

Nothing is merged with a text that has no escape character.  It is put between two texts that do not
depend on it (`Markers.Inert.exists_apply`).
-/
import Phrasing.Proofs.Style.Stream
import Phrasing.Style.Transform

namespace Phrasing

namespace Sgr

/-! ## 1. The sequence that a text ends in -/

/-- A text with a line feed behind the sequence that it ends in. -/
def EndsInLineFeed (t : Text) : Prop :=
  ∃ before ps, IsParameters ps ∧ t = before ++ sequence ps ++ ['\n']

/-- A text with a line feed behind the sequence that it ends in, and something in front of that
sequence. -/
def LosesLineFeed (t : Text) : Prop :=
  ∃ before ps, before ≠ [] ∧ IsParameters ps ∧ t = before ++ sequence ps ++ ['\n']

/-- What is read off the front closes a text if nothing follows, or a line feed alone. -/
theorem findClosing?_of_read? {t ps rest : Text} (h : read? t = some (ps, rest))
    (hrest : rest = [] ∨ rest = ['\n']) : findClosing? t = some ([], ps) := by
  cases t with
  | nil => cases h
  | cons c t => rcases hrest with rfl | rfl <;> simp only [findClosing?, h]

/-- In front of an escape character, no sequence closes a text. -/
theorem findClosing?_cons_append (c : Char) (s t : Text) :
    findClosing? (c :: (s ++ escape :: t)) =
      (findClosing? (s ++ escape :: t)).map fun (before, ps) => (c :: before, ps) := by
  have hread := read?_append_escape (List.cons_ne_nil c s) t
  rw [List.cons_append] at hread
  rw [findClosing?, hread]
  cases read? (c :: s) with
  | none => rfl
  | some read => rcases read with ⟨ps, _ | ⟨c', rest⟩⟩ <;> simp [escape]

/-- **The sequence that closes a text** ends it, but for a line feed. -/
theorem findClosing?_eq_some_iff {t before ps : Text} :
    findClosing? t = some (before, ps) ↔
      IsParameters ps ∧ (t = before ++ sequence ps ∨ t = before ++ sequence ps ++ ['\n']) := by
  constructor
  · intro h
    induction t generalizing before with
    | nil => cases h
    | cons c t ih =>
      rw [findClosing?] at h
      split at h
      · next hread =>
        cases h
        obtain ⟨hps, heq⟩ := read?_eq_some_iff.mp hread
        exact ⟨hps, .inl (by simpa using heq)⟩
      · next hread =>
        cases h
        obtain ⟨hps, heq⟩ := read?_eq_some_iff.mp hread
        exact ⟨hps, .inr heq⟩
      · obtain ⟨⟨before, ps⟩, hclosing, heq⟩ := Option.map_eq_some_iff.mp h
        cases heq
        obtain ⟨hps, rfl | rfl⟩ := ih hclosing
        · exact ⟨hps, .inl rfl⟩
        · exact ⟨hps, .inr rfl⟩
  · rintro ⟨hps, h⟩
    obtain ⟨rest, hrest, rfl⟩ : ∃ rest, (rest = [] ∨ rest = ['\n']) ∧
        t = before ++ (sequence ps ++ rest) := by
      rcases h with rfl | rfl
      · exact ⟨[], .inl rfl, by rw [List.append_nil]⟩
      · exact ⟨['\n'], .inr rfl, List.append_assoc _ _ _⟩
    induction before with
    | nil => exact findClosing?_of_read? (read?_sequence_append hps rest) hrest
    | cons c before ih =>
      have hbefore : findClosing? (before ++ (sequence ps ++ rest)) = some (before, ps) := by
        refine ih ?_
        rcases hrest with rfl | rfl
        · exact .inl (by rw [List.append_nil])
        · exact .inr (List.append_assoc _ _ _).symm
      exact (findClosing?_cons_append c before _).trans (congrArg _ hbefore)

/-- What precedes a line feed that is lost does not depend on the sequence in front. -/
theorem losesLineFeed_sequence_append {ps : Text} (h : IsParameters ps) (t : Text) :
    LosesLineFeed (sequence ps ++ t) ↔ EndsInLineFeed t := by
  constructor
  · rintro ⟨before, qs, hne, hqs, heq⟩
    rw [List.append_assoc] at heq
    obtain ⟨middle, -, rfl⟩ := exists_append_of_sequence_append h hne heq
    exact ⟨middle, qs, hqs, by rw [List.append_assoc]; rfl⟩
  · rintro ⟨before, qs, hqs, rfl⟩
    refine ⟨sequence ps ++ before, qs, ?_, hqs, ?_⟩
    · simp [sequence]
    · simp only [List.append_assoc]

theorem readOpening?_eq_some_iff {t ps rest : Text} :
    readOpening? t = some (ps, rest) ↔
      IsParameters ps ∧ rest ≠ [] ∧ t = sequence ps ++ rest := by
  constructor
  · intro h
    unfold readOpening? at h
    split at h
    · next hread =>
      cases h
      obtain ⟨hps, heq⟩ := read?_eq_some_iff.mp hread
      exact ⟨hps, List.cons_ne_nil _ _, heq⟩
    · cases h
  · rintro ⟨hps, hne, rfl⟩
    obtain ⟨c, rest, rfl⟩ := List.exists_cons_of_ne_nil hne
    rw [readOpening?, read?_sequence_append hps]

/-- The line feed that is lost is read last. -/
theorem stream_of_losesLineFeed {t : Text} (h : LosesLineFeed t) :
    stream t = stream t.dropLast ++ [.character '\n'] := by
  obtain ⟨before, ps, -, hps, rfl⟩ := h
  have hlineFeed : stream ['\n'] = [.character '\n'] := by
    rw [stream_cons_of_ne (by decide), stream_nil]
  rw [List.dropLast_concat, whole_append_sequence hps, hlineFeed]

/-- A text that ends in a line feed loses it, unless the sequence opens the text. -/
theorem losesLineFeed_of_readOpening?_eq_none {t : Text} (h : readOpening? t = none) :
    LosesLineFeed t ↔ EndsInLineFeed t := by
  constructor
  · rintro ⟨before, ps, -, hps, heq⟩
    exact ⟨before, ps, hps, heq⟩
  · rintro ⟨before, ps, hps, rfl⟩
    refine ⟨before, ps, ?_, hps, rfl⟩
    rintro rfl
    have hopening : readOpening? ([] ++ sequence ps ++ ['\n']) = some (ps, ['\n']) :=
      readOpening?_eq_some_iff.mpr ⟨hps, List.cons_ne_nil _ _, rfl⟩
    rw [hopening] at h
    cases h

theorem not_losesLineFeed_of_not_mem {t : Text} (h : escape ∉ t) : ¬ LosesLineFeed t := by
  rintro ⟨before, ps, -, -, rfl⟩
  simp [sequence] at h

theorem not_losesLineFeed_append_sequence (t ps : Text) : ¬ LosesLineFeed (t ++ sequence ps) := by
  rintro ⟨before, qs, -, -, heq⟩
  have hlast := congrArg List.getLast? heq
  rw [sequence, ← List.append_assoc, List.getLast?_concat, List.getLast?_concat] at hlast
  exact absurd hlast (by decide)

/-- Nothing opens a text without escape characters. -/
theorem readOpening?_of_not_mem {t : Text} (h : escape ∉ t) : readOpening? t = none := by
  cases hopening : readOpening? t with
  | none => rfl
  | some r =>
    obtain ⟨-, -, rfl⟩ := readOpening?_eq_some_iff.mp hopening
    exact absurd List.mem_cons_self h

end Sgr

namespace Markers

open Sgr

/-! ## 2. Opening and closing -/

/-- Switching a rendition on is read in front of the text. -/
theorem stream_openWith {on : Text} (h : IsParameters on) (t : Text) :
    stream (openWith on t) = parameterSigns on ++ stream t := by
  unfold openWith
  split
  · next ps rest hopening =>
    obtain ⟨hps, -, rfl⟩ := readOpening?_eq_some_iff.mp hopening
    rw [stream_sequence_append (isParameters_semicolon h hps), stream_sequence_append hps,
      parameterSigns_semicolon, List.append_assoc]
  · exact stream_sequence_append h t

/-- Switching a rendition on loses no line feed, and puts none at risk. -/
theorem losesLineFeed_openWith {on : Text} (h : IsParameters on) (t : Text) :
    LosesLineFeed (openWith on t) ↔ LosesLineFeed t := by
  unfold openWith
  split
  · next ps rest hopening =>
    obtain ⟨hps, -, rfl⟩ := readOpening?_eq_some_iff.mp hopening
    rw [losesLineFeed_sequence_append (isParameters_semicolon h hps),
      losesLineFeed_sequence_append hps]
  · next hopening =>
    rw [losesLineFeed_sequence_append h, losesLineFeed_of_readOpening?_eq_none hopening]

/-- The text before the rendition that is switched off, and its parameters. -/
theorem exists_closeWith {off : Text} (h : IsParameters off) (t : Text) :
    ∃ before ps, IsParameters ps ∧ closeWith off t = before ++ sequence ps := by
  unfold closeWith
  split
  · next c before ps hclosing =>
    obtain ⟨hps, -⟩ := findClosing?_eq_some_iff.mp hclosing
    exact ⟨c :: before, ps ++ ';' :: off, isParameters_semicolon hps h, rfl⟩
  · exact ⟨t, off, h, rfl⟩

/-- What a terminal reads if a closing sequence is merged. -/
theorem stream_append_sequence_semicolon {ps off : Text} (hps : IsParameters ps)
    (hoff : IsParameters off) (t : Text) :
    stream (t ++ sequence (ps ++ ';' :: off)) = stream (t ++ sequence ps) ++ parameterSigns off := by
  rw [stream_append_sequence (isParameters_semicolon hps hoff), stream_append_sequence hps,
    parameterSigns_semicolon, List.append_assoc]

/-- Switching a rendition off is read behind the text, unless that loses a line feed. -/
theorem stream_closeWith {off t : Text} (h : IsParameters off) (ht : ¬ LosesLineFeed t) :
    stream (closeWith off t) = stream t ++ parameterSigns off := by
  unfold closeWith
  split
  · next c before ps hclosing =>
    obtain ⟨hps, rfl | rfl⟩ := findClosing?_eq_some_iff.mp hclosing
    · exact stream_append_sequence_semicolon hps h (c :: before)
    · exact absurd ⟨c :: before, ps, List.cons_ne_nil _ _, hps, rfl⟩ ht
  · exact stream_append_sequence h t

/-- If it loses one, it is as if the text had been without it. -/
theorem stream_closeWith_of_losesLineFeed {off t : Text} (h : IsParameters off)
    (ht : LosesLineFeed t) :
    stream (closeWith off t) = stream t.dropLast ++ parameterSigns off := by
  obtain ⟨before, ps, hne, hps, rfl⟩ := ht
  obtain ⟨c, before, rfl⟩ := List.exists_cons_of_ne_nil hne
  have hclosing := findClosing?_eq_some_iff.mpr
    ⟨hps, .inr (rfl : c :: before ++ sequence ps ++ ['\n'] = _)⟩
  rw [List.dropLast_concat, closeWith, hclosing]
  exact stream_append_sequence_semicolon hps h (c :: before)

/-! ## 3. Styles -/

/-- The text between the renditions of a style. -/
def body (m : Markers) (t : Text) : Text := if m.keep then m.surround t else t

variable {m : Markers} {on off : Text}

theorem body_of_not_keep (h : m.keep = false) (t : Text) : m.body t = t := by
  rw [body, h]
  rfl

theorem apply_markup (hm : m.rendition = some (on, off)) (t : Text) :
    m.apply .markup t = closeWith off (openWith on (m.body t)) := by
  unfold apply body
  simp only [hm]

/-- A text between two sequences, one by one. -/
theorem stream_between (hon : IsParameters on) (hoff : IsParameters off) (t : Text) :
    stream (sequence on ++ t ++ sequence off) =
      parameterSigns on ++ stream t ++ parameterSigns off := by
  rw [stream_append_sequence hoff, stream_sequence_append hon]

/-- A styled text ends in a sequence. -/
theorem exists_apply_markup (hm : m.rendition = some (on, off)) (hoff : IsParameters off)
    (t : Text) : ∃ before ps, IsParameters ps ∧ m.apply .markup t = before ++ sequence ps := by
  rw [apply_markup hm]
  exact exists_closeWith hoff _

/-- What a terminal reads of a styled text that loses no line feed. -/
theorem stream_apply_markup (hm : m.rendition = some (on, off)) (hon : IsParameters on)
    (hoff : IsParameters off) {t : Text} (ht : ¬ LosesLineFeed (m.body t)) :
    stream (m.apply .markup t) = parameterSigns on ++ stream (m.body t) ++ parameterSigns off := by
  have hopened : ¬ LosesLineFeed (openWith on (m.body t)) :=
    fun h => ht ((losesLineFeed_openWith hon _).mp h)
  rw [apply_markup hm, stream_closeWith hoff hopened, stream_openWith hon]

/-- What a terminal reads of a styled text that loses one. -/
theorem stream_apply_markup_of_losesLineFeed (hm : m.rendition = some (on, off))
    (hon : IsParameters on) (hoff : IsParameters off) {t : Text}
    (ht : LosesLineFeed (m.body t)) :
    stream (m.apply .markup t) =
      parameterSigns on ++ stream (m.body t).dropLast ++ parameterSigns off := by
  have hopened := (losesLineFeed_openWith hon _).mpr ht
  have hlast : stream (openWith on (m.body t)).dropLast ++ [.character '\n'] =
      parameterSigns on ++ stream (m.body t).dropLast ++ [.character '\n'] := by
    rw [← stream_of_losesLineFeed hopened, stream_openWith hon, stream_of_losesLineFeed ht,
      List.append_assoc]
  rw [apply_markup hm, stream_closeWith_of_losesLineFeed hoff hopened,
    List.append_cancel_right hlast]

/-- **Nested renditions are read one by one.**  A terminal reads a styled text as it reads the
text between the two sequences of the style, unless merging loses a line feed at the end of the
text.  Then it reads everything but that line feed. -/
theorem stream_apply_iff (hm : m.rendition = some (on, off)) (hon : IsParameters on)
    (hoff : IsParameters off) (t : Text) :
    (stream (m.apply .markup t) = stream (sequence on ++ m.body t ++ sequence off) ↔
      ¬ LosesLineFeed (m.body t)) ∧
    (LosesLineFeed (m.body t) →
      m.body t = (m.body t).dropLast ++ ['\n'] ∧
      stream (m.apply .markup t) = stream (sequence on ++ (m.body t).dropLast ++ sequence off)) := by
  refine ⟨⟨fun heq hloses => ?_, fun hloses => ?_⟩, fun hloses => ⟨?_, ?_⟩⟩
  · -- One more character is read between the two sequences.
    rw [stream_between hon hoff, stream_of_losesLineFeed hloses,
      stream_apply_markup_of_losesLineFeed hm hon hoff hloses] at heq
    have hlength := congrArg List.length heq
    simp only [List.length_append, List.length_singleton] at hlength
    omega
  · rw [stream_between hon hoff, stream_apply_markup hm hon hoff hloses]
  · obtain ⟨before, ps, -, -, heq⟩ := hloses
    rw [heq, List.dropLast_concat]
  · rw [stream_between hon hoff, stream_apply_markup_of_losesLineFeed hm hon hoff hloses]

/-- Bold text around cyan text, with four parameters in two sequences. -/
theorem stream_apply_cyan :
    stream (Markers.apply ⟨['*'], ['*'], some (['1'], ['2', '2']), false⟩ .markup
        (sequence ['3', '6'] ++ ['p'] ++ sequence ['3', '9'])) =
      stream (sequence ['1'] ++ (sequence ['3', '6'] ++ ['p'] ++ sequence ['3', '9']) ++
        sequence ['2', '2']) :=
  (stream_apply_iff rfl (by decide) (by decide) _).1.mpr
    (not_losesLineFeed_append_sequence (sequence ['3', '6'] ++ ['p']) ['3', '9'])

/-- Bold text around a text that ends in a sequence and a line feed: the line feed is lost. -/
theorem stream_apply_line_feed :
    stream (Markers.apply ⟨['*'], ['*'], some (['1'], ['2', '2']), false⟩ .markup
        (['x'] ++ sequence ['0'] ++ ['\n'])) ≠
      stream (sequence ['1'] ++ (['x'] ++ sequence ['0'] ++ ['\n']) ++ sequence ['2', '2']) := by
  decide +kernel

/-! ## 4. Texts without escape characters -/

/-- Nothing is merged where only the opening sequence has an escape character. -/
theorem closeWith_sequence_append (off : Text) {on t : Text} (hon : escape ∉ on)
    (ht : escape ∉ t) : closeWith off (sequence on ++ t) = sequence on ++ t ++ sequence off := by
  unfold closeWith
  split
  · next c before ps hclosing =>
    have hnot : escape ∉ (sequence on ++ t).tail := by
      simpa [Sgr.sequence, escape] using And.intro hon ht
    obtain ⟨-, heq | heq⟩ := findClosing?_eq_some_iff.mp hclosing
    · rw [heq] at hnot
      exact absurd (by simp [Sgr.sequence]) hnot
    · rw [heq] at hnot
      exact absurd (by simp [Sgr.sequence]) hnot
  · rfl

theorem apply_markup_of_not_mem (hm : m.rendition = some (on, off)) (hon : escape ∉ on) {t : Text}
    (ht : escape ∉ m.body t) :
    m.apply .markup t = sequence on ++ m.body t ++ sequence off := by
  rw [apply_markup hm, openWith, readOpening?_of_not_mem ht]
  exact closeWith_sequence_append off hon ht

/-- Markers and renditions without escape characters. -/
structure Inert (m : Markers) : Prop where
  before : escape ∉ m.before
  after : escape ∉ m.after
  on : ∀ on off, m.rendition = some (on, off) → escape ∉ on

/-- **A text without escape characters** is put between the same two texts, whatever it is. -/
theorem Inert.exists_apply {m : Markers} (h : m.Inert) (capability : Capability) :
    ∃ before after, ∀ t, escape ∉ t → m.apply capability t = before ++ t ++ after := by
  cases capability with
  | none => exact ⟨[], [], fun t _ => (List.append_nil t).symm⟩
  | ascii => exact ⟨m.before, m.after, fun t _ => rfl⟩
  | markup =>
    cases hm : m.rendition with
    | none => exact ⟨m.before, m.after, fun t _ => by simp only [apply, hm, surround]⟩
    | some rendition =>
      obtain ⟨on, off⟩ := rendition
      have hon := h.on on off hm
      cases hkeep : m.keep with
      | false =>
        refine ⟨sequence on, sequence off, fun t ht => ?_⟩
        have hbody := body_of_not_keep hkeep t
        rw [apply_markup_of_not_mem hm hon (hbody.symm ▸ ht), hbody]
      | true =>
        refine ⟨sequence on ++ m.before, m.after ++ sequence off, fun t ht => ?_⟩
        have hbody : m.body t = m.before ++ t ++ m.after := by rw [body, hkeep]; rfl
        have hfree : escape ∉ m.body t := by
          simp [hbody, h.before, ht, h.after]
        rw [apply_markup_of_not_mem hm hon hfree, hbody]
        simp only [List.append_assoc]

end Markers

theorem Style.apply_markers (m : Markers) (capability : Capability) (t : Text) :
    (Style.markers m).apply capability t = m.apply capability t := by
  cases capability <;> rfl

end Phrasing
