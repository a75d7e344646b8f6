/-
# What a terminal reads

A terminal reads a text from left to right.  A sequence gives it its parameters, one by one, and
every other character is shown.  `stream` is what it reads in this way, so two texts with the same
stream look the same, however their parameters are spread over sequences.

An escape character starts a sequence but never continues one, so reading can be cut in front of
it (`read?_append_escape`, `stream_append_escape`).  A text is whole if reading can be cut behind
it, whatever follows: texts without escape characters are, and texts that end in a sequence.
-/
import Phrasing.Proofs.Text.Lines
import Phrasing.Style.Sgr

namespace Phrasing

namespace Text

/-- Pieces are cut at a separator, whatever stands on either side. -/
theorem splitWhere_append_cons {p : Char → Bool} {c : Char} (h : p c = true) (s t : Text) :
    splitWhere p (s ++ c :: t) = splitWhere p s ++ splitWhere p t := by
  simp only [splitWhere_eq_splitOnP]
  exact List.splitOnP_append_cons s t h

end Text

namespace Sgr

/-! ## 1. Sequences -/

/-- A text of parameters, which are numbers separated by semicolons. -/
def IsParameters (t : Text) : Prop := t.all isParameter = true

instance (t : Text) : Decidable (IsParameters t) :=
  inferInstanceAs (Decidable (t.all isParameter = true))

theorem isParameters_append {s t : Text} :
    IsParameters (s ++ t) ↔ IsParameters s ∧ IsParameters t := by
  simp [IsParameters]

theorem isParameters_semicolon {s t : Text} (hs : IsParameters s) (ht : IsParameters t) :
    IsParameters (s ++ ';' :: t) := by
  refine isParameters_append.mpr ⟨hs, ?_⟩
  simpa [IsParameters, isParameter] using ht

theorem escape_not_mem {t : Text} (h : IsParameters t) : escape ∉ t := by
  intro hmem
  exact absurd (List.all_eq_true.mp h _ hmem) (by decide)

/-- **What is read off the front** of a text is a sequence. -/
theorem read?_eq_some_iff {t ps rest : Text} :
    read? t = some (ps, rest) ↔ IsParameters ps ∧ t = sequence ps ++ rest := by
  constructor
  · intro h
    unfold read? at h
    split at h
    · next e body =>
      split at h
      · next he =>
        split at h
        · next hm =>
          cases h
          refine ⟨List.all_takeWhile, ?_⟩
          have hbody := List.takeWhile_append_dropWhile (p := isParameter) (l := body)
          rw [hm] at hbody
          rw [he, sequence]
          simp [hbody]
        · cases h
      · cases h
    · cases h
  · rintro ⟨hps, rfl⟩
    have hdrop : (ps ++ 'm' :: rest).dropWhile isParameter = 'm' :: rest := by
      rw [List.dropWhile_append_of_pos (List.all_eq_true.mp hps)]
      rfl
    have htake : (ps ++ 'm' :: rest).takeWhile isParameter = ps := by
      rw [List.takeWhile_append_of_pos (List.all_eq_true.mp hps)]
      simp [isParameter, Text.isAsciiDigit]
    simp [sequence, read?, hdrop, htake]

theorem read?_sequence_append {ps : Text} (h : IsParameters ps) (rest : Text) :
    read? (sequence ps ++ rest) = some (ps, rest) := read?_eq_some_iff.mpr ⟨h, rfl⟩

/-- Behind its first character, a sequence has no escape character. -/
theorem escape_not_mem_tail {ps : Text} (h : IsParameters ps) : escape ∉ (sequence ps).tail := by
  have hps := escape_not_mem h
  simpa [sequence, escape] using hps

/-- A sequence at the front of a text ends before the next escape character. -/
theorem exists_append_of_sequence_append {ps rest before after : Text} (h : IsParameters ps)
    (hne : before ≠ []) (heq : sequence ps ++ rest = before ++ escape :: after) :
    ∃ middle, before = sequence ps ++ middle ∧ rest = middle ++ escape :: after := by
  rcases List.append_eq_append_iff.mp heq with ⟨middle, hbefore, hrest⟩ | ⟨middle, hsequence, hafter⟩
  · exact ⟨middle, hbefore, hrest⟩
  · cases middle with
    | nil => exact ⟨[], by simpa using hsequence.symm, by simpa using hafter.symm⟩
    | cons e middle =>
      -- The escape character would stand inside the sequence.
      obtain ⟨c, before, rfl⟩ := List.exists_cons_of_ne_nil hne
      cases hafter
      refine absurd ?_ (escape_not_mem_tail h)
      rw [hsequence]
      simp

/-- **Reading off the front does not look past an escape character.** -/
theorem read?_append_escape {before : Text} (hne : before ≠ []) (after : Text) :
    read? (before ++ escape :: after) =
      (read? before).map fun (ps, rest) => (ps, rest ++ escape :: after) := by
  cases hread : read? before with
  | some read =>
    obtain ⟨ps, rest⟩ := read
    obtain ⟨hps, rfl⟩ := read?_eq_some_iff.mp hread
    rw [List.append_assoc, read?_sequence_append hps]
    rfl
  | none =>
    cases hall : read? (before ++ escape :: after) with
    | none => rfl
    | some read =>
      obtain ⟨ps, rest⟩ := read
      obtain ⟨hps, heq⟩ := read?_eq_some_iff.mp hall
      obtain ⟨middle, rfl, -⟩ := exists_append_of_sequence_append hps hne heq.symm
      rw [read?_sequence_append hps] at hread
      cases hread

/-! ## 2. Streams -/

/-- Something that a terminal reads. -/
inductive Sign where
  | parameter (t : Text)
  | character (c : Char)
deriving DecidableEq, Repr

/-- The parameters of a sequence, one by one. -/
def parameterSigns (ps : Text) : List Sign := (Text.splitWhere (· == ';') ps).map .parameter

theorem length_of_read? {t ps rest : Text} (h : read? t = some (ps, rest)) :
    rest.length < t.length := by
  obtain ⟨-, rfl⟩ := read?_eq_some_iff.mp h
  simp [sequence]
  omega

/-- What a terminal reads: a sequence where one starts, and otherwise a character. -/
def stream (t : Text) : List Sign :=
  match t with
  | [] => []
  | c :: rest =>
    match _h : read? (c :: rest) with
    | some (ps, rest) => parameterSigns ps ++ stream rest
    | none => .character c :: stream rest
termination_by t.length
decreasing_by
  · exact length_of_read? _h
  · exact Nat.lt_succ_self _

theorem parameterSigns_semicolon (ps qs : Text) :
    parameterSigns (ps ++ ';' :: qs) = parameterSigns ps ++ parameterSigns qs := by
  rw [parameterSigns, Text.splitWhere_append_cons rfl, List.map_append]
  rfl

@[simp] theorem stream_nil : stream [] = [] := by
  rw [stream]

theorem stream_of_read? {t ps rest : Text} (h : read? t = some (ps, rest)) :
    stream t = parameterSigns ps ++ stream rest := by
  cases t with
  | nil => cases h
  | cons c t =>
    rw [stream]
    split
    · next hread =>
      rw [h] at hread
      cases hread
      rfl
    · next hread =>
      rw [h] at hread
      cases hread

theorem stream_of_read?_eq_none {c : Char} {t : Text} (h : read? (c :: t) = none) :
    stream (c :: t) = .character c :: stream t := by
  rw [stream]
  split
  · next hread =>
    rw [h] at hread
    cases hread
  · rfl

/-- A sequence is read first, whatever follows. -/
theorem stream_sequence_append {ps : Text} (h : IsParameters ps) (t : Text) :
    stream (sequence ps ++ t) = parameterSigns ps ++ stream t :=
  stream_of_read? (read?_sequence_append h t)

theorem stream_cons_of_ne {c : Char} (h : c ≠ escape) (t : Text) :
    stream (c :: t) = .character c :: stream t := by
  refine stream_of_read?_eq_none ?_
  cases hread : read? (c :: t) with
  | none => rfl
  | some read =>
    obtain ⟨-, heq⟩ := read?_eq_some_iff.mp hread
    cases heq
    exact absurd rfl h

/-- An unfinished sequence is shown as it is. -/
example : stream ([escape, '['] ++ sequence ['1', ';'] ++ ['b']) =
    [.character escape, .character '[', .parameter ['1'], .parameter [], .character 'b'] := by
  decide +kernel

/-- **Reading can be cut in front of an escape character.** -/
theorem stream_append_escape (s t : Text) :
    stream (s ++ escape :: t) = stream s ++ stream (escape :: t) := by
  match s with
  | [] => rw [stream_nil]; rfl
  | c :: s =>
    have hread := read?_append_escape (List.cons_ne_nil c s) t
    cases hs : read? (c :: s) with
    | some read =>
      obtain ⟨ps, rest⟩ := read
      have hlength := length_of_read? hs
      rw [hs] at hread
      rw [stream_of_read? hread, stream_of_read? hs, stream_append_escape rest t,
        List.append_assoc]
    | none =>
      rw [hs, List.cons_append] at hread
      rw [stream_of_read?_eq_none hs, List.cons_append, List.cons_append,
        stream_of_read?_eq_none hread, stream_append_escape s t]
termination_by s.length
decreasing_by
  · exact Nat.lt_succ_self _
  · exact hlength

/-- In particular, in front of a sequence. -/
theorem stream_append_sequence {ps : Text} (h : IsParameters ps) (s : Text) :
    stream (s ++ sequence ps) = stream s ++ parameterSigns ps := by
  have hsequence := stream_sequence_append h []
  rw [List.append_nil, stream_nil, List.append_nil] at hsequence
  rw [← hsequence]
  exact stream_append_escape s _

/-! ## 3. Whole texts -/

/-- A text behind which reading can be cut, whatever follows. -/
def Whole (s : Text) : Prop := ∀ t, stream (s ++ t) = stream s ++ stream t

theorem whole_nil : Whole [] := by
  intro t
  rw [stream_nil]
  rfl

theorem Whole.append {s t : Text} (hs : Whole s) (ht : Whole t) : Whole (s ++ t) := by
  intro u
  rw [List.append_assoc, hs, ht, hs, List.append_assoc]

theorem whole_of_not_mem {s : Text} (h : escape ∉ s) : Whole s := by
  induction s with
  | nil => exact whole_nil
  | cons c s ih =>
    intro t
    have hc : c ≠ escape := fun heq => h (heq ▸ List.mem_cons_self)
    have hs := ih (fun hmem => h (List.mem_cons_of_mem c hmem)) t
    rw [List.cons_append, stream_cons_of_ne hc, stream_cons_of_ne hc, hs, List.cons_append]

/-- A text that ends in a sequence is whole, even if it has the start of another in front. -/
theorem whole_append_sequence {ps : Text} (h : IsParameters ps) (s : Text) :
    Whole (s ++ sequence ps) := by
  intro t
  have hcut := stream_append_escape s ('[' :: ps ++ ['m'] ++ t)
  have hsequence := stream_sequence_append h t
  rw [List.append_assoc, stream_append_sequence h, List.append_assoc, ← hsequence]
  exact hcut

/-! ## 4. What is shown -/

/-- The character that a terminal shows. -/
def Sign.character? : Sign → Option Char
  | parameter _ => none
  | character c => some c

/-- The characters of a text that belong to no sequence. -/
def visible (t : Text) : Text := (stream t).filterMap Sign.character?

theorem visible_append {s : Text} (h : Whole s) (t : Text) :
    visible (s ++ t) = visible s ++ visible t := by
  rw [visible, h, List.filterMap_append]
  rfl

theorem visible_of_not_mem {s : Text} (h : escape ∉ s) : visible s = s := by
  induction s with
  | nil => rw [visible, stream_nil]; rfl
  | cons c s ih =>
    have hc : c ≠ escape := fun heq => h (heq ▸ List.mem_cons_self)
    have hs := ih fun hmem => h (List.mem_cons_of_mem c hmem)
    rw [visible, stream_cons_of_ne hc]
    exact congrArg (c :: ·) hs

/-- Parameters are not shown. -/
theorem filterMap_parameterSigns (ps : Text) :
    (parameterSigns ps).filterMap Sign.character? = [] := by
  rw [parameterSigns, List.filterMap_map]
  exact List.filterMap_eq_nil_iff.mpr fun _ _ => rfl

end Sgr

end Phrasing
