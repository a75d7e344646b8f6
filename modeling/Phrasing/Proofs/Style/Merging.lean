/-
# Styles around styles

A text that is put in one style after the other stands between two sequences only, as long as the
styles are shown by their renditions: the first style writes a sequence on either side, and every
other one adds its parameters to them, in front of what is switched on and behind what is switched
off (`apply_between`).

The text itself must not take part in this (`Unmarked`).  It may be empty, or a line feed, so that the
two sequences are next to each other or all but so.  The one in front is never taken for the one
behind, because that one has something in front of it.
-/
import Phrasing.Proofs.Style.Nesting
import Mathlib.Data.List.Forall2

namespace Phrasing

namespace Sgr

/-! ## 1. Texts that nothing is merged with -/

/-- A text that neither starts with a sequence nor ends in one.  A line feed behind the sequence
makes no difference. -/
structure Unmarked (t : Text) : Prop where
  opening : ∀ ps rest, IsParameters ps → t ≠ sequence ps ++ rest
  closing : ∀ before ps, IsParameters ps → t ≠ before ++ sequence ps
  closing_lineFeed : ¬ EndsInLineFeed t

theorem Unmarked.readOpening?_eq_none {t : Text} (h : Unmarked t) : readOpening? t = none := by
  cases hopening : readOpening? t with
  | none => rfl
  | some read =>
    obtain ⟨hps, -, heq⟩ := readOpening?_eq_some_iff.mp hopening
    exact absurd heq (h.opening _ _ hps)

/-- With a sequence in front of it, it still ends in none but that one. -/
theorem Unmarked.findClosing?_ne {t on : Text} (h : Unmarked t) (hon : IsParameters on) (c : Char)
    (before ps : Text) : findClosing? (sequence on ++ t) ≠ some (c :: before, ps) := by
  intro hclosing
  have hne : c :: before ≠ [] := List.cons_ne_nil c before
  obtain ⟨hps, hends | hends⟩ := findClosing?_eq_some_iff.mp hclosing
  · obtain ⟨middle, -, rfl⟩ := exists_append_of_sequence_append hon hne hends
    exact h.closing middle ps hps rfl
  · rw [List.append_assoc] at hends
    obtain ⟨middle, -, rfl⟩ := exists_append_of_sequence_append hon hne hends
    exact h.closing_lineFeed ⟨middle, ps, hps, by rw [List.append_assoc]; rfl⟩

end Sgr

namespace Markers

open Sgr

/-! ## 2. One more style -/

/-- Markers that a terminal shows by a rendition alone: the parameters to switch it on and off. -/
structure Renders (m : Markers) (rendition : Text × Text) : Prop where
  rendition_eq : m.rendition = some rendition
  keep : m.keep = false
  on : IsParameters rendition.1
  off : IsParameters rendition.2

variable {m : Markers} {rendition : Text × Text}

theorem Renders.apply (h : m.Renders rendition) (t : Text) :
    m.apply .markup t = closeWith rendition.2 (openWith rendition.1 t) := by
  rw [apply_markup h.rendition_eq, body_of_not_keep h.keep]

/-- **The first style** writes the two sequences. -/
theorem Renders.apply_unmarked (h : m.Renders rendition) {t : Text} (ht : Unmarked t) :
    m.apply .markup t = sequence rendition.1 ++ t ++ sequence rendition.2 := by
  rw [h.apply, openWith, ht.readOpening?_eq_none]
  dsimp only
  -- The sequence that was just opened may end the text, but has nothing in front of it.
  unfold closeWith
  split
  · next c before ps hclosing =>
    exact absurd hclosing (ht.findClosing?_ne h.on c before ps)
  · rfl

/-- **Every other style** is merged with them, whatever stands between. -/
theorem Renders.apply_between (h : m.Renders rendition) {ps qs : Text} (hps : IsParameters ps)
    (hqs : IsParameters qs) (t : Text) :
    m.apply .markup (sequence ps ++ t ++ sequence qs) =
      sequence (rendition.1 ++ ';' :: ps) ++ t ++ sequence (qs ++ ';' :: rendition.2) := by
  have hopening : readOpening? (sequence ps ++ t ++ sequence qs) = some (ps, t ++ sequence qs) :=
    readOpening?_eq_some_iff.mpr ⟨hps, by simp [Sgr.sequence], List.append_assoc _ _ _⟩
  have hclosing : findClosing? (sequence (rendition.1 ++ ';' :: ps) ++ t ++ sequence qs) =
      some (sequence (rendition.1 ++ ';' :: ps) ++ t, qs) :=
    findClosing?_eq_some_iff.mpr ⟨hqs, .inl rfl⟩
  rw [h.apply, openWith, hopening]
  dsimp only
  rw [← List.append_assoc, closeWith, hclosing]
  rfl

/-! ## 3. Styles in a row -/

/-- A text in one style after the other, as a terminal gets it. -/
def applyAll (ms : List Markers) (t : Text) : Text := ms.foldl (fun t m => m.apply .markup t) t

theorem applyAll_between {ms : List Markers} {renditions : List (Text × Text)}
    (h : List.Forall₂ Renders ms renditions) {ps qs : Text} (hps : IsParameters ps)
    (hqs : IsParameters qs) (t : Text) :
    applyAll ms (sequence ps ++ t ++ sequence qs) =
      sequence (Text.join [';'] ((renditions.map Prod.fst).reverse ++ [ps])) ++ t ++
        sequence (Text.join [';'] (qs :: renditions.map Prod.snd)) := by
  -- Both sequences grow from style to style, so the induction is over any two.
  induction h generalizing ps qs with
  | nil => rfl
  | @cons m rendition ms renditions hm hms ih =>
    have hstep : applyAll (m :: ms) (sequence ps ++ t ++ sequence qs) =
        applyAll ms (sequence (rendition.1 ++ ';' :: ps) ++ t ++
          sequence (qs ++ ';' :: rendition.2)) :=
      congrArg (applyAll ms) (hm.apply_between hps hqs t)
    have hon : Text.join [';'] ((renditions.map Prod.fst).reverse ++ [rendition.1 ++ ';' :: ps]) =
        Text.join [';'] (((rendition :: renditions).map Prod.fst).reverse ++ [ps]) := by
      rw [List.map_cons, List.reverse_cons, List.append_assoc]
      simpa using Text.join_append_piece [';'] (renditions.map Prod.fst).reverse [] rendition.1 ps
    have hoff : Text.join [';'] ((qs ++ ';' :: rendition.2) :: renditions.map Prod.snd) =
        Text.join [';'] (qs :: (rendition :: renditions).map Prod.snd) := by
      simpa using Text.join_append_piece [';'] [] (renditions.map Prod.snd) qs rendition.2
    rw [hstep, ih (isParameters_semicolon hm.on hps) (isParameters_semicolon hqs hm.off), hon, hoff]

/-- **Styles in a row are merged into one sequence on either side.**  The style that is put on last
is switched on first and off last.  The text stays as it is; it may be anything that does not start
with a sequence or end in one. -/
theorem applyAll_merged {ms : List Markers} {renditions : List (Text × Text)} (hne : ms ≠ [])
    (h : List.Forall₂ Renders ms renditions) {t : Text} (ht : Unmarked t) :
    applyAll ms t =
      sequence (Text.join [';'] (renditions.map Prod.fst).reverse) ++ t ++
        sequence (Text.join [';'] (renditions.map Prod.snd)) := by
  cases h with
  | nil => exact absurd rfl hne
  | @cons m rendition ms renditions hm hms =>
    have hfirst : applyAll (m :: ms) t =
        applyAll ms (sequence rendition.1 ++ t ++ sequence rendition.2) :=
      congrArg (applyAll ms) (hm.apply_unmarked ht)
    rw [hfirst, applyAll_between hms hm.on hm.off, List.map_cons, List.reverse_cons, List.map_cons]

/-- A line feed in three styles. -/
theorem applyAll_merged_line_feed :
    let ms : List Markers := [⟨['*'], ['*'], some (['1'], ['2', '2']), false⟩,
      ⟨['_'], ['_'], some (['3'], ['2', '3']), false⟩, ⟨[], [], some (['3', '6'], []), false⟩]
    let renditions : List (Text × Text) :=
      [(['1'], ['2', '2']), (['3'], ['2', '3']), (['3', '6'], [])]
    ms ≠ [] ∧ List.Forall₂ Renders ms renditions ∧ Unmarked ['\n'] ∧
      applyAll ms ['\n'] = sequence "36;3;1".toList ++ ['\n'] ++ sequence "22;23;".toList := by
  intro ms renditions
  have hrenders : List.Forall₂ Renders ms renditions :=
    .cons ⟨rfl, rfl, by decide, by decide⟩ <| .cons ⟨rfl, rfl, by decide, by decide⟩ <|
      .cons ⟨rfl, rfl, by decide, by decide⟩ .nil
  have hunmarked : Unmarked ['\n'] := by
    refine ⟨fun ps rest _ heq => ?_, fun before ps _ heq => ?_, fun hends => ?_⟩
    · exact absurd (List.cons.inj heq).1 (by decide)
    · have hmem : escape ∈ ['\n'] := by rw [heq]; simp [Sgr.sequence]
      exact absurd hmem (by decide)
    · obtain ⟨before, ps, -, heq⟩ := hends
      have hmem : escape ∈ ['\n'] := by rw [heq]; simp [Sgr.sequence]
      exact absurd hmem (by decide)
  have hne : ms ≠ [] := List.cons_ne_nil _ _
  exact ⟨hne, hrenders, hunmarked, applyAll_merged hne hrenders hunmarked⟩

end Markers

end Phrasing
