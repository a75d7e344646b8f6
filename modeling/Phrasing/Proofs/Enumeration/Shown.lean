/-
# Enumerations of styled texts

An enumeration puts separators between its items and looks into none of them, unless they are to
be sorted.  So what is shown of an enumeration of styled texts is the enumeration of what is
shown of them (`write_shows`).

The separators, and the summary of the items that are left out, belong to the enumeration.
They must not have escape characters, or they would be read together with what follows.
-/
import Phrasing.Enumeration.Basic
import Phrasing.Proofs.Outcome
import Phrasing.Proofs.Style.Stream
import Mathlib.Data.List.Forall2

namespace Phrasing

/-- What is left of a trimmed text was there before. -/
theorem Text.mem_of_mem_trimEnd {c : Char} {t : Text} (h : c ∈ trimEnd t) : c ∈ t := by
  rw [trimEnd, dropEndWhile, List.mem_reverse] at h
  exact List.mem_reverse.mp ((List.dropWhile_sublist _).mem h)

namespace Sgr

/-! ## 1. Texts that show others -/

/-- A text of which the terminal shows another one, whatever follows. -/
structure Shows (s t : Text) : Prop where
  whole : Whole s
  visible : visible s = t

theorem shows_of_not_mem {t : Text} (h : escape ∉ t) : Shows t t :=
  ⟨whole_of_not_mem h, visible_of_not_mem h⟩

theorem Shows.append {s s' t t' : Text} (h : Shows s t) (h' : Shows s' t') :
    Shows (s ++ s') (t ++ t') where
  whole := h.whole.append h'.whole
  visible := by rw [visible_append h.whole, h.visible, h'.visible]

/-- Texts that show others, one by one. -/
abbrev ShowsAll : (ss ts : List Text) → Prop := List.Forall₂ Shows

theorem shows_join {separator : Text} (h : escape ∉ separator) {ss ts : List Text}
    (hall : ShowsAll ss ts) : Shows (Text.join separator ss) (Text.join separator ts) := by
  induction hall with
  | nil => exact shows_of_not_mem List.not_mem_nil
  | cons hs hall ih =>
    cases hall with
    | nil => exact hs
    | cons hs' hall => exact (hs.append (shows_of_not_mem h)).append ih

end Sgr

namespace Enumeration

open Sgr

/-! ## 2. What an enumeration adds to its items -/

/-- The separators. -/
def separators (e : Enumeration) : List Data :=
  e.separator :: e.lastSeparator :: e.pairSeparator.toList

/-- The summary of what is left out of `n` items, if there is one. -/
def summaries (e : Enumeration) (n : Nat) : List Text :=
  match e.maxItems with
  | none => []
  | some m => if n ≤ m then [] else (e.summary (n - m)).toOption.toList

theorem asText_of_separatorText {d : Data} {t : Text} (h : separatorText d = .ok t) :
    d.asText = t := by
  cases d <;> cases h
  rfl

theorem mem_of_mem_trimBefore {c : Char} {separator last : Text}
    (h : c ∈ trimBefore separator last) : c ∈ separator := by
  unfold trimBefore at h
  dsimp only at h
  split at h
  · exact Text.mem_of_mem_trimEnd h
  · exact h

theorem not_mem_of_oxfordSeparator {separator t : Text} {d : Data} (hs : escape ∉ separator)
    (hd : escape ∉ d.asText) (h : oxfordSeparator separator d = .ok t) : escape ∉ t := by
  cases d with
  | text last =>
    cases h
    intro hmem
    rcases List.mem_append.mp hmem with hmem | hmem
    · exact hs (mem_of_mem_trimBefore hmem)
    · exact hd hmem
  | _ => cases h

theorem asText_of_writtenText {d : Data} {t : Text} (h : writtenText d = .ok t) :
    d.asText = t := by
  unfold writtenText Data.asText? at h
  split at h <;> cases h
  rfl

/-! ## 3. Enumerations of styled texts -/

variable {e : Enumeration} {ss ts : List Text}

theorem showsAll_dropLast (hall : ShowsAll ss ts) : ShowsAll ss.dropLast ts.dropLast := by
  rw [List.dropLast_eq_take, List.dropLast_eq_take, hall.length_eq]
  exact List.forall₂_take _ hall

theorem shows_getLast? (hall : ShowsAll ss ts) :
    Shows (ss.getLast?.getD []) (ts.getLast?.getD []) := by
  induction hall with
  | nil => exact shows_of_not_mem List.not_mem_nil
  | cons hs hall ih =>
    cases hall with
    | nil => exact hs
    | cons hs' hall => exact ih

/-- What stands before the last of three or more items. -/
def lastText (e : Enumeration) (separator : Text) : Except EnumerationFault Text :=
  if e.oxfordComma then oxfordSeparator separator e.lastSeparator
  else writtenText e.lastSeparator

theorem glue_cons (e : Enumeration) (a b c : Text) (rest : List Text) :
    e.glue (a :: b :: c :: rest) = do
      let separator ← separatorText e.separator
      let last ← e.lastText separator
      return Text.join separator (a :: b :: c :: rest).dropLast ++ last ++
        (a :: b :: c :: rest).getLast?.getD [] := by
  unfold glue
  refine bind_congr fun separator => ?_
  unfold lastText
  split <;> rfl

theorem not_mem_of_lastText {separator t : Text} (hs : escape ∉ separator)
    (hl : escape ∉ e.lastSeparator.asText) (h : e.lastText separator = .ok t) : escape ∉ t := by
  unfold lastText at h
  split at h
  · exact not_mem_of_oxfordSeparator hs hl h
  · exact asText_of_writtenText h ▸ hl

theorem glue_shows (he : ∀ d ∈ e.separators, escape ∉ d.asText) (hall : ShowsAll ss ts) :
    Agree Shows (e.glue ss) (e.glue ts) := by
  have hseparator : escape ∉ e.separator.asText := he _ (by simp [separators])
  have hlast : escape ∉ e.lastSeparator.asText := he _ (by simp [separators])
  have hpair : escape ∉ (e.pairSeparator.getD e.lastSeparator).asText := by
    cases hp : e.pairSeparator with
    | none => exact hlast
    | some d => exact he d (by simp [separators, hp])
  match hall with
  | .nil => exact .ok (shows_of_not_mem List.not_mem_nil)
  | .cons ha .nil => exact .ok ha
  | .cons ha (.cons hb .nil) =>
    refine (Agree.refl (R := fun s t => s = t ∧ escape ∉ s) fun t ht => ?_).bind ?_
    · exact ⟨rfl, asText_of_writtenText ht ▸ hpair⟩
    rintro pair _ ⟨rfl, hp⟩
    exact .ok ((ha.append (shows_of_not_mem hp)).append hb)
  | .cons ha (.cons hb (.cons hc hrest)) =>
    have hall := List.Forall₂.cons ha (.cons hb (.cons hc hrest))
    rw [glue_cons, glue_cons]
    refine (Agree.refl (R := fun s t => s = t ∧ escape ∉ s) fun t ht => ?_).bind ?_
    · exact ⟨rfl, asText_of_separatorText ht ▸ hseparator⟩
    rintro separator _ ⟨rfl, hs⟩
    refine (Agree.refl (R := fun s t => s = t ∧ escape ∉ s) fun t ht => ?_).bind ?_
    · exact ⟨rfl, not_mem_of_lastText hs hlast ht⟩
    rintro last _ ⟨rfl, hl⟩
    have hjoin := shows_join hs (showsAll_dropLast hall)
    exact .ok ((hjoin.append (shows_of_not_mem hl)).append (shows_getLast? hall))

theorem shown_shows (hsummaries : ∀ t ∈ e.summaries ss.length, escape ∉ t)
    (hall : ShowsAll ss ts) : Agree ShowsAll (e.shown ss) (e.shown ts) := by
  unfold shown
  unfold summaries at hsummaries
  rw [← hall.length_eq]
  cases hm : e.maxItems with
  | none => exact .ok hall
  | some m =>
    rw [hm] at hsummaries
    dsimp only
    split
    · exact .ok hall
    · next hmany =>
      simp only [not_or] at hmany
      dsimp only at hsummaries
      rw [if_neg hmany.1] at hsummaries
      cases hsummary : e.summary (ss.length - m) with
      | error f => exact .error f
      | ok t =>
        rw [hsummary] at hsummaries
        have ht : escape ∉ t := hsummaries t (List.mem_singleton_self t)
        exact .ok (List.rel_append (List.forall₂_take m hall)
          (.cons (shows_of_not_mem ht) .nil))

/-- **What is shown of an enumeration** is the enumeration of what is shown of its items. -/
theorem write_shows (hsort : e.sort = false) (he : ∀ d ∈ e.separators, escape ∉ d.asText)
    (hsummaries : ∀ t ∈ e.summaries ss.length, escape ∉ t) (hall : ShowsAll ss ts) :
    Agree Shows (e.write ss) (e.write ts) := by
  have hshown := shown_shows hsummaries hall
  unfold write
  simp only [hsort, Bool.false_eq_true, ↓reduceIte]
  exact hshown.bind fun items items' hitems => glue_shows he hitems

end Enumeration

end Phrasing
