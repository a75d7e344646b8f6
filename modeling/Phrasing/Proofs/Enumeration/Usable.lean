/-
# Rules that can be used

The rules of an enumeration are kept as they were given, and nothing is asked of them before they
are needed.  A separator is needed for three items, a summary for more items than are shown, so
that rules may serve short lists and fail for long ones.  `Usable` says what it takes to serve
them all (`usable_iff`).
-/
import Phrasing.Proofs.Enumeration.Shown
import Phrasing.Proofs.Outcome

namespace Phrasing.Enumeration

/-- The rules by which any number of items can be enumerated. -/
structure Usable (e : Enumeration) : Prop where
  /-- What stands between two items alone can be written. -/
  pair : (e.pairSeparator.getD e.lastSeparator).isWritable = true
  /-- What stands between three items, if as many can stand there, is a text. -/
  separator : e.maxItems ≠ some 1 → ∃ t, e.separator = .text t
  /-- So is what stands before the last of them, if the separator is to be fitted to it. -/
  lastSeparator : e.maxItems ≠ some 1 →
    if e.oxfordComma then ∃ t, e.lastSeparator = .text t else e.lastSeparator.isWritable = true
  /-- Items can be cut off, if there are ever too many. -/
  whole : e.maxItems ≠ none → e.most.isWhole = true
  /-- The summary of them is a pattern that any number can be filled in. -/
  moreFormat : e.maxItems ≠ none → ∃ pattern, e.moreFormat = .text pattern ∧
    ∀ n, 1 ≤ n → ∃ t, Pattern.fill e.parts n pattern = .ok t

variable {e : Enumeration}

/-! ## 1. What each rule is asked for -/

theorem exists_writtenText_iff {d : Data} :
    (∃ t, writtenText d = .ok t) ↔ d.isWritable = true := by
  simp only [writtenText, mapError_eq_ok, Data.exists_asText?_iff]

theorem exists_separatorText_iff {d : Data} :
    (∃ t, separatorText d = .ok t) ↔ ∃ t, d = .text t := by
  cases d <;> simp [separatorText, requireText]

theorem exists_oxfordSeparator_iff {separator : Text} {d : Data} :
    (∃ t, oxfordSeparator separator d = .ok t) ↔ ∃ t, d = .text t := by
  cases d <;> simp [oxfordSeparator]

theorem exists_lastText_iff (separator : Text) :
    (∃ t, e.lastText separator = .ok t) ↔
      if e.oxfordComma then ∃ t, e.lastSeparator = .text t
      else e.lastSeparator.isWritable = true := by
  unfold lastText
  split
  · exact exists_oxfordSeparator_iff
  · exact exists_writtenText_iff

theorem exists_summary_iff {n : Nat} :
    (∃ t, e.summary n = .ok t) ↔ e.most.isWhole = true ∧
      ∃ pattern, e.moreFormat = .text pattern ∧ ∃ t, Pattern.fill e.parts n pattern = .ok t := by
  unfold summary
  split
  · next hwhole =>
    cases e.moreFormat <;> simp [requireText, bind_eq_ok, mapError_eq_ok, hwhole]
  · next hwhole => simp [hwhole]

/-! ## 2. Items in a row -/

theorem exists_glue_pair_iff (a b : Text) :
    (∃ t, e.glue [a, b] = .ok t) ↔ (e.pairSeparator.getD e.lastSeparator).isWritable = true := by
  rw [← exists_writtenText_iff]
  simp [glue, bind_eq_ok, pure, Except.pure]

theorem exists_glue_cons_iff (a b c : Text) (rest : List Text) :
    (∃ t, e.glue (a :: b :: c :: rest) = .ok t) ↔
      (∃ t, e.separator = .text t) ∧
        if e.oxfordComma then ∃ t, e.lastSeparator = .text t
        else e.lastSeparator.isWritable = true := by
  simp only [glue_cons, bind_eq_ok]
  constructor
  · rintro ⟨t, separator, hseparator, last, hlast, -⟩
    exact ⟨exists_separatorText_iff.mp ⟨_, hseparator⟩,
      (exists_lastText_iff separator).mp ⟨_, hlast⟩⟩
  · rintro ⟨hseparator, hlast⟩
    obtain ⟨separator, hseparator⟩ := exists_separatorText_iff.mpr hseparator
    obtain ⟨last, hlast⟩ := (exists_lastText_iff separator).mpr hlast
    exact ⟨_, separator, hseparator, last, hlast, rfl⟩

/-! ## 3. The items that are shown -/

theorem shown_of_length_le_one {items : List Text} (h : items.length ≤ 1) :
    e.shown items = .ok items := by
  unfold shown
  split
  · rfl
  · rw [if_pos (.inr h)]

/-- Of two or more items, either all are shown or as many as can be, and a summary. -/
theorem shown_eq {items : List Text} (h : 2 ≤ items.length) :
    e.shown items =
      match e.maxItems with
      | none => .ok items
      | some m =>
        if items.length ≤ m then .ok items
        else (e.summary (items.length - m)).map fun t => items.take m ++ [t] := by
  unfold shown
  cases e.maxItems with
  | none => rfl
  | some m =>
    have hone : ¬ items.length ≤ 1 := by omega
    simp only [hone, or_false]
    split
    · rfl
    · cases e.summary (items.length - m) <;> rfl

/-- How many of two or more items are shown, the summary included. -/
def shownCount (e : Enumeration) (n : Nat) : Nat :=
  match e.maxItems with
  | none => n
  | some m => min n (m + 1)

theorem shownCount_two (e : Enumeration) : e.shownCount 2 = 2 := by
  unfold shownCount
  split
  · rfl
  · next m hm =>
    have hone := e.one_le_maxItems m hm
    omega

theorem shownCount_three (e : Enumeration) (h : e.maxItems ≠ some 1) : e.shownCount 3 = 3 := by
  unfold shownCount
  split
  · rfl
  · next m hm =>
    have hone := e.one_le_maxItems m hm
    have hm : m ≠ 1 := fun heq => h (heq ▸ hm)
    omega

theorem length_of_shown {items shown : List Text} (h : 2 ≤ items.length)
    (hshown : e.shown items = .ok shown) : shown.length = e.shownCount items.length := by
  rw [shown_eq h] at hshown
  unfold shownCount
  cases hm : e.maxItems with
  | none =>
    rw [hm] at hshown
    cases hshown
    rfl
  | some m =>
    simp only [hm] at hshown
    split at hshown
    · cases hshown
      dsimp only
      omega
    · cases hsummary : e.summary (items.length - m) with
      | error f =>
        rw [hsummary] at hshown
        cases hshown
      | ok t =>
        rw [hsummary] at hshown
        cases hshown
        simp
        omega

theorem exists_shown_iff {items : List Text} (h : 2 ≤ items.length) :
    (∃ shown, e.shown items = .ok shown) ↔
      ∀ m, e.maxItems = some m → m < items.length → ∃ t, e.summary (items.length - m) = .ok t := by
  rw [shown_eq h]
  cases e.maxItems with
  | none => simp
  | some m =>
    simp only [Option.some.injEq, forall_eq']
    by_cases hle : items.length ≤ m
    · simp [hle, Nat.not_lt.mpr hle]
    · rw [if_neg hle]
      cases e.summary (items.length - m) <;> simp [Except.map, Nat.not_le.mp hle]

/-! ## 4. What it takes -/

theorem Usable.exists_glue (h : e.Usable) {items : List Text}
    (hlength : e.maxItems = some 1 → items.length ≤ 2) : ∃ t, e.glue items = .ok t := by
  match items with
  | [] => exact ⟨_, rfl⟩
  | [a] => exact ⟨_, rfl⟩
  | [a, b] => exact (exists_glue_pair_iff a b).mpr h.pair
  | a :: b :: c :: rest =>
    have hmany : e.maxItems ≠ some 1 := fun hone => by simpa using hlength hone
    exact (exists_glue_cons_iff a b c rest).mpr ⟨h.separator hmany, h.lastSeparator hmany⟩

theorem Usable.exists_write (h : e.Usable) (items : List Text) : ∃ t, e.write items = .ok t := by
  unfold write
  generalize (if e.sort then Text.sort items else items) = items'
  suffices hshown : ∃ shown, e.shown items' = .ok shown ∧
      (e.maxItems = some 1 → shown.length ≤ 2) by
    obtain ⟨shown, hshown, hlength⟩ := hshown
    obtain ⟨t, ht⟩ := h.exists_glue hlength
    exact ⟨t, bind_eq_ok.mpr ⟨shown, hshown, ht⟩⟩
  by_cases hlength : 2 ≤ items'.length
  · have hsummary (m : Nat) (hm : e.maxItems = some m) (hlt : m < items'.length) :
        ∃ t, e.summary (items'.length - m) = .ok t := by
      have hlimited : e.maxItems ≠ none := by simp [hm]
      obtain ⟨pattern, hpattern, hfill⟩ := h.moreFormat hlimited
      exact exists_summary_iff.mpr ⟨h.whole hlimited, pattern, hpattern, hfill _ (by omega)⟩
    obtain ⟨shown, hshown⟩ := (exists_shown_iff hlength).mpr hsummary
    refine ⟨shown, hshown, fun hone => ?_⟩
    rw [length_of_shown hlength hshown, shownCount, hone]
    exact Nat.min_le_right _ _
  · exact ⟨items', shown_of_length_le_one (by omega), fun _ => by omega⟩

/-- What has to go well for two or more items to be written. -/
theorem exists_of_write {items : List Text} (h : ∃ t, e.write items = .ok t)
    (hlength : 2 ≤ items.length) :
    (∀ m, e.maxItems = some m → m < items.length →
      ∃ t, e.summary (items.length - m) = .ok t) ∧
      ∃ shown, shown.length = e.shownCount items.length ∧ ∃ t, e.glue shown = .ok t := by
  obtain ⟨t, ht⟩ := h
  obtain ⟨shown, hshown, hglue⟩ := bind_eq_ok.mp ht
  generalize hitems : (if e.sort then Text.sort items else items) = items' at hshown
  have hsorted : items'.length = items.length := by
    rw [← hitems]
    split
    · exact (Text.sort_perm items).length_eq
    · rfl
  rw [← hsorted] at hlength ⊢
  exact ⟨(exists_shown_iff hlength).mp ⟨shown, hshown⟩, shown, length_of_shown hlength hshown, t,
    hglue⟩

/-- **Rules serve any number of items** if and only if they can be used. -/
theorem usable_iff : e.Usable ↔ ∀ items, ∃ t, e.write items = .ok t := by
  refine ⟨Usable.exists_write, fun h => ?_⟩
  have hmany (n : Nat) (hn : 2 ≤ n) := exists_of_write (h (List.replicate n [])) (by simpa)
  simp only [List.length_replicate] at hmany
  have hthree (hm : e.maxItems ≠ some 1) :
      (∃ t, e.separator = .text t) ∧ if e.oxfordComma then ∃ t, e.lastSeparator = .text t
        else e.lastSeparator.isWritable = true := by
    obtain ⟨-, shown, hshown, hglue⟩ := hmany 3 (by omega)
    rw [e.shownCount_three hm] at hshown
    obtain ⟨a, b, c, rfl⟩ := List.length_eq_three.mp hshown
    exact (exists_glue_cons_iff a b c []).mp hglue
  have hcut (hm : e.maxItems ≠ none) (n : Nat) (hn : 1 ≤ n) : ∃ t, e.summary n = .ok t := by
    obtain ⟨m, hm⟩ := Option.ne_none_iff_exists'.mp hm
    have hone := e.one_le_maxItems m hm
    obtain ⟨hsummary, -⟩ := hmany (m + n) (by omega)
    simpa using hsummary m hm (by omega)
  refine ⟨?_, fun hm => (hthree hm).1, fun hm => (hthree hm).2, fun hm => ?_, fun hm => ?_⟩
  · obtain ⟨-, shown, hshown, hglue⟩ := hmany 2 (by omega)
    rw [shownCount_two] at hshown
    obtain ⟨a, b, rfl⟩ := List.length_eq_two.mp hshown
    exact (exists_glue_pair_iff a b).mp hglue
  · exact (exists_summary_iff.mp (hcut hm 1 (by omega))).1
  · obtain ⟨-, pattern, hpattern, -⟩ := exists_summary_iff.mp (hcut hm 1 (by omega))
    refine ⟨pattern, hpattern, fun n hn => ?_⟩
    obtain ⟨-, pattern', hpattern', ht⟩ := exists_summary_iff.mp (hcut hm n hn)
    cases hpattern.symm.trans hpattern'
    exact ht

/-! ## 5. The rules used when none are given -/

/-- The summary counts what is left out, whatever parts numbers have. -/
theorem fill_moreFormat (parts : Pattern.Parts) (n : Nat) :
    Pattern.fill parts n "\x7bn\x7d more".toList = .ok (Number.digits n ++ " more".toList) := by
  have hopening : Pattern.readLiteral "\x7bn\x7d more".toList =
      .ok ([], some "n\x7d more".toList) := rfl
  have hliteral : Pattern.readLiteral " more".toList = .ok (" more".toList, none) := rfl
  have hrest : Pattern.fillFrom parts n 2 8 " more".toList = .ok " more".toList := by
    rw [Pattern.fillFrom, hliteral]
    rfl
  rw [Pattern.fill, Pattern.fillFrom, hopening]
  change (do
    let more ← Pattern.fillFrom parts n 2 8 " more".toList
    return [] ++ Number.digits n ++ more) = _
  rw [hrest]
  rfl

theorem usable_standard (parts : Pattern.Parts) : (standard.within parts).Usable where
  pair := rfl
  separator _ := ⟨_, rfl⟩
  lastSeparator _ := rfl
  whole hlimited := absurd rfl hlimited
  moreFormat _ := ⟨_, rfl, fun n _ => ⟨_, fill_moreFormat parts n⟩⟩

end Phrasing.Enumeration
