/-
# Splitting indents off

A text is to be split at the line feed in front of a run of spaces and tabs that reaches its end.  If
it does not end like this, it is to stay whole.  `SplitsInto` says so, and every text can be split in
one way only.

`splitTrailingIndent` splits off such a run (`split_append`) and nothing else (`eq_append_of_split`),
but it does so as well where a single line feed stands behind the run (`IsFed`).  A text of this kind
is to stay whole.  Its line feed is in neither part, so it is lost (`splitsInto_unless_fed`).
-/
import Mathlib.Logic.ExistsUnique
import Phrasing.Assembly.Basic

namespace Phrasing

theorem not_mem_of_all_isIndentChar {t : Text} (h : t.all isIndentChar = true) : '\n' ∉ t :=
  fun hmem => absurd (List.all_eq_true.mp h '\n' hmem) (by decide)

namespace Assembly

/-! ## 1. What is split off -/

/-- A run of spaces and tabs, one at least. -/
structure IsRun (t : Text) : Prop where
  ne_nil : t ≠ []
  all : t.all isIndentChar = true

variable {t before run feed : Text}

/-- Spaces and tabs in front stop at the line feed, and more than that is left. -/
theorem two_le_length_dropWhile (hrun : IsRun run) (before feed : Text) :
    2 ≤ ((before ++ '\n' :: run ++ feed).dropWhile isIndentChar).length := by
  have hlength : 0 < run.length := List.length_pos_iff.mpr hrun.ne_nil
  have hstop : ('\n' :: (run ++ feed)).dropWhile isIndentChar = '\n' :: (run ++ feed) := rfl
  rw [List.append_assoc, List.cons_append, List.dropWhile_append, hstop]
  split
  · simp only [List.length_cons, List.length_append]
    omega
  · simp only [List.length_cons, List.length_append]
    omega

/-- A run at the end is split off, whether a line feed stands behind it or not. -/
theorem split_append (hrun : IsRun run) (hfeed : feed = [] ∨ feed = ['\n']) (before : Text) :
    splitTrailingIndent (before ++ '\n' :: run ++ feed) = (before, some run) := by
  induction before with
  | nil =>
    have hall : ∀ c ∈ run, isIndentChar c = true := List.all_eq_true.mp hrun.all
    have htake : (run ++ feed).takeWhile isIndentChar = run := by
      have hnone : feed.takeWhile isIndentChar = [] := by rcases hfeed with rfl | rfl <;> rfl
      rw [List.takeWhile_append_of_pos hall, hnone, List.append_nil]
    have hdrop : (run ++ feed).dropWhile isIndentChar = feed := by
      rw [List.dropWhile_append_of_pos hall]
      rcases hfeed with rfl | rfl <;> rfl
    rw [List.nil_append, List.cons_append, splitTrailingIndent, htake, hdrop,
      if_pos ⟨rfl, hrun.ne_nil, hfeed⟩]
  | cons c before ih =>
    -- The run is still to come: behind any spaces and tabs after `c` more than a line feed is left.
    have hlater := two_le_length_dropWhile hrun before feed
    rw [List.cons_append, List.cons_append, splitTrailingIndent, if_neg, ih]
    rintro ⟨-, -, hnil | hsingle⟩
    · rw [hnil] at hlater
      exact absurd hlater (by decide)
    · rw [hsingle] at hlater
      exact absurd hlater (by decide)

/-- Nothing but such a run is split off. -/
theorem eq_append_of_split (h : splitTrailingIndent t = (before, some run)) :
    IsRun run ∧ ∃ feed, (feed = [] ∨ feed = ['\n']) ∧ t = before ++ '\n' :: run ++ feed := by
  induction t generalizing before with
  | nil => cases h
  | cons c rest ih =>
    rw [splitTrailingIndent] at h
    split at h
    · next hcut =>
      obtain ⟨rfl, hne, hfeed⟩ := hcut
      cases h
      refine ⟨⟨hne, List.all_takeWhile⟩, _, hfeed, ?_⟩
      rw [List.nil_append, List.cons_append, List.takeWhile_append_dropWhile]
    · cases hrest : splitTrailingIndent rest with
      | mk before' run' =>
        rw [hrest] at h
        cases h
        obtain ⟨hrun, feed, hfeed, heq⟩ := ih hrest
        exact ⟨hrun, feed, hfeed, congrArg (c :: ·) heq⟩

theorem isRun_of_split (h : (splitTrailingIndent t).2 = some run) : IsRun run :=
  (eq_append_of_split (Prod.ext rfl h)).1

/-- A text that nothing is split off stays whole. -/
theorem eq_of_split (h : splitTrailingIndent t = (before, none)) : t = before := by
  induction t generalizing before with
  | nil =>
    cases h
    rfl
  | cons c rest ih =>
    rw [splitTrailingIndent] at h
    split at h
    · cases h
    · cases hrest : splitTrailingIndent rest with
      | mk before' run' =>
        rw [hrest] at h
        cases h
        exact congrArg (c :: ·) (ih hrest)

/-! ## 2. What is to be split off -/

/-- What a text is to be split into: what stands in front of a line feed, and the run from there to
the end; or all of the text, if it does not end like this. -/
inductive SplitsInto : Text → Text × Option Text → Prop where
  | run {before run : Text} (h : IsRun run) : SplitsInto (before ++ '\n' :: run) (before, some run)
  | whole {t : Text} (h : ∀ before run, IsRun run → t ≠ before ++ '\n' :: run) :
    SplitsInto t (t, none)

/-- Whether the last line of a text is a run of spaces and tabs, with another line in front of it and
a line feed behind it. -/
def IsFed (t : Text) : Prop := ∃ before run, IsRun run ∧ t = before ++ '\n' :: run ++ ['\n']

theorem split_append_run (hrun : IsRun run) (before : Text) :
    splitTrailingIndent (before ++ '\n' :: run) = (before, some run) := by
  have h := split_append hrun (.inl rfl) before
  rwa [List.append_nil] at h

/-- A text with a line feed at its end is to stay whole. -/
theorem splitsInto_concat (kept : Text) : SplitsInto (kept ++ ['\n']) (kept ++ ['\n'], none) := by
  refine .whole fun before run hrun heq => ?_
  obtain ⟨init, last, rfl⟩ := run.eq_nil_or_concat.resolve_left hrun.ne_nil
  have hlast : '\n' = last := by
    have hsplit : before ++ '\n' :: (init ++ [last]) = before ++ '\n' :: init ++ [last] := by simp
    rw [List.concat_eq_append, hsplit] at heq
    exact List.singleton_inj.mp (List.append_inj_right' heq rfl)
  refine not_mem_of_all_isIndentChar hrun.all ?_
  rw [List.concat_eq_append, hlast]
  exact List.mem_append_right init (List.mem_singleton_self last)

/-- A text is split into one pair of parts at most. -/
theorem SplitsInto.unique {parts parts' : Text × Option Text} (h : SplitsInto t parts)
    (h' : SplitsInto t parts') : parts = parts' := by
  cases h with
  | @run before run hrun =>
    generalize ht : before ++ '\n' :: run = t at h'
    cases h' with
    | @run before' run' hrun' =>
      rw [← split_append_run hrun, ht, split_append_run hrun']
    | whole hwhole => exact absurd ht.symm (hwhole before run hrun)
  | whole hwhole =>
    cases h' with
    | @run before' run' hrun' => exact absurd rfl (hwhole before' run' hrun')
    | whole => rfl

/-- The text can be told from its parts. -/
theorem SplitsInto.text_unique {s t : Text} {parts : Text × Option Text} (h : SplitsInto s parts)
    (h' : SplitsInto t parts) : s = t := by
  cases h with
  | run =>
    cases h'
    rfl
  | whole =>
    cases h'
    rfl

/-- A fed text is split into the parts of what stands in front of the line feed at its end. -/
theorem splitsInto_dropped_feed (hrun : IsRun run) (before : Text) :
    SplitsInto (before ++ '\n' :: run)
      (splitTrailingIndent (before ++ '\n' :: run ++ ['\n'])) := by
  rw [split_append hrun (.inr rfl)]
  exact .run hrun

/-- A text that is not fed is split as it is to be. -/
theorem splitsInto_of_not_fed (h : ¬ IsFed t) : SplitsInto t (splitTrailingIndent t) := by
  cases hsplit : splitTrailingIndent t with
  | mk before run? =>
    cases run? with
    | none =>
      obtain rfl := eq_of_split hsplit
      refine .whole fun before run hrun heq => ?_
      have hrest := split_append_run hrun before
      rw [← heq, hsplit] at hrest
      cases hrest
    | some run =>
      obtain ⟨hrun, feed, hfeed, rfl⟩ := eq_append_of_split hsplit
      rcases hfeed with rfl | rfl
      · rw [List.append_nil]
        exact .run hrun
      · exact absurd ⟨before, run, hrun, rfl⟩ h

/-! ## 3. Where they differ -/

/-- **Splitting loses nothing but a line feed behind the run.**  There is exactly one way to split a
text.  It is the one that is taken, unless the text is fed.  A fed text is to stay whole, and it is
split as if it were not fed. -/
theorem splitsInto_unless_fed (t : Text) :
    (∃! parts, SplitsInto t parts) ∧
      (SplitsInto t (splitTrailingIndent t) ↔ ¬ IsFed t) ∧
      (IsFed t → SplitsInto t (t, none) ∧
        ∃ kept, t = kept ++ ['\n'] ∧ SplitsInto kept (splitTrailingIndent t)) := by
  have hfed (h : IsFed t) : SplitsInto t (t, none) ∧
      ∃ kept, t = kept ++ ['\n'] ∧ SplitsInto kept (splitTrailingIndent t) := by
    obtain ⟨before, run, hrun, rfl⟩ := h
    exact ⟨splitsInto_concat _, _, rfl, splitsInto_dropped_feed hrun before⟩
  have hexists : ∃ parts, SplitsInto t parts := by
    by_cases h : IsFed t
    · exact ⟨_, (hfed h).1⟩
    · exact ⟨_, splitsInto_of_not_fed h⟩
  obtain ⟨parts, hparts⟩ := hexists
  refine ⟨⟨parts, hparts, fun parts' h => h.unique hparts⟩, ⟨?_, splitsInto_of_not_fed⟩, hfed⟩
  intro hsplit h
  obtain ⟨-, kept, heq, hkept⟩ := hfed h
  have hsame : kept = t := hkept.text_unique hsplit
  rw [hsame] at heq
  exact List.cons_ne_nil _ _ (List.self_eq_append_right.mp heq)

/-- The line feed behind the space is in neither part. -/
theorem split_line_of_space :
    SplitsInto "a\n \n".toList ("a\n \n".toList, none) ∧
      splitTrailingIndent "a\n \n".toList = ("a".toList, some " ".toList) ∧
      ¬ SplitsInto "a\n \n".toList ("a".toList, some " ".toList) :=
  ⟨splitsInto_concat "a\n ".toList, rfl, fun h => by
    have hwhole := h.unique (splitsInto_concat "a\n ".toList)
    cases hwhole⟩

-- In a message the line of one space is missing, and the line below is indented instead.
example : compose Indent.none [("a\n \n".toList, .block), ("b".toList, .block)] =
    "a\n b".toList := by decide

end Assembly

end Phrasing
