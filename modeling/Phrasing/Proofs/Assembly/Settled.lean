/-
# Settled texts

A message never ends in two line feeds, and if it has several lines, something can be seen on
the last of them.  A text of this form is settled (`Settled`): it is a single line, or lines the
last of which has ink, and one line feed may stand behind it.

Assembling a text alone does no more to it than to cut off an indent at its end and to drop blank
lines there (`compose_singleton`).  A settled text has neither, so a message that is assembled once
more stays as it is (`compose_settled`).
-/
import Phrasing.Proofs.Assembly.Layout

namespace Phrasing

namespace Text

/-! ## 1. Last lines -/

/-- The line that a text ends in.  The empty line behind a line feed at the end does not count. -/
def lastLine (t : Text) : Text :=
  (lines (if endsLine t then t.dropLast else t)).getLast (lines_ne_nil _)

theorem lines_of_not_mem {t : Text} (h : '\n' ∉ t) : lines t = [t] := by
  have hline : ∀ l ∈ [t], '\n' ∉ l := List.forall_mem_singleton.mpr h
  exact lines_join (List.cons_ne_nil t []) hline

theorem endsLine_of_not_mem {t : Text} (h : '\n' ∉ t) : endsLine t = false :=
  endsLine_of_lines_eq_singleton (lines_of_not_mem h)

/-- A text ends in its last line, if that line is not empty. -/
theorem endsLine_append_cons (before : Text) {l : Text} (hne : l ≠ []) (h : '\n' ∉ l) :
    endsLine (before ++ '\n' :: l) = false := by
  have hsplit : before ++ '\n' :: l = before ++ ['\n'] ++ l := by simp
  rw [hsplit, endsLine_append, if_neg (by simpa using hne)]
  exact endsLine_of_not_mem h

/-- A line feed behind the last line does not count. -/
theorem lastLine_append (before : Text) {l feed : Text} (hne : l ≠ []) (h : '\n' ∉ l)
    (hfeed : feed = [] ∨ feed = ['\n']) : lastLine (before ++ '\n' :: l ++ feed) = l := by
  have hends := endsLine_append_cons before hne h
  have hlines : lines (before ++ '\n' :: l) = lines before ++ [l] := by
    rw [lines_append_cons, lines_of_not_mem h]
  unfold lastLine
  rcases hfeed with rfl | rfl
  · simp only [List.append_nil, hends, Bool.false_eq_true, ↓reduceIte, hlines,
      List.getLast_append_singleton]
  · have hfed : endsLine (before ++ '\n' :: l ++ ['\n']) = true := endsLine_append _ ['\n']
    simp only [hfed, ↓reduceIte, List.dropLast_concat, hlines, List.getLast_append_singleton]

end Text

namespace Assembly

open Text

/-! ## 2. The form of settled texts -/

/-- The texts that are assembled to themselves. -/
inductive Settled : Text → Prop where
  /-- A single line, whatever is on it. -/
  | single {l feed : Text} (h : '\n' ∉ l) (hfeed : feed = [] ∨ feed = ['\n']) : Settled (l ++ feed)
  /-- Lines the last of which has ink. -/
  | several {before l feed : Text} (h : '\n' ∉ l) (hink : isAllBlank l = false)
      (hfeed : feed = [] ∨ feed = ['\n']) : Settled (before ++ '\n' :: l ++ feed)

theorem ne_nil_of_ink {l : Text} (hink : isAllBlank l = false) : l ≠ [] := by
  rintro rfl
  cases hink

/-- A settled text does not end in two line feeds. -/
theorem Settled.not_suffix {t : Text} (h : Settled t) : ¬ ['\n', '\n'] <:+ t := by
  suffices hfeed : ∃ s feed, t = s ++ feed ∧ endsLine s = false ∧ (feed = [] ∨ feed = ['\n']) by
    obtain ⟨s, feed, rfl, hends, hfeed⟩ := hfeed
    rintro ⟨u, hu⟩
    rcases hfeed with rfl | rfl
    · have htwo : endsLine (u ++ ['\n', '\n']) = true := endsLine_append u ['\n', '\n']
      rw [hu, List.append_nil, hends] at htwo
      cases htwo
    · have hone : u ++ ['\n'] = s := List.append_cancel_right (by simpa using hu)
      have htwo : endsLine (u ++ ['\n']) = true := endsLine_append u ['\n']
      rw [hone, hends] at htwo
      cases htwo
  cases h with
  | single h hfeed => exact ⟨_, _, rfl, endsLine_of_not_mem h, hfeed⟩
  | several h hink hfeed =>
    exact ⟨_, _, rfl, endsLine_append_cons _ (ne_nil_of_ink hink) h, hfeed⟩

/-- The last of several lines has ink. -/
theorem Settled.ink_lastLine {t : Text} (h : Settled t) (hmem : '\n' ∈ t.dropLast) :
    isAllBlank (lastLine t) = false := by
  cases h with
  | @single l feed h hfeed =>
    rcases hfeed with rfl | rfl
    · rw [List.append_nil] at hmem
      exact absurd (List.dropLast_subset l hmem) h
    · rw [List.dropLast_concat] at hmem
      exact absurd hmem h
  | several h hink hfeed => rwa [lastLine_append _ (ne_nil_of_ink hink) h hfeed]

/-- What is left of lines when blank ones at the end are dropped is settled. -/
theorem settled_settle {ls : List Text} (h : ∀ l ∈ ls, '\n' ∉ l) : Settled (settle ls) := by
  cases ls with
  | nil => exact .single (l := []) List.not_mem_nil (.inl rfl)
  | cons first rest =>
    have hfeed : (if rest.rdropWhile isAllBlank = rest then [] else ['\n']) = [] ∨
        (if rest.rdropWhile isAllBlank = rest then [] else ['\n']) = ['\n'] := by
      split
      · exact .inl rfl
      · exact .inr rfl
    have hkept : ∀ l ∈ rest.rdropWhile isAllBlank, '\n' ∉ l := fun l hl =>
      h l (List.mem_cons_of_mem first ((List.rdropWhile_prefix isAllBlank rest).subset hl))
    have hlast := List.rdropWhile_last_not isAllBlank rest
    rw [settle]
    generalize rest.rdropWhile isAllBlank = kept at hfeed hkept hlast
    rcases kept.eq_nil_or_concat with rfl | ⟨init, last, rfl⟩
    · exact .single (h first List.mem_cons_self) hfeed
    · rw [List.concat_eq_append] at hfeed hkept hlast ⊢
      have hink : isAllBlank last = false := by simpa using hlast (by simp)
      rw [← List.cons_append, join_concat _ (List.cons_ne_nil first init)]
      exact .several (hkept last (by simp)) hink hfeed

/-! ## 3. Cutting and settling -/

/-- Nothing is cut off a settled text, because its last line has ink. -/
theorem Settled.split {t : Text} (h : Settled t) : splitTrailingIndent t = (t, none) := by
  cases hsplit : splitTrailingIndent t with
  | mk before run? =>
    cases run? with
    | none => rw [eq_of_split hsplit]
    | some run =>
      obtain ⟨hrun, feed, hfeed, rfl⟩ := eq_append_of_split hsplit
      have hfree : '\n' ∉ run := not_mem_of_all_isIndentChar hrun.all
      have hmem : '\n' ∈ (before ++ '\n' :: run ++ feed).dropLast := by
        rw [List.append_assoc, List.dropLast_append_of_ne_nil (by simp), List.cons_append,
          List.dropLast_cons_of_ne_nil (by simp [hrun.ne_nil])]
        simp
      have hink := h.ink_lastLine hmem
      rw [lastLine_append before hrun.ne_nil hfree hfeed] at hink
      rw [isAllBlank_of_all_isIndentChar hrun.all] at hink
      cases hink

/-- A settled text has no blank lines to drop. -/
theorem Settled.settle_lines {t : Text} (h : Settled t) : settle (lines t) = t := by
  cases h with
  | @single l feed h hfeed =>
    rcases hfeed with rfl | rfl
    · rw [List.append_nil, lines_of_not_mem h]
      exact List.append_nil l
    · rw [lines_append_cons, lines_of_not_mem h]
      rfl
  | @several before l feed h hink hfeed =>
    obtain ⟨first, rest, hbefore⟩ := exists_lines_eq_cons before
    have hlines : lines (before ++ '\n' :: l) = first :: (rest ++ [l]) := by
      rw [lines_append_cons, lines_of_not_mem h, hbefore, List.cons_append]
    have hkept : (rest ++ [l]).rdropWhile isAllBlank = rest ++ [l] :=
      List.rdropWhile_concat_neg _ _ _ (by simp [hink])
    rcases hfeed with rfl | rfl
    · rw [List.append_nil, hlines, settle, hkept, if_pos rfl, List.append_nil, ← hlines, join_lines]
    · have hfed : (rest ++ [l] ++ [[]]).rdropWhile isAllBlank = rest ++ [l] := by
        rw [List.rdropWhile_concat_pos _ _ _ rfl, hkept]
      rw [lines_append_cons, hlines, lines_nil, List.cons_append, settle, hfed,
        if_neg (by simp), ← hlines, join_lines]

/-! ## 4. Messages -/

namespace Sheet

/-- A sheet under blank indents is finished by settling the texts of its lines. -/
theorem finish_eq_settle {s : Sheet} (h : s.Blank) :
    s.finish = settle (s.lines.reverse.map Line.text) := by
  cases hs : s.lines.reverse with
  | nil =>
    rw [finish, List.reverse_eq_nil_iff.mp hs]
    rfl
  | cons first rest =>
    have hrest : ∀ l ∈ rest, isAllBlank l.text = l.isBlank := fun l hl =>
      Line.isAllBlank_text (h.lines l (List.mem_reverse.mp (hs ▸ List.mem_cons_of_mem first hl)))
    rw [finish_eq hs, settle_map hrest]

/-- No line of a sheet has a line feed. -/
theorem not_mem_text_of_mem {s : Sheet} {r : Ruled} {free : Bool} (h : s.Shows r free)
    (hblank : s.Blank) {t : Text} (ht : t ∈ s.lines.reverse.map Line.text) : '\n' ∉ t := by
  obtain ⟨l, hl, rfl⟩ := List.mem_map.mp ht
  have hcontent : '\n' ∉ l.content :=
    not_mem_of_mem_lines (h.contents ▸ List.mem_map_of_mem hl)
  exact (not_mem_text (hblank.lines l (List.mem_reverse.mp hl)) hcontent).1

end Sheet

/-- Every message is settled. -/
theorem settled_compose (indent : Indent) (fragments : List (Text × Placement)) :
    Settled (compose indent fragments) := by
  rcases eq_or_ne fragments [] with rfl | hne
  · exact .single (l := []) List.not_mem_nil (.inl rfl)
  · have hblank := Sheet.blank_foldl_place indent fragments
    obtain ⟨free, hshows⟩ := exists_shows indent.text hne
    rw [compose, Sheet.finish_eq_settle hblank]
    exact settled_settle fun t ht => Sheet.not_mem_text_of_mem hshows hblank ht

/-- **A text alone**, without an indent, is cut and settled. -/
theorem compose_singleton (f : Text × Placement) :
    compose Indent.none [f] = settle (lines (cut f).1) := by
  have hblank := Sheet.blank_foldl_place Indent.none [f]
  obtain ⟨free, hcontents, hindents, -⟩ := exists_shows Indent.none.text (List.cons_ne_nil f [])
  have hgroups : groups (pieces Indent.none.text [] [f]) = [[⟨(cut f).1, f.2, []⟩]] := rfl
  have hruled : ruledMessage Indent.none.text [f] =
      ⟨(cut f).1, [] :: List.replicate ((cut f).1.count '\n') []⟩ := by
    rw [ruledMessage, hgroups, List.map_singleton, Ruled.stack, ruledGroup, List.flatMap_singleton,
      List.flatMap_singleton]
    rfl
  rw [hruled] at hcontents hindents
  dsimp only at hcontents hindents
  rw [compose, Sheet.finish_eq_settle hblank, ← hcontents]
  refine congrArg settle (List.map_congr_left fun l hl => ?_)
  have hindent : l.indent ∈ [] :: List.replicate ((cut f).1.count '\n') ([] : Text) := by
    rw [← hindents]
    exact List.mem_map_of_mem hl
  have hnone : l.indent = [] := by
    rcases List.mem_cons.mp hindent with h | h
    · exact h
    · exact List.eq_of_mem_replicate h
  unfold Line.text
  split
  · next hempty => exact (List.isEmpty_iff.mp hempty).symm
  · rw [hnone, List.nil_append]

/-- A settled text alone stays as it is. -/
theorem Settled.compose_alone {t : Text} (h : Settled t) (placement : Placement) :
    compose Indent.none [(t, placement)] = t := by
  have hcut : (cut (t, placement)).1 = t := by
    cases placement with
    | inline => rfl
    | block => rw [cut, h.split]
  rw [compose_singleton, hcut, h.settle_lines]

/-- **A message is in normal form.**  It does not end in two line feeds, the last of several lines
has ink, and assembling it alone, without an indent, changes nothing. -/
theorem compose_settled (indent : Indent) (fragments : List (Text × Placement)) :
    ¬ ['\n', '\n'] <:+ compose indent fragments ∧
      ('\n' ∈ (compose indent fragments).dropLast →
        isAllBlank (lastLine (compose indent fragments)) = false) ∧
      ∀ placement, compose Indent.none [(compose indent fragments, placement)] =
        compose indent fragments := by
  have h := settled_compose indent fragments
  exact ⟨h.not_suffix, h.ink_lastLine, h.compose_alone⟩

end Assembly

end Phrasing
