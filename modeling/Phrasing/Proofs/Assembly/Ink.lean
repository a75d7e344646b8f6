/-
# The ink of a message

Assembling a message cuts fragments, moves their lines under indents and drops lines at the end.
All of this is white space: what is left of a text without its white space is its ink, and a
message has the ink of its fragments, in their order (`compose_ink`).

The ink of a sheet is that of the contents of its lines.  Placing a fragment adds the ink of the
fragment at the end and changes nothing before it (`ink_place`); finishing the sheet loses no ink,
because the lines that are dropped have none, and gains none, because indents have none.
-/
import Phrasing.Proofs.Assembly.Sheet

namespace Phrasing

namespace Text

/-! ## 1. Texts -/

/-- A text without its white space. -/
def ink (t : Text) : Text := t.filter fun c => !isBlank c

@[simp] theorem ink_append (s t : Text) : ink (s ++ t) = ink s ++ ink t := List.filter_append s t

theorem ink_eq_nil_iff {t : Text} : ink t = [] ↔ isAllBlank t = true := by
  simp [ink, isAllBlank, List.filter_eq_nil_iff]

/-- The line feeds between pieces leave no ink. -/
theorem ink_join_lineFeed (ls : List Text) : ink (join ['\n'] ls) = ls.flatMap ink := by
  fun_induction join ['\n'] ls with
  | case1 => rfl
  | case2 piece => rw [List.flatMap_singleton]
  | case3 piece pieces hne ih =>
    have hfeed : ink ['\n'] = [] := rfl
    rw [ink_append, ink_append, ih, hfeed, List.append_nil, List.flatMap_cons]

/-- The ink of a text is that of its lines. -/
theorem flatMap_ink_lines (t : Text) : (lines t).flatMap ink = ink t := by
  rw [← ink_join_lineFeed, join_lines]

end Text

namespace Assembly

open Text

theorem ink_eq_nil_of_isIndentChar {t : Text} (h : t.all isIndentChar = true) : ink t = [] :=
  ink_eq_nil_iff.mpr (isAllBlank_of_all_isIndentChar h)

/-- What is cut off the end of a fragment has no ink, the line feed behind it included. -/
theorem ink_splitTrailingIndent (t : Text) : ink (splitTrailingIndent t).1 = ink t := by
  cases hsplit : splitTrailingIndent t with
  | mk before run? =>
    cases run? with
    | none => rw [eq_of_split hsplit]
    | some run =>
      obtain ⟨hrun, feed, hfeed, rfl⟩ := eq_append_of_split hsplit
      have hcut : ink ('\n' :: run) = [] := ink_eq_nil_iff.mpr
        (List.all_cons.trans (isAllBlank_of_all_isIndentChar hrun.all))
      have hend : ink feed = [] := by rcases hfeed with rfl | rfl <;> rfl
      rw [ink_append, ink_append, hcut, hend, List.append_nil, List.append_nil]

/-! ## 2. Sheets -/

namespace Sheet

/-- The ink on the lines of a sheet, from the first line on. -/
def ink (s : Sheet) : Text := s.lines.reverse.flatMap fun l => l.content.ink

/-- A line that is begun has no ink yet. -/
theorem ink_start (s : Sheet) : s.start.ink = s.ink := by
  unfold start
  split
  · next h => simp [ink, h, Text.ink]
  · rfl

/-- Neither has a line that a block fragment is put on. -/
theorem ink_startBlock (s : Sheet) : s.startBlock.ink = s.ink := by
  unfold startBlock
  split
  · next h => simp [ink, h, Text.ink]
  · next l ls h =>
    split
    · next hfree =>
      have hempty : l.content = [] :=
        List.isEmpty_iff.mp ((Bool.and_eq_true _ _).mp hfree).2
      simp [ink, h, hempty]
    · simp [ink, h, Text.ink]

/-- **Writing a text** adds its ink at the end. -/
theorem ink_write {s : Sheet} (h : s.lines ≠ []) (t : Text) :
    (s.write t).ink = s.ink ++ t.ink := by
  obtain ⟨l, ls, hs⟩ := List.exists_cons_of_ne_nil h
  obtain ⟨piece, pieces, ht⟩ := Text.exists_lines_eq_cons t
  have hink : t.ink = piece.ink ++ pieces.flatMap Text.ink := by
    rw [← flatMap_ink_lines, ht, List.flatMap_cons]
  rw [write_eq hs ht, hink]
  simp only [ink, hs, List.reverse_append, List.reverse_reverse, List.reverse_cons,
    List.flatMap_append, List.flatMap_singleton, List.flatMap_map, List.append_assoc,
    Line.extend, Line.begin, Text.ink_append]

/-- **Placing a fragment** adds its ink at the end. -/
theorem ink_place (base : Text) (s : Sheet) (fragment : Text × Placement) :
    (s.place base fragment).ink = s.ink ++ fragment.1.ink := by
  obtain ⟨t, placement⟩ := fragment
  cases placement with
  | inline =>
    have hwrite := ink_write (start_lines_ne_nil s) t
    rw [ink_start] at hwrite
    exact hwrite
  | block =>
    have hwrite := ink_write (startBlock_lines_ne_nil s) (splitTrailingIndent t).1
    rw [ink_startBlock, ink_splitTrailingIndent] at hwrite
    simp only [place]
    -- A new indent is no part of any line yet.
    split <;> exact hwrite

theorem ink_foldl_place (base : Text) (s : Sheet) (fragments : List (Text × Placement)) :
    (fragments.foldl (place base) s).ink = s.ink ++ fragments.flatMap fun f => f.1.ink := by
  induction fragments generalizing s with
  | nil => exact (List.append_nil _).symm
  | cons f fs ih => rw [List.foldl_cons, ih, ink_place, List.append_assoc, List.flatMap_cons]

/-! ## 3. The finished message -/

/-- An indent adds no ink to a line. -/
theorem ink_text {l : Line} (h : l.indent.all isIndentChar = true) :
    l.text.ink = l.content.ink := by
  unfold Line.text
  split
  · next hempty => rw [List.isEmpty_iff.mp hempty]
  · rw [Text.ink_append, ink_eq_nil_of_isIndentChar h, List.nil_append]

/-- **Finishing a sheet** under blank indents keeps its ink. -/
theorem ink_finish {s : Sheet} (h : s.Blank) : s.finish.ink = s.ink := by
  cases hs : s.lines.reverse with
  | nil =>
    have hlines : s.lines = [] := List.reverse_eq_nil_iff.mp hs
    simp [finish, ink, hlines, dropBlank, Text.join, Text.ink]
  | cons first rest =>
    have hindents : ∀ l ∈ first :: rest.rdropWhile Line.isBlank,
        l.text.ink = l.content.ink := fun l hl =>
      have hmem : l ∈ first :: rest :=
        (List.cons_sublist_cons.mpr (List.rdropWhile_prefix Line.isBlank rest).sublist).mem hl
      ink_text (h.lines l (List.mem_reverse.mp (hs ▸ hmem)))
    have hdropped : (rest.rtakeWhile Line.isBlank).flatMap (fun l => l.content.ink) = [] :=
      List.flatMap_eq_nil_iff.mpr fun l hl =>
        have hblank : l.isBlank = true := List.mem_rtakeWhile_imp hl
        ink_eq_nil_iff.mpr hblank
    have hfeed : Text.ink (if rest.rdropWhile Line.isBlank = rest then [] else ['\n']) = [] := by
      split <;> rfl
    calc s.finish.ink
        = (first :: rest.rdropWhile Line.isBlank).flatMap fun l => l.text.ink := by
          rw [finish_eq hs, Text.ink_append, hfeed, List.append_nil, ink_join_lineFeed,
            List.flatMap_map]
      _ = (first :: rest.rdropWhile Line.isBlank).flatMap fun l => l.content.ink :=
          List.flatMap_congr hindents
      _ = (first :: rest).flatMap fun l => l.content.ink := by
          conv_rhs => rw [← List.rdropWhile_append_rtakeWhile (p := Line.isBlank) (l := rest),
            ← List.cons_append, List.flatMap_append, hdropped, List.append_nil]
      _ = s.ink := by rw [ink, hs]

end Sheet

/-- **Nothing but white space is added or lost.**  Without its white space, a message is its
fragments in a row without theirs, wherever they are placed and whatever the indent. -/
theorem compose_ink (indent : Indent) (fragments : List (Text × Placement)) :
    ink (compose indent fragments) = ink (fragments.flatMap Prod.fst) := by
  have hblank := Sheet.blank_foldl_place indent fragments
  have hrow : ink (fragments.flatMap Prod.fst) = fragments.flatMap fun f => ink f.1 :=
    List.filter_flatMap
  rw [compose, Sheet.ink_finish hblank, Sheet.ink_foldl_place, hrow]
  rfl

end Assembly

end Phrasing
