/-
# The base indent

Every indent of a message starts with the indent of the whole message.  Assembling fragments with
and without it goes on in step: the sheet with the base indent is at any time the other sheet with
the base indent in front of all its indents (`foldl_place_under`).  The contents of the lines are
the same, so the same blank lines are dropped at the end.

So the base indent stands in front of every line that is not empty, and that is all it does
(`lines_compose_under`).
-/
import Phrasing.Proofs.Assembly.Settled

namespace Phrasing

namespace Assembly

open Text

/-! ## 1. Lines and sheets under one more indent -/

/-- A line with one more indent in front of its own. -/
def Line.under (indent : Text) (l : Line) : Line := { l with indent := indent ++ l.indent }

theorem Line.text_under (indent : Text) (l : Line) :
    (l.under indent).text = indentText indent l.text := by
  rw [Line.text_eq, Line.text_eq, Line.under]
  cases l.content with
  | nil => rfl
  | cons c content => simp [indentText]

namespace Sheet

/-- A sheet with one more indent in front of all its indents. -/
def under (indent : Text) (s : Sheet) : Sheet :=
  ⟨indent ++ s.indent, s.lines.map (Line.under indent)⟩

theorem under_blank (indent : Text) : (blank []).under indent = blank indent := by
  rw [blank, under, List.append_nil]
  rfl

/-! ## 2. In step -/

theorem start_under (indent : Text) (s : Sheet) :
    (s.under indent).start = s.start.under indent := by
  obtain ⟨indent', lines⟩ := s
  cases lines with
  | nil => rfl
  | cons l ls => rfl

theorem startBlock_under (indent : Text) (s : Sheet) :
    (s.under indent).startBlock = s.startBlock.under indent := by
  obtain ⟨indent', lines⟩ := s
  cases lines with
  | nil => rfl
  | cons l ls =>
    simp only [under, startBlock, List.map_cons, Line.under]
    split
    · rfl
    · rfl

theorem continueLine_under (indent : Text) (s : Sheet) (piece : Text) :
    (s.under indent).continueLine piece = (s.continueLine piece).under indent := by
  obtain ⟨indent', lines⟩ := s
  cases lines with
  | nil => rfl
  | cons l ls => rfl

theorem write_under (indent : Text) (s : Sheet) (t : Text) :
    (s.under indent).write t = (s.write t).under indent := by
  unfold write
  split
  · rfl
  · next piece pieces ht =>
    rw [continueLine_under]
    exact List.foldl_hom (under indent) fun s piece => rfl

theorem prepare_under (indent : Text) (s : Sheet) (placement : Placement) :
    (s.under indent).prepare placement = (s.prepare placement).under indent := by
  cases placement with
  | inline => exact start_under indent s
  | block => exact startBlock_under indent s

/-- **Placing a fragment** on a sheet under the base indent is placing it on the sheet without. -/
theorem place_under (indent : Text) (s : Sheet) (f : Text × Placement) :
    (s.under indent).place indent f = (s.place [] f).under indent := by
  rw [place_eq, place_eq, prepare_under, write_under]
  cases (cut f).2 with
  | none => rfl
  | some run => rfl

theorem foldl_place_under (indent : Text) (fs : List (Text × Placement)) :
    fs.foldl (place indent) (blank indent) = (fs.foldl (place []) (blank [])).under indent := by
  rw [← under_blank]
  exact List.foldl_hom (under indent) fun s f => place_under indent s f

end Sheet

/-! ## 3. The lines of the message -/

/-- Settling drops the same lines with a blank indent in front of them. -/
theorem lines_settle_map {indent : Text} (hindent : indent.all isIndentChar = true)
    {ls : List Text} (h : ∀ l ∈ ls, '\n' ∉ l) :
    lines (settle (ls.map (indentText indent))) = (lines (settle ls)).map (indentText indent) := by
  cases ls with
  | nil => rfl
  | cons first rest =>
    have hkept : ∀ l ∈ first :: rest.rdropWhile isAllBlank, '\n' ∉ l := fun l hl =>
      h l ((List.cons_sublist_cons.mpr (List.rdropWhile_prefix isAllBlank rest).sublist).mem hl)
    have hindented : ∀ l ∈ (first :: rest.rdropWhile isAllBlank).map (indentText indent),
        '\n' ∉ l := by
      intro l hl
      obtain ⟨t, ht, rfl⟩ := List.mem_map.mp hl
      exact not_mem_indentText hindent (hkept t ht)
    rw [settle_map fun t _ => isAllBlank_indentText hindent t, settle]
    simp only [lines_join_append_ite (List.cons_ne_nil _ _) hkept,
      lines_join_append_ite (by simp) hindented, List.map_append]
    congr 1
    split
    · rfl
    · rfl

/-- **The base indent** stands in front of every line that is not empty, and changes nothing
else. -/
theorem lines_compose_under (indent : Indent) (fragments : List (Text × Placement)) :
    lines (compose indent fragments) =
      (lines (compose Indent.none fragments)).map (indentText indent.text) := by
  rcases eq_or_ne fragments [] with rfl | hne
  · rfl
  · have hblank := Sheet.blank_foldl_place indent fragments
    have hblank' := Sheet.blank_foldl_place Indent.none fragments
    obtain ⟨free, hshows⟩ := exists_shows Indent.none.text hne
    have htexts : (fragments.foldl (Sheet.place indent.text)
          (Sheet.blank indent.text)).lines.reverse.map Line.text =
        ((fragments.foldl (Sheet.place Indent.none.text)
          (Sheet.blank Indent.none.text)).lines.reverse.map Line.text).map
            (indentText indent.text) := by
      rw [Sheet.foldl_place_under, Sheet.under, ← List.map_reverse, List.map_map, List.map_map]
      exact List.map_congr_left fun l _ => Line.text_under indent.text l
    rw [compose, compose, Sheet.finish_eq_settle hblank, Sheet.finish_eq_settle hblank', htexts]
    exact lines_settle_map indent.blank fun t ht => Sheet.not_mem_text_of_mem hshows hblank' ht

end Assembly

end Phrasing
