/-
# Blank lines

A line of a message has its indent in front of what the fragments put on it, unless they put nothing
there (`lines_compose`).  Its indent is that of the message, followed by one that was cut off a fragment
in front of it, if there is any (`exists_lineIndent`).

A line that is not empty may still be blank, and such a line is indented like any other: a space between
two lines under an indent of two spaces becomes three spaces (`blank_line_indented`).  `blank_line_iff`
says of each blank line whether it is as the fragments have it.  It is if it is empty, or if its indent
is.  Blank lines at the end do not count here, because one line feed stands for all of them.
-/
import Phrasing.Proofs.Assembly.Settled

namespace Phrasing

namespace Assembly

open Text

/-! ## 1. The indents of lines -/

/-- The indent of a piece is that of the message, and the latest that was cut off a fragment in front of
the piece. -/
theorem exists_indent_of_mem_pieces {indent : Text} {before fs : List (Text × Placement)}
    {p : Piece} (h : p ∈ pieces indent before fs) :
    ∃ between, between <+: fs ∧ p.indent = indent ++ latestCut (before ++ between) := by
  induction fs generalizing before with
  | nil => cases h
  | cons f fs ih =>
    rcases List.mem_cons.mp h with rfl | h
    · exact ⟨[], List.nil_prefix, by rw [List.append_nil]⟩
    · obtain ⟨between, hbetween, hindent⟩ := ih h
      refine ⟨f :: between, List.cons_prefix_cons.mpr ⟨rfl, hbetween⟩, ?_⟩
      rw [hindent, List.append_assoc, List.singleton_append]

theorem exists_of_mem_indents_group {ps : List Piece} {t : Text}
    (h : t ∈ (ruledGroup ps).indents) : ∃ p ∈ ps, t = p.indent := by
  cases ps with
  | nil => cases h
  | cons first rest =>
    rcases List.mem_cons.mp h with rfl | h
    · exact ⟨first, List.mem_cons_self, rfl⟩
    · obtain ⟨p, hp, ht⟩ := List.mem_flatMap.mp h
      exact ⟨p, hp, List.eq_of_mem_replicate ht⟩

/-- No indent comes in when texts are stacked. -/
theorem Ruled.exists_of_mem_indents_stack {rs : List Ruled} {t : Text}
    (h : t ∈ (stack rs).indents) : ∃ r ∈ rs, t ∈ r.indents := by
  fun_induction stack rs with
  | case1 => cases h
  | case2 r => exact ⟨r, List.mem_singleton_self r, h⟩
  | case3 r r' rs ih =>
    rw [indents_append, List.mem_append] at h
    rcases h with h | h
    · have hclose : r.close.indents ⊆ r.indents := by
        unfold close
        split
        · exact List.dropLast_subset r.indents
        · exact List.Subset.refl r.indents
      exact ⟨r, List.mem_cons_self, hclose h⟩
    · obtain ⟨r'', hr'', ht⟩ := ih h
      exact ⟨r'', List.mem_cons_of_mem r hr'', ht⟩

/-- The indent of a line of a message, which is that of the message where no fragment is. -/
def lineIndent (indent : Indent) (fragments : List (Text × Placement)) (i : Nat) : Text :=
  (ruledMessage indent.text fragments).indents.getD i indent.text

/-- **The indent of a line** is that of the message, and the latest that was cut off one of the first
fragments. -/
theorem exists_lineIndent (indent : Indent) (fragments : List (Text × Placement)) (i : Nat) :
    ∃ before, before <+: fragments ∧
      lineIndent indent fragments i = indent.text ++ latestCut before := by
  rw [lineIndent, List.getD_eq_getElem?_getD]
  cases hi : (ruledMessage indent.text fragments).indents[i]? with
  | none => exact ⟨[], List.nil_prefix, (List.append_nil indent.text).symm⟩
  | some t =>
    obtain ⟨r, hr, ht⟩ := Ruled.exists_of_mem_indents_stack (List.mem_of_getElem? hi)
    obtain ⟨g, hg, rfl⟩ := List.mem_map.mp hr
    obtain ⟨p, hp, rfl⟩ := exists_of_mem_indents_group ht
    have hmem : p ∈ pieces indent.text [] fragments := by
      rw [← flatten_groups (pieces indent.text [] fragments)]
      exact List.mem_flatten_of_mem hg hp
    obtain ⟨before, hbefore, hindent⟩ := exists_indent_of_mem_pieces hmem
    exact ⟨before, hbefore, hindent⟩

/-! ## 2. The lines of a message -/

/-- What fragments put on the lines of their message. -/
def writtenLines (indent : Indent) (fragments : List (Text × Placement)) : List Text :=
  lines (ruledMessage indent.text fragments).text

/-- The lines of a message that are kept: the first, and the others up to the last that is not
blank. -/
def keptLines : List Text → List Text
  | [] => []
  | first :: rest => first :: rest.rdropWhile isAllBlank

theorem keptLines_prefix (ls : List Text) : keptLines ls <+: ls := by
  cases ls with
  | nil => exact List.nil_prefix
  | cons first rest => exact List.cons_prefix_cons.mpr ⟨rfl, List.rdropWhile_prefix isAllBlank rest⟩

/-- The contents of lines are kept where the lines are. -/
theorem keptLines_map_content (first : Line) (rest : List Line) :
    keptLines ((first :: rest).map Line.content) =
      (first :: rest.rdropWhile Line.isBlank).map Line.content := by
  have hblank : ∀ l ∈ rest, isAllBlank l.content = l.isBlank := fun l _ => rfl
  rw [List.map_cons, keptLines, rdropWhile_map hblank, List.map_cons]

/-- Lines that are in front of others have the indents in front. -/
theorem map_text_eq_mapIdx {kept ls : List Line} (h : kept <+: ls) (otherwise : Text) :
    kept.map Line.text = (kept.map Line.content).mapIdx fun i content =>
      indentText ((ls.map Line.indent).getD i otherwise) content := by
  obtain ⟨dropped, rfl⟩ := h
  refine List.ext_getElem? fun i => ?_
  rw [List.getElem?_mapIdx, List.getElem?_map, List.getElem?_map]
  cases hl : kept[i]? with
  | none => rfl
  | some l =>
    have hi : i < kept.length := (List.getElem?_eq_some_iff.mp hl).1
    have hindent : ((kept ++ dropped).map Line.indent).getD i otherwise = l.indent := by
      rw [List.getD_eq_getElem?_getD, List.getElem?_map, List.getElem?_append_left hi, hl]
      rfl
    rw [Option.map_some, Option.map_some, Option.map_some, hindent, Line.text_eq]

/-- **The lines of a message** are the kept lines of the fragments, each under its indent.  An empty
line behind them stands for the others. -/
theorem lines_compose (indent : Indent) (fragments : List (Text × Placement)) :
    lines (compose indent fragments) =
      ((keptLines (writtenLines indent fragments)).mapIdx fun i written =>
          indentText (lineIndent indent fragments i) written) ++
        if keptLines (writtenLines indent fragments) = writtenLines indent fragments then []
        else [[]] := by
  rcases eq_or_ne fragments [] with rfl | hne
  · rfl
  · have hblank := Sheet.blank_foldl_place indent fragments
    obtain ⟨free, hshows⟩ := exists_shows indent.text hne
    obtain ⟨first, rest, hs⟩ := List.exists_cons_of_ne_nil
      (List.reverse_ne_nil_iff.mpr hshows.lines_ne_nil)
    have hkept : first :: rest.rdropWhile Line.isBlank <+: first :: rest :=
      List.cons_prefix_cons.mpr ⟨rfl, List.rdropWhile_prefix Line.isBlank rest⟩
    have hfree : ∀ t ∈ (first :: rest.rdropWhile Line.isBlank).map Line.text, '\n' ∉ t := by
      intro t ht
      obtain ⟨l, hl, rfl⟩ := List.mem_map.mp ht
      exact Sheet.not_mem_text_of_mem hshows hblank
        (List.mem_map_of_mem (hs ▸ hkept.subset hl))
    have hcontents : writtenLines indent fragments = (first :: rest).map Line.content := by
      rw [← hs, hshows.contents, writtenLines]
    have hindents (i : Nat) : lineIndent indent fragments i =
        ((first :: rest).map Line.indent).getD i indent.text := by
      rw [← hs, hshows.indents, lineIndent]
    have hwhole : keptLines (writtenLines indent fragments) = writtenLines indent fragments ↔
        rest.rdropWhile Line.isBlank = rest := by
      rw [hcontents, keptLines_map_content, List.map_cons, List.map_cons, List.cons_inj_right,
        map_rdropWhile_eq_iff]
    rw [compose, Sheet.finish_eq hs, lines_join_append_ite (by simp) hfree,
      map_text_eq_mapIdx hkept indent.text]
    simp only [hwhole, hindents]
    rw [hcontents, keptLines_map_content]

/-! ## 3. Blank lines -/

/-- An indent leaves alone what is empty, and nothing else unless it is empty itself. -/
theorem indentText_eq_iff {indent line : Text} :
    indentText indent line = line ↔ line = [] ∨ indent = [] := by
  unfold indentText
  cases line with
  | nil => simp
  | cons c line => simp

/-- Nothing is made blank by an indent. -/
theorem isAllBlank_of_indentText {indent line : Text}
    (h : isAllBlank (indentText indent line) = true) : isAllBlank line = true := by
  unfold indentText at h
  split at h
  · next hempty =>
    rw [List.isEmpty_iff.mp hempty]
    rfl
  · rw [isAllBlank, List.all_append] at h
    exact (Bool.and_eq_true_iff.mp h).2

/-- **A blank line is as the fragments have it if and only if it is empty or has no indent**: neither
one of the message nor one that was cut off a fragment.  Otherwise the indent stands in front of it.
The last line of a message may be empty in place of the blank lines behind it, but for that every line
is one of the fragments. -/
theorem blank_line_iff (indent : Indent) (fragments : List (Text × Placement)) {i : Nat}
    {line : Text} (hline : (lines (compose indent fragments))[i]? = some line)
    (hblank : isAllBlank line = true) :
    (i = (keptLines (writtenLines indent fragments)).length ∧
        i < (writtenLines indent fragments).length ∧ line = []) ∨
      ∃ written before, (writtenLines indent fragments)[i]? = some written ∧
        isAllBlank written = true ∧ before <+: fragments ∧
        lineIndent indent fragments i = indent.text ++ latestCut before ∧
        line = indentText (lineIndent indent fragments i) written ∧
        (line = written ↔ written = [] ∨ (indent.text = [] ∧ latestCut before = [])) := by
  have hfront := keptLines_prefix (writtenLines indent fragments)
  rw [lines_compose, List.getElem?_append, List.length_mapIdx] at hline
  split at hline
  · -- A line that is kept is a line of the fragments under its indent.
    next hi =>
    rw [List.getElem?_mapIdx] at hline
    obtain ⟨written, hwritten, rfl⟩ := Option.map_eq_some_iff.mp hline
    obtain ⟨before, hbefore, hindent⟩ := exists_lineIndent indent fragments i
    have hmem : (writtenLines indent fragments)[i]? = some written := by
      rw [List.prefix_iff_getElem?.mp hfront i hi, ← List.getElem?_eq_getElem hi, hwritten]
    refine .inr ⟨written, before, hmem, isAllBlank_of_indentText hblank, hbefore, hindent, rfl, ?_⟩
    rw [indentText_eq_iff, hindent, List.append_eq_nil_iff]
  · -- The other one is behind them, if any are dropped.
    next hge =>
    split at hline
    · cases hline
    · next hdropped =>
      have hlt : (keptLines (writtenLines indent fragments)).length <
          (writtenLines indent fragments).length :=
        lt_of_le_of_ne hfront.length_le fun heq => hdropped (hfront.eq_of_length heq)
      obtain ⟨hlast, hempty⟩ := List.getElem?_eq_some_iff.mp hline
      rw [List.length_singleton] at hlast
      rw [List.getElem_singleton] at hempty
      exact .inl ⟨by omega, by omega, hempty.symm⟩

/-- A tab on a line of its own, under two indents. -/
theorem blank_line_iff_tab :
    let indent := Indent.spaces 1
    let fragments : List (Text × Placement) :=
      [("Files:\n  ".toList, .block), ("a\n\t\nb".toList, .block)]
    let line : Text := "   \t".toList
    (lines (compose indent fragments))[2]? = some line ∧ isAllBlank line = true ∧
      ∃ written before, (writtenLines indent fragments)[2]? = some written ∧
        isAllBlank written = true ∧ before <+: fragments ∧
        lineIndent indent fragments 2 = indent.text ++ latestCut before ∧
        line = indentText (lineIndent indent fragments 2) written ∧
        (line = written ↔ written = [] ∨ (indent.text = [] ∧ latestCut before = [])) := by
  intro indent fragments line
  have hline : (lines (compose indent fragments))[2]? = some line := by decide
  have hblank : isAllBlank line = true := by decide
  have hkept : ¬ (2 = (keptLines (writtenLines indent fragments)).length ∧
      2 < (writtenLines indent fragments).length ∧ line = []) := by
    decide
  exact ⟨hline, hblank, (blank_line_iff indent fragments hline hblank).resolve_left hkept⟩

/-- The space between two lines is indented with them. -/
theorem blank_line_indented :
    let fragments : List (Text × Placement) := [("a\n \nb".toList, .block)]
    ¬ ∀ (i : Nat) (line : Text),
      (lines (compose (Indent.spaces 2) fragments))[i]? = some line → isAllBlank line = true →
        (writtenLines (Indent.spaces 2) fragments)[i]? = some line := by
  intro fragments h
  have hthree := h 1 [' ', ' ', ' '] (by decide) (by decide)
  exact absurd hthree (by decide)

end Assembly

end Phrasing
