/-
# Lines of texts

Cutting a text into lines and gluing lines with line feeds are inverse to each other:
`Text.join_lines` is one direction, `lines_join` the other, for lines without line feeds.  Where
two texts meet, the last line of the first and the first line of the second are one
(`lines_append`).
-/
import Phrasing.Text.Basic

namespace Phrasing.Text

/-! ## 1. Cutting and gluing -/

theorem splitWhere_eq_splitOnP (p : Char → Bool) (t : Text) : splitWhere p t = t.splitOnP p := by
  induction t with
  | nil => rfl
  | cons c rest ih =>
    rw [splitWhere, List.splitOnP_cons_eq_if_modifyHead, ih]
    split
    · rfl
    · cases h : rest.splitOnP p with
      | nil => exact absurd h (List.splitOnP_ne_nil p rest)
      | cons piece pieces => rfl

theorem lines_eq_splitOn (t : Text) : lines t = t.splitOn '\n' := splitWhere_eq_splitOnP _ t

theorem join_eq_intercalate (separator : Text) (ls : List Text) :
    join separator ls = separator.intercalate ls := by
  fun_induction join separator ls with
  | case1 => rfl
  | case2 piece => exact List.intercalate_singleton.symm
  | case3 piece pieces hne ih =>
    rw [List.intercalate_cons_of_ne_nil hne, ih]

theorem lines_ne_nil (t : Text) : lines t ≠ [] := splitWhere_ne_nil _ t

theorem exists_lines_eq_cons (t : Text) : ∃ piece pieces, lines t = piece :: pieces :=
  List.exists_cons_of_ne_nil (lines_ne_nil t)

@[simp] theorem lines_nil : lines [] = [[]] := rfl

/-- A line feed ends a line. -/
theorem lines_append_cons (s t : Text) : lines (s ++ '\n' :: t) = lines s ++ lines t := by
  simp only [lines_eq_splitOn]
  exact List.splitOn_append_cons_self s t

theorem not_mem_of_mem_lines {t l : Text} (h : l ∈ lines t) : '\n' ∉ l := by
  induction t generalizing l with
  | nil =>
    cases List.mem_singleton.mp h
    exact List.not_mem_nil
  | cons c rest ih =>
    rw [lines, splitWhere, ← lines] at h
    split at h
    · rcases List.mem_cons.mp h with rfl | h
      · exact List.not_mem_nil
      · exact ih h
    · next hc =>
      cases hrest : lines rest with
      | nil => exact absurd hrest (lines_ne_nil rest)
      | cons piece pieces =>
        rw [hrest] at h ih
        rcases List.mem_cons.mp h with rfl | h
        · rintro (_ | ⟨_, hmem⟩)
          · exact hc rfl
          · exact ih List.mem_cons_self hmem
        · exact ih (List.mem_cons_of_mem piece h)

/-- Gluing lines and cutting gives them back. -/
theorem lines_join {ls : List Text} (hne : ls ≠ []) (h : ∀ l ∈ ls, '\n' ∉ l) :
    lines (join ['\n'] ls) = ls := by
  rw [lines_eq_splitOn, join_eq_intercalate]
  exact List.splitOn_intercalate '\n' h hne

/-- Lines ended by a line feed are followed by an empty line. -/
theorem lines_join_append {ls : List Text} (hne : ls ≠ []) (h : ∀ l ∈ ls, '\n' ∉ l) :
    lines (join ['\n'] ls ++ ['\n']) = ls ++ [[]] := by
  rw [lines_append_cons, lines_join hne h, lines_nil]

theorem join_append_join (separator : Text) (init : List Text) (last piece : Text)
    (pieces : List Text) :
    join separator (init ++ [last]) ++ join separator (piece :: pieces) =
      join separator (init ++ (last ++ piece) :: pieces) := by
  simp only [join_eq_intercalate]
  induction init with
  | nil =>
    cases pieces with
    | nil => simp only [List.nil_append, List.intercalate_singleton]
    | cons next pieces =>
      simp only [List.nil_append, List.intercalate_singleton, List.intercalate_cons_cons,
        List.append_assoc]
  | cons l init ih =>
    have hinit {ls : List Text} {l' : Text} : init ++ l' :: ls ≠ [] := by simp
    rw [List.cons_append, List.cons_append, List.intercalate_cons_of_ne_nil hinit,
      List.intercalate_cons_of_ne_nil hinit, List.append_assoc, ih]

theorem join_concat (separator : Text) {init : List Text} (hne : init ≠ []) (last : Text) :
    join separator (init ++ [last]) = join separator init ++ (separator ++ last) := by
  obtain ⟨before, l, rfl⟩ := init.eq_nil_or_concat.resolve_left hne
  have hpair : separator ++ last = join separator [[], last] := rfl
  rw [hpair, List.concat_eq_append, join_append_join, List.append_nil, List.append_assoc,
    List.singleton_append]

/-- A piece that has the separator in it is two pieces. -/
theorem join_append_piece (separator : Text) (init rest : List Text) (a b : Text) :
    join separator (init ++ (a ++ separator ++ b) :: rest) =
      join separator (init ++ a :: b :: rest) := by
  simp only [join_eq_intercalate]
  induction init with
  | nil =>
    cases rest with
    | nil => simp only [List.nil_append, List.intercalate_singleton, List.intercalate_cons_cons]
    | cons piece rest =>
      simp only [List.nil_append, List.intercalate_cons_cons, List.append_assoc]
  | cons l init ih =>
    have hinit {ls : List Text} {l' : Text} : init ++ l' :: ls ≠ [] := by simp
    rw [List.cons_append, List.cons_append, List.intercalate_cons_of_ne_nil hinit,
      List.intercalate_cons_of_ne_nil hinit, ih]

/-- **Where two texts meet** their lines at the seam become one. -/
theorem lines_append {s t last piece : Text} {init pieces : List Text}
    (hs : lines s = init ++ [last]) (ht : lines t = piece :: pieces) :
    lines (s ++ t) = init ++ (last ++ piece) :: pieces := by
  have hglued : s ++ t = join ['\n'] (init ++ (last ++ piece) :: pieces) := by
    rw [← join_append_join, ← hs, ← ht, join_lines, join_lines]
  rw [hglued]
  refine lines_join (by simp) fun l hl => ?_
  rcases List.mem_append.mp hl with hl | hl
  · exact not_mem_of_mem_lines (t := s) (hs ▸ List.mem_append_left _ hl)
  rcases List.mem_cons.mp hl with rfl | hl
  · have hlast : '\n' ∉ last := not_mem_of_mem_lines (t := s) (hs ▸ by simp)
    have hpiece : '\n' ∉ piece := not_mem_of_mem_lines (t := t) (ht ▸ List.mem_cons_self)
    exact fun hmem => (List.mem_append.mp hmem).elim hlast hpiece
  · exact not_mem_of_mem_lines (t := t) (ht ▸ List.mem_cons_of_mem piece hl)

/-- A line feed makes one line more. -/
theorem length_lines (t : Text) : (lines t).length = t.count '\n' + 1 := by
  induction t with
  | nil => rfl
  | cons c rest ih =>
    by_cases hc : c = '\n'
    · rw [hc, ← List.nil_append ('\n' :: rest), lines_append_cons, lines_nil, List.nil_append,
        List.length_append, ih, List.count_cons_self]
      exact Nat.add_comm 1 _
    · rw [lines_eq_splitOn] at ih ⊢
      rw [List.splitOn_cons_eq_if_modifyHead, if_neg (by simpa using hc), List.length_modifyHead,
        ih, List.count_cons_of_ne hc]

/-! ## 2. Texts that end a line -/

/-- Whether the last character of a text is a line feed. -/
def endsLine (t : Text) : Bool := t.getLast? == some '\n'

/-- What stands behind a text decides whether they end a line, unless it is empty. -/
theorem endsLine_append (s t : Text) :
    endsLine (s ++ t) = if t.isEmpty then endsLine s else endsLine t := by
  cases t with
  | nil => rw [List.append_nil]; rfl
  | cons c t =>
    rw [endsLine, List.getLast?_append, List.getLast?_cons, Option.some_or, ← List.getLast?_cons]
    rfl

/-- A text without line feeds ends no line. -/
theorem endsLine_of_lines_eq_singleton {t piece : Text} (h : lines t = [piece]) :
    endsLine t = false := by
  have ht : t = piece := by rw [← join_lines t, h]; rfl
  have hmem : '\n' ∉ piece := not_mem_of_mem_lines (t := t) (h ▸ List.mem_singleton.mpr rfl)
  rw [ht, endsLine, beq_eq_false_iff_ne]
  exact fun hlast => hmem (List.mem_of_getLast? hlast)

/-- A text with line feeds ends a line if its last line is empty. -/
theorem endsLine_of_lines_eq_append {t last : Text} {init : List Text} (hne : init ≠ [])
    (h : lines t = init ++ [last]) : endsLine t = last.isEmpty := by
  have ht : t = join ['\n'] init ++ (['\n'] ++ last) := by
    rw [← join_lines t, h, join_concat _ hne]
  have hmem : '\n' ∉ last := not_mem_of_mem_lines (t := t) (h ▸ by simp)
  rw [ht, ← List.append_assoc, endsLine_append]
  cases last with
  | nil =>
    rw [endsLine_append]
    rfl
  | cons c last =>
    exact beq_eq_false_iff_ne.mpr fun hlast => hmem (List.mem_of_getLast? hlast)

end Phrasing.Text
