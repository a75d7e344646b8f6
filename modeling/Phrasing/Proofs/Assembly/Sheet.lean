/-
# Sheets

What the operations on a sheet do to its lines: `write_eq` for writing, `finish_eq` for the
finished message.

All indents on a sheet are runs of spaces and tabs, because those that are cut off fragments
are (`Blank`).
-/
import Mathlib.Data.List.DropRight
import Phrasing.Proofs.Assembly.Splitting
import Phrasing.Proofs.Text.Lines

namespace Phrasing

theorem isBlank_of_isIndentChar {c : Char} (h : isIndentChar c = true) :
    Text.isBlank c = true := by
  rcases (Bool.or_eq_true _ _).mp h with h | h
  · cases eq_of_beq h
    rfl
  · cases eq_of_beq h
    rfl

theorem isAllBlank_of_all_isIndentChar {t : Text} (h : t.all isIndentChar = true) :
    Text.isAllBlank t = true :=
  List.all_eq_true.mpr fun c hc => isBlank_of_isIndentChar (List.all_eq_true.mp h c hc)

namespace Assembly

/-! ## 1. Lines -/

/-- The line that begins with a piece after a line feed. -/
def Line.begin (indent piece : Text) : Line := ⟨indent, piece, piece.isEmpty⟩

/-- A line with a piece more on it. -/
def Line.extend (l : Line) (piece : Text) : Line :=
  { l with content := l.content ++ piece, isOpen := l.isOpen && piece.isEmpty }

/-- Whether a block fragment can go on a line that is there. -/
def Line.isFree (l : Line) : Bool := l.isOpen && l.content.isEmpty

theorem Line.isFree_begin (indent piece : Text) :
    (Line.begin indent piece).isFree = piece.isEmpty := Bool.and_self _

theorem Line.isFree_extend (l : Line) (piece : Text) :
    (l.extend piece).isFree = (l.isFree && piece.isEmpty) := by
  cases piece with
  | nil => simp [Line.isFree, Line.extend]
  | cons c piece => simp [Line.isFree, Line.extend]

/-- What an indent does to a text: it stands in front, unless there is nothing. -/
def indentText (indent t : Text) : Text := if t.isEmpty then [] else indent ++ t

theorem Line.text_eq (l : Line) : l.text = indentText l.indent l.content := rfl

/-- A blank indent does not make a text visible. -/
theorem isAllBlank_indentText {indent : Text} (h : indent.all isIndentChar = true) (t : Text) :
    Text.isAllBlank (indentText indent t) = Text.isAllBlank t := by
  unfold indentText
  split
  · next hempty => rw [List.isEmpty_iff.mp hempty]
  · rw [Text.isAllBlank, List.all_append, ← Text.isAllBlank, isAllBlank_of_all_isIndentChar h,
      Bool.true_and, Text.isAllBlank]

/-- Nor does it make lines of it. -/
theorem not_mem_indentText {indent t : Text} (h : indent.all isIndentChar = true)
    (ht : '\n' ∉ t) : '\n' ∉ indentText indent t := by
  unfold indentText
  split
  · exact List.not_mem_nil
  · intro hmem
    rcases List.mem_append.mp hmem with hmem | hmem
    · exact not_mem_of_all_isIndentChar h hmem
    · exact ht hmem

/-- The text of a line with a blank indent is blank where its content is. -/
theorem Line.isAllBlank_text {l : Line} (h : l.indent.all isIndentChar = true) :
    Text.isAllBlank l.text = l.isBlank :=
  isAllBlank_indentText h l.content

namespace Sheet

/-! ## 2. Writing -/

theorem foldl_newLine (s : Sheet) (pieces : List Text) :
    pieces.foldl newLine s =
      { s with lines := (pieces.map (Line.begin s.indent)).reverse ++ s.lines } := by
  induction pieces generalizing s with
  | nil => rfl
  | cons piece pieces ih =>
    rw [List.foldl_cons, ih, List.map_cons, List.reverse_cons, List.append_assoc]
    rfl

/-- **Writing a text** extends the current line by its first line and begins a line for each of
the others. -/
theorem write_eq {s : Sheet} {l : Line} {ls : List Line} {t piece : Text} {pieces : List Text}
    (hs : s.lines = l :: ls) (ht : Text.lines t = piece :: pieces) :
    s.write t =
      { s with lines := (pieces.map (Line.begin s.indent)).reverse ++ l.extend piece :: ls } := by
  unfold write
  rw [ht]
  dsimp only
  rw [foldl_newLine, continueLine, hs]
  rfl

@[simp] theorem indent_write (s : Sheet) (t : Text) : (s.write t).indent = s.indent := by
  unfold write
  split
  · rfl
  · rw [foldl_newLine]
    unfold continueLine
    split <;> rfl

@[simp] theorem indent_start (s : Sheet) : s.start.indent = s.indent := by
  unfold start
  split <;> rfl

@[simp] theorem indent_startBlock (s : Sheet) : s.startBlock.indent = s.indent := by
  unfold startBlock
  split
  · rfl
  · split <;> rfl

theorem start_lines_ne_nil (s : Sheet) : s.start.lines ≠ [] := by
  unfold start
  split
  · exact List.cons_ne_nil _ _
  · next h => exact fun hnil => h hnil

theorem startBlock_lines_ne_nil (s : Sheet) : s.startBlock.lines ≠ [] := by
  unfold startBlock
  split
  · exact List.cons_ne_nil _ _
  · split <;> exact List.cons_ne_nil _ _

/-! ## 3. Blank indents -/

/-- A sheet all of whose indents are runs of spaces and tabs. -/
structure Blank (s : Sheet) : Prop where
  indent : s.indent.all isIndentChar = true
  lines : ∀ l ∈ s.lines, l.indent.all isIndentChar = true

theorem blank_write {s : Sheet} (h : s.Blank) (hne : s.lines ≠ []) (t : Text) :
    (s.write t).Blank := by
  obtain ⟨l, ls, hs⟩ := List.exists_cons_of_ne_nil hne
  obtain ⟨piece, pieces, ht⟩ := Text.exists_lines_eq_cons t
  rw [write_eq hs ht]
  refine ⟨h.indent, fun l' hl' => ?_⟩
  rcases List.mem_append.mp hl' with hl' | hl'
  · obtain ⟨piece', -, rfl⟩ := List.mem_map.mp (List.mem_reverse.mp hl')
    exact h.indent
  rcases List.mem_cons.mp hl' with rfl | hl'
  · exact h.lines l (hs ▸ List.mem_cons_self)
  · exact h.lines l' (hs ▸ List.mem_cons_of_mem l hl')

theorem blank_start {s : Sheet} (h : s.Blank) : s.start.Blank := by
  unfold start
  split
  · exact ⟨h.indent, List.forall_mem_singleton.mpr h.indent⟩
  · exact h

theorem blank_startBlock {s : Sheet} (h : s.Blank) : s.startBlock.Blank := by
  unfold startBlock
  split
  · exact ⟨h.indent, List.forall_mem_singleton.mpr h.indent⟩
  · next l ls hs =>
    have hls : ∀ l' ∈ l :: ls, l'.indent.all isIndentChar = true := hs ▸ h.lines
    split
    · exact ⟨h.indent, List.forall_mem_cons.mpr ⟨h.indent, (List.forall_mem_cons.mp hls).2⟩⟩
    · exact ⟨h.indent, List.forall_mem_cons.mpr ⟨h.indent, hls⟩⟩

theorem blank_place {base : Text} (hbase : base.all isIndentChar = true) {s : Sheet}
    (h : s.Blank) (fragment : Text × Placement) : (s.place base fragment).Blank := by
  rcases fragment with ⟨t, placement⟩
  cases placement with
  | inline => exact blank_write (blank_start h) (start_lines_ne_nil s) t
  | block =>
    have hwrite := blank_write (blank_startBlock h) (startBlock_lines_ne_nil s)
      (splitTrailingIndent t).1
    simp only [place]
    split
    · next run hrun =>
      refine ⟨?_, hwrite.lines⟩
      rw [List.all_append, hbase, Bool.true_and]
      exact (isRun_of_split hrun).all
    · exact hwrite

/-- **Every indent is blank**, whatever fragments were placed. -/
theorem blank_foldl_place (indent : Indent) (fragments : List (Text × Placement)) :
    (fragments.foldl (place indent.text) (blank indent.text)).Blank := by
  have hstart : (blank indent.text).Blank := ⟨indent.blank, List.forall_mem_nil _⟩
  generalize blank indent.text = s at hstart ⊢
  induction fragments generalizing s with
  | nil => exact hstart
  | cons fragment fragments ih => exact ih _ (blank_place indent.blank hstart fragment)

/-! ## 4. The finished message -/

theorem dropBlank_append (ls : List Line) (first : Line) :
    dropBlank (ls ++ [first]) =
      (ls.dropWhile Line.isBlank ++ [first], decide (ls.dropWhile Line.isBlank ≠ ls)) := by
  induction ls with
  | nil => rfl
  | cons l ls ih =>
    obtain ⟨l', ls', hls⟩ := List.exists_cons_of_ne_nil (l := ls ++ [first]) (by simp)
    rw [List.cons_append, hls, dropBlank, ← hls, List.dropWhile_cons]
    split
    · have hlt : (ls.dropWhile Line.isBlank).length < (l :: ls).length :=
        Nat.lt_succ_of_le (List.dropWhile_sublist _).length_le
      have hne : ls.dropWhile Line.isBlank ≠ l :: ls := fun h => hlt.ne (congrArg List.length h)
      rw [ih, decide_eq_true hne]
    · rw [decide_eq_false (fun h => h rfl)]
      rfl

/-- **The finished message** consists of the first line and the others up to the last that is not
blank; a line feed stands for the lines behind that. -/
theorem finish_eq {s : Sheet} {first : Line} {rest : List Line}
    (h : s.lines.reverse = first :: rest) :
    s.finish =
      Text.join ['\n'] ((first :: rest.rdropWhile Line.isBlank).map Line.text) ++
        if rest.rdropWhile Line.isBlank = rest then [] else ['\n'] := by
  have hlines : s.lines = rest.reverse ++ [first] := by
    rw [← List.reverse_reverse s.lines, h, List.reverse_cons]
  have hkept : (rest.reverse.dropWhile Line.isBlank).reverse = rest.rdropWhile Line.isBlank := rfl
  have hdropped : rest.reverse.dropWhile Line.isBlank ≠ rest.reverse ↔
      ¬ rest.rdropWhile Line.isBlank = rest := by
    rw [← hkept, List.reverse_eq_iff]
  unfold finish
  rw [hlines, dropBlank_append]
  dsimp only
  rw [List.reverse_append, List.reverse_singleton, List.singleton_append, hkept]
  simp only [decide_eq_true_eq, hdropped, ite_not]

end Sheet

end Assembly

end Phrasing
