/-
# The layout of a message

What a message looks like can be said without lines being written one by one.  Fragments are cut
and grouped, the groups are stacked, and the lines of the whole text are indented:

* a block fragment and the inline fragments behind it are a group, whose text is theirs in a row;
* groups stand one above the other, with a line feed between them if the upper one ends in none;
* a line has the indent that holds for the fragment that opened it;
* blank lines at the end, but not the first line, are replaced by one line feed.

`compose_layout` says that assembling a message does this.  The invariant is `Sheet.Laid`: while
fragments are placed, the current line is free for a block fragment exactly if the last group ends
in a line feed.
-/
import Mathlib.Data.List.SplitBy
import Phrasing.Proofs.Assembly.Sheet

namespace Phrasing

namespace Assembly

/-! ## 1. Pieces and groups -/

/-- A fragment after the cut, and the indent of the lines that it opens. -/
structure Piece where
  text : Text
  placement : Placement
  indent : Text
deriving DecidableEq, Repr

/-- A fragment without the indent at its end, and that indent.  Only block fragments are cut. -/
def cut : Text × Placement → Text × Option Text
  | (t, .block) => splitTrailingIndent t
  | (t, .inline) => (t, none)

/-- The indent that was cut off latest, if any was. -/
def latestCut (fragments : List (Text × Placement)) : Text :=
  ((fragments.filterMap fun f => (cut f).2).getLast?).getD []

/-- The pieces of fragments that stand behind others. -/
def pieces (indent : Text) (before : List (Text × Placement)) :
    List (Text × Placement) → List Piece
  | [] => []
  | f :: fs =>
    ⟨(cut f).1, f.2, indent ++ latestCut before⟩ :: pieces indent (before ++ [f]) fs

/-- Pieces in groups: the first one and every block begin a group. -/
def groups (ps : List Piece) : List (List Piece) :=
  ps.splitBy fun _ next => next.placement = .inline

theorem flatten_groups (ps : List Piece) : (groups ps).flatten = ps := List.flatten_splitBy _ ps

theorem latestCut_append (fs : List (Text × Placement)) (f : Text × Placement) :
    latestCut (fs ++ [f]) = (cut f).2.getD (latestCut fs) := by
  have hf : [f].filterMap (fun f => (cut f).2) = (cut f).2.toList := by
    rw [List.filterMap_cons]
    cases (cut f).2 <;> rfl
  unfold latestCut
  rw [List.filterMap_append, hf]
  cases (cut f).2 with
  | none => rw [Option.toList_none, List.append_nil]; rfl
  | some run => rw [Option.toList_some, List.getLast?_append]; rfl

theorem pieces_append (indent : Text) (before fs : List (Text × Placement))
    (f : Text × Placement) :
    pieces indent before (fs ++ [f]) =
      pieces indent before fs ++ [⟨(cut f).1, f.2, indent ++ latestCut (before ++ fs)⟩] := by
  induction fs generalizing before with
  | nil => rw [List.append_nil]; rfl
  | cons f' fs ih =>
    rw [List.cons_append, pieces, pieces, ih, List.append_assoc, List.singleton_append]
    rfl

theorem groups_append_block (ps : List Piece) {p : Piece} (h : p.placement = .block) :
    groups (ps ++ [p]) = groups ps ++ [[p]] := by
  refine List.splitBy_append fun x _ y hy => ?_
  cases hy
  rw [h]
  rfl

/-- An inline piece belongs to the group before it. -/
theorem groups_append_inline {ps g : List Piece} {gs : List (List Piece)}
    (hps : groups ps = gs ++ [g]) {p : Piece} (h : p.placement = .inline) :
    groups (ps ++ [p]) = gs ++ [g ++ [p]] := by
  obtain ⟨hflatten, hnil, hchain, hbounds⟩ := List.splitBy_eq_iff.mp hps
  refine List.splitBy_eq_iff.mpr ⟨?_, ?_, ?_, ?_⟩
  · rw [hflatten]
    simp only [List.flatten_append, List.flatten_cons, List.flatten_nil, List.append_nil,
      List.append_assoc]
  · intro hmem
    rcases List.mem_append.mp hmem with hmem | hmem
    · exact hnil (List.mem_append_left _ hmem)
    · simp at hmem
  · intro g' hg'
    rcases List.mem_append.mp hg' with hg' | hg'
    · exact hchain g' (List.mem_append_left _ hg')
    · cases List.mem_singleton.mp hg'
      have hg : g.IsChain fun _ next => decide (next.placement = .inline) :=
        hchain g (List.mem_append_right _ (List.mem_singleton.mpr rfl))
      refine List.isChain_append.mpr ⟨hg, List.isChain_singleton p, fun x _ y hy => ?_⟩
      cases hy
      exact decide_eq_true h
  · obtain ⟨hgs, -, hseam⟩ := List.isChain_append.mp hbounds
    refine List.isChain_append.mpr ⟨hgs, List.isChain_singleton _, fun x hx y hy => ?_⟩
    cases hy
    obtain ⟨hx', hg, hblock⟩ := hseam x hx g rfl
    refine ⟨hx', List.append_ne_nil_of_left_ne_nil hg [p], ?_⟩
    rwa [List.head_append_of_ne_nil hg]

/-! ## 2. Texts with indents -/

/-- A text with an indent for each of its lines. -/
structure Ruled where
  text : Text
  indents : List Text
deriving DecidableEq, Repr

instance : Append Ruled where
  append r r' := ⟨r.text ++ r'.text, r.indents ++ r'.indents⟩

namespace Ruled

@[simp] theorem text_append (r r' : Ruled) : (r ++ r').text = r.text ++ r'.text := rfl

@[simp] theorem indents_append (r r' : Ruled) : (r ++ r').indents = r.indents ++ r'.indents := rfl

theorem append_assoc (r r' r'' : Ruled) : r ++ r' ++ r'' = r ++ (r' ++ r'') := by
  change Ruled.mk _ _ = Ruled.mk _ _
  simp only [text_append, indents_append, List.append_assoc]

/-- A text behind a line feed: one is added where there is none, and where there is one, the
empty line that it opened is left to what comes next. -/
def close (r : Ruled) : Ruled :=
  if Text.endsLine r.text then ⟨r.text, r.indents.dropLast⟩ else ⟨r.text ++ ['\n'], r.indents⟩

/-- Texts one above the other, as one text. -/
def stack : List Ruled → Ruled
  | [] => ⟨[], []⟩
  | [r] => r
  | r :: r' :: rs => r.close ++ stack (r' :: rs)

/-- All but the last text of a stack are behind line feeds. -/
theorem stack_append (rs : List Ruled) (r : Ruled) :
    stack (rs ++ [r]) = rs.foldr (fun r' s => r'.close ++ s) r := by
  induction rs with
  | nil => rfl
  | cons r' rs ih =>
    obtain ⟨r'', rs', hrs⟩ := List.exists_cons_of_ne_nil (l := rs ++ [r]) (by simp)
    rw [List.cons_append, hrs, stack, ← hrs, ih, List.foldr_cons]

theorem foldr_append (rs : List Ruled) (r r' : Ruled) :
    rs.foldr (fun r' s => r'.close ++ s) (r ++ r') =
      rs.foldr (fun r' s => r'.close ++ s) r ++ r' := by
  induction rs with
  | nil => rfl
  | cons r'' rs ih => rw [List.foldr_cons, List.foldr_cons, ih, append_assoc]

/-- More text at the end of the last text of a stack is more text at the end of the stack. -/
theorem stack_append_append (rs : List Ruled) (r r' : Ruled) :
    stack (rs ++ [r ++ r']) = stack (rs ++ [r]) ++ r' := by
  rw [stack_append, stack_append, foldr_append]

/-- One more text on a stack: the text before it is brought behind a line feed. -/
theorem stack_append_pair (rs : List Ruled) (r r' : Ruled) :
    stack (rs ++ [r] ++ [r']) = stack (rs ++ [r.close]) ++ r' := by
  rw [stack_append, stack_append, ← foldr_append, List.foldr_append]
  rfl

end Ruled

/-- The indents of the lines that the line feeds of a piece open. -/
def Piece.opened (p : Piece) : List Text := List.replicate (p.text.count '\n') p.indent

/-- The text of a group.  Its first line counts as opened by its first piece. -/
def ruledGroup : List Piece → Ruled
  | [] => ⟨[], []⟩
  | p :: ps => ⟨(p :: ps).flatMap Piece.text, p.indent :: (p :: ps).flatMap Piece.opened⟩

theorem ruledGroup_singleton (p : Piece) :
    ruledGroup [p] = ⟨[], [p.indent]⟩ ++ ⟨p.text, p.opened⟩ := by
  simp only [ruledGroup, List.flatMap_singleton]
  rfl

theorem ruledGroup_append {ps : List Piece} (hne : ps ≠ []) (p : Piece) :
    ruledGroup (ps ++ [p]) = ruledGroup ps ++ ⟨p.text, p.opened⟩ := by
  obtain ⟨first, rest, rfl⟩ := List.exists_cons_of_ne_nil hne
  rw [List.cons_append, ruledGroup, ← List.cons_append, List.flatMap_append, List.flatMap_append,
    List.flatMap_singleton, List.flatMap_singleton]
  rfl

theorem ruledGroup_indents_ne_nil {ps : List Piece} (hne : ps ≠ []) :
    (ruledGroup ps).indents ≠ [] := by
  obtain ⟨first, rest, rfl⟩ := List.exists_cons_of_ne_nil hne
  exact List.cons_ne_nil _ _

/-- A line under an indent: nothing is put in front of a blank line. -/
def indentLine (indent line : Text) : Text :=
  if Text.isAllBlank line then line else indent ++ line

/-- Lines as a text, in which one line feed stands for the blank lines at the end.  The first
line is kept. -/
def settle : List Text → Text
  | [] => []
  | first :: rest =>
    let kept := rest.rdropWhile Text.isAllBlank
    Text.join ['\n'] (first :: kept) ++ if kept = rest then [] else ['\n']

/-- Fragments as one text, before its lines are indented and blank lines at the end dropped. -/
def ruledMessage (indent : Text) (fragments : List (Text × Placement)) : Ruled :=
  Ruled.stack ((groups (pieces indent [] fragments)).map ruledGroup)

/-- **The layout** of fragments as a message. -/
def layout (indent : Text) (fragments : List (Text × Placement)) : Text :=
  let r := ruledMessage indent fragments
  settle (List.zipWith indentLine r.indents (Text.lines r.text))

/-- Lines are the same, or nothing can be seen on either. -/
def SameLine (l l' : Text) : Prop :=
  l = l' ∨ (Text.isAllBlank l = true ∧ Text.isAllBlank l' = true)

/-! ## 3. What a sheet shows -/

namespace Sheet

/-- A sheet with the lines of a text, under their indents.  Its current line is free for a block
fragment or not. -/
structure Shows (s : Sheet) (r : Ruled) (free : Bool) : Prop where
  contents : s.lines.reverse.map Line.content = Text.lines r.text
  indents : s.lines.reverse.map Line.indent = r.indents
  free : ∀ l ∈ s.lines.head?, l.isFree = free

theorem Shows.lines_ne_nil {s : Sheet} {r : Ruled} {free : Bool} (h : s.Shows r free) :
    s.lines ≠ [] := by
  intro hnil
  have hcontents := h.contents
  rw [hnil] at hcontents
  exact Text.lines_ne_nil r.text hcontents.symm

/-- **Writing a text** adds it to what is shown, under the indent of the sheet.  If the current
line was free because `u` ends a line, it now is if `u ++ t` does. -/
theorem Shows.write {s : Sheet} {r : Ruled} {u : Text} (h : s.Shows r (Text.endsLine u))
    (t : Text) :
    (s.write t).Shows (r ++ ⟨t, List.replicate (t.count '\n') s.indent⟩)
      (Text.endsLine (u ++ t)) := by
  obtain ⟨l, ls, hs⟩ := List.exists_cons_of_ne_nil h.lines_ne_nil
  obtain ⟨piece, pieces, ht⟩ := Text.exists_lines_eq_cons t
  obtain ⟨hcontents, hindents, hfree⟩ := h
  rw [hs, List.reverse_cons, List.map_append, List.map_singleton] at hcontents hindents
  have hlines : ((pieces.map (Line.begin s.indent)).reverse ++ l.extend piece :: ls).reverse =
      ls.reverse ++ l.extend piece :: pieces.map (Line.begin s.indent) := by
    rw [List.reverse_append, List.reverse_reverse, List.reverse_cons, List.append_assoc,
      List.singleton_append]
  have hcount : pieces.length = t.count '\n' := by
    have hlength := Text.length_lines t
    rw [ht, List.length_cons] at hlength
    exact Nat.succ.inj hlength
  rw [write_eq hs ht]
  refine ⟨?_, ?_, ?_⟩
  · have hpieces : (pieces.map (Line.begin s.indent)).map Line.content = pieces := by
      rw [List.map_map]
      exact List.map_id pieces
    rw [hlines, Ruled.text_append, Text.lines_append hcontents.symm ht, List.map_append,
      List.map_cons, hpieces]
    rfl
  · have hpieces : (pieces.map (Line.begin s.indent)).map Line.indent =
        List.replicate (t.count '\n') s.indent := by
      rw [List.map_map, ← hcount]
      exact List.map_const'
    rw [hlines, Ruled.indents_append, ← hindents, List.map_append, List.map_cons, hpieces,
      List.append_assoc]
    rfl
  · intro l' hl'
    rw [Text.endsLine_append]
    rcases pieces.eq_nil_or_concat with rfl | ⟨init, last, rfl⟩
    · -- Without a line feed the current line goes on, and stays free only if nothing is written.
      cases hl'
      have htext : t = piece := by rw [← Text.join_lines t, ht]; rfl
      rw [Line.isFree_extend, hfree l (by rw [hs]; rfl), htext]
      cases piece with
      | nil => exact Bool.and_true _
      | cons c piece =>
        rw [← htext, Text.endsLine_of_lines_eq_singleton ht, htext]
        exact Bool.and_false _
    · -- The current line is now the last line of the text.
      rw [List.concat_eq_append] at ht hl'
      rw [List.map_append, List.map_singleton, List.reverse_append, List.reverse_singleton] at hl'
      cases hl'
      have hends : Text.endsLine t = last.isEmpty :=
        Text.endsLine_of_lines_eq_append (List.cons_ne_nil piece init) ht
      cases t with
      | nil => exact absurd (congrArg List.length ht) (by simp)
      | cons c t => rw [Line.isFree_begin, ← hends]; rfl

/-- An empty line that is free is left to a block fragment. -/
theorem Shows.startBlock_of_free {s : Sheet} {r : Ruled} {indent : Text}
    (h : s.Shows (r ++ ⟨[], [indent]⟩) true) :
    s.startBlock.Shows (r ++ ⟨[], [s.indent]⟩) false := by
  obtain ⟨l, ls, hs⟩ := List.exists_cons_of_ne_nil h.lines_ne_nil
  obtain ⟨hcontents, hindents, hfree⟩ := h
  have hl : (l.isOpen && l.content.isEmpty) = true := hfree l (by rw [hs]; rfl)
  have hempty : l.content = [] := List.isEmpty_iff.mp (Bool.and_eq_true_iff.mp hl).2
  rw [hs, List.reverse_cons, List.map_append, List.map_singleton] at hcontents hindents
  unfold startBlock
  rw [hs]
  dsimp only
  rw [if_pos hl]
  refine ⟨?_, ?_, ?_⟩
  · rw [List.reverse_cons, List.map_append, List.map_singleton]
    rw [hempty] at hcontents
    exact hcontents
  · rw [List.reverse_cons, List.map_append, List.map_singleton, (List.append_inj' hindents rfl).1]
    rfl
  · intro l' hl'
    cases hl'
    rfl

/-- Otherwise a block fragment has a new line. -/
theorem Shows.startBlock_of_not_free {s : Sheet} {r : Ruled} (h : s.Shows r false) :
    s.startBlock.Shows (r ++ ⟨['\n'], [s.indent]⟩) false := by
  obtain ⟨l, ls, hs⟩ := List.exists_cons_of_ne_nil h.lines_ne_nil
  obtain ⟨hcontents, hindents, hfree⟩ := h
  have hl : (l.isOpen && l.content.isEmpty) = false := hfree l (by rw [hs]; rfl)
  unfold startBlock
  rw [hs] at hcontents hindents ⊢
  dsimp only
  rw [if_neg (Bool.eq_false_iff.mp hl)]
  refine ⟨?_, ?_, ?_⟩
  · rw [List.reverse_cons, List.map_append, List.map_singleton, hcontents, Ruled.text_append,
      Text.lines_append_cons]
    rfl
  · rw [List.reverse_cons, List.map_append, List.map_singleton, hindents]
    rfl
  · intro l' hl'
    cases hl'
    rfl

/-- **A block fragment on a stack** brings the last text of the stack behind a line feed. -/
theorem Shows.startBlock {s : Sheet} {rs : List Ruled} {r : Ruled} (hne : r.indents ≠ [])
    (h : s.Shows (Ruled.stack (rs ++ [r])) (Text.endsLine r.text)) :
    s.startBlock.Shows (Ruled.stack (rs ++ [r.close]) ++ ⟨[], [s.indent]⟩) false := by
  cases hends : Text.endsLine r.text with
  | true =>
    have hr : r = r.close ++ ⟨[], [r.indents.getLast hne]⟩ := by
      rw [Ruled.close, if_pos hends]
      change r = Ruled.mk (r.text ++ []) (r.indents.dropLast ++ [r.indents.getLast hne])
      rw [List.append_nil, List.dropLast_append_getLast]
    rw [hends, hr, Ruled.stack_append_append] at h
    exact h.startBlock_of_free
  | false =>
    have hr : r.close = r ++ ⟨['\n'], []⟩ := by
      rw [Ruled.close, if_neg (Bool.eq_false_iff.mp hends)]
      change _ = Ruled.mk (r.text ++ ['\n']) (r.indents ++ [])
      rw [List.append_nil]
    rw [hends] at h
    rw [hr, Ruled.stack_append_append, Ruled.append_assoc]
    exact h.startBlock_of_not_free

/-- A line for a fragment of some placement. -/
def prepare (s : Sheet) : Placement → Sheet
  | .inline => s.start
  | .block => s.startBlock

theorem place_eq (base : Text) (s : Sheet) (f : Text × Placement) :
    s.place base f =
      { (s.prepare f.2).write (cut f).1 with
        indent := ((cut f).2.map (base ++ ·)).getD s.indent } := by
  rcases f with ⟨t, placement⟩
  cases placement with
  | inline =>
    have hindent : (s.start.write t).indent = s.indent := by rw [indent_write, indent_start]
    change s.start.write t = ⟨s.indent, (s.start.write t).lines⟩
    rw [← hindent]
  | block =>
    have hindent : (s.startBlock.write (splitTrailingIndent t).1).indent = s.indent := by
      rw [indent_write, indent_startBlock]
    simp only [place, cut, prepare]
    cases (splitTrailingIndent t).2 with
    | none =>
      rw [Option.map_none, Option.getD_none, ← hindent]
    | some run => rfl

theorem indent_prepare (s : Sheet) (placement : Placement) :
    (s.prepare placement).indent = s.indent := by
  cases placement with
  | inline => exact indent_start s
  | block => exact indent_startBlock s

/-- The first line of a sheet. -/
theorem shows_prepare_of_nil {s : Sheet} (h : s.lines = []) (placement : Placement) :
    (s.prepare placement).Shows ⟨[], [s.indent]⟩ false := by
  have hfirst : s.prepare placement = { s with lines := [⟨s.indent, [], false⟩] } := by
    cases placement with
    | inline => rw [prepare, start, h]
    | block => rw [prepare, Sheet.startBlock, h]
  rw [hfirst]
  exact ⟨rfl, rfl, fun l hl => by cases hl; rfl⟩

/-! ## 4. Fragment by fragment -/

/-- A sheet on which fragments were placed: it shows the stack of their groups, and its current
line is free if the last group ends a line. -/
structure Laid (base : Text) (fs : List (Text × Placement)) (s : Sheet) : Prop where
  indent : s.indent = base ++ latestCut fs
  lines : fs = [] → s.lines = []
  shows : ∀ gs g, groups (pieces base [] fs) = gs ++ [g] →
    s.Shows (Ruled.stack (gs.map ruledGroup ++ [ruledGroup g])) (Text.endsLine (ruledGroup g).text)

theorem laid_blank (base : Text) : Laid base [] (blank base) := by
  refine ⟨(List.append_nil base).symm, fun _ => rfl, fun gs g hgroups => ?_⟩
  exact absurd hgroups.symm (by simp [pieces, groups])

/-- **Placing a fragment** keeps a sheet laid out. -/
theorem Laid.place {base : Text} {fs : List (Text × Placement)} {s : Sheet}
    (h : Laid base fs s) (f : Text × Placement) : Laid base (fs ++ [f]) (s.place base f) := by
  let p : Piece := ⟨(cut f).1, f.2, s.indent⟩
  have hpieces : pieces base [] (fs ++ [f]) = pieces base [] fs ++ [p] := by
    rw [pieces_append, List.nil_append, ← h.indent]
  suffices hshows : ∀ gs g, groups (pieces base [] fs ++ [p]) = gs ++ [g] →
      ((s.prepare p.placement).write p.text).Shows
        (Ruled.stack (gs.map ruledGroup ++ [ruledGroup g]))
        (Text.endsLine (ruledGroup g).text) by
    rw [place_eq]
    refine ⟨?_, fun hnil => absurd hnil (by simp), fun gs g hgroups => ?_⟩
    · rw [latestCut_append]
      cases (cut f).2 with
      | none => exact h.indent
      | some run => rfl
    · obtain ⟨hcontents, hindents, hfree⟩ := hshows gs g (hpieces ▸ hgroups)
      exact ⟨hcontents, hindents, hfree⟩
  intro gs g hgroups
  rcases (groups (pieces base [] fs)).eq_nil_or_concat with hnil | ⟨gs', g', hgroups'⟩
  · -- The first fragment begins a group, whatever its placement.
    have hps : pieces base [] fs = [] := List.splitBy_eq_nil.mp hnil
    have hfs : fs = [] := by
      cases fs with
      | nil => rfl
      | cons f' fs => exact absurd hps (List.cons_ne_nil _ _)
    have hfirst : [] ++ [[p]] = gs ++ [g] := by rw [← hgroups, hps]; rfl
    obtain ⟨rfl, hg⟩ := List.append_inj' hfirst rfl
    cases hg
    have hwrite := (shows_prepare_of_nil (h.lines hfs) p.placement).write (u := []) p.text
    rw [indent_prepare] at hwrite
    rw [ruledGroup_singleton]
    exact hwrite
  · rw [List.concat_eq_append] at hgroups'
    have hbefore := h.shows gs' g' hgroups'
    have hne : g' ≠ [] := by
      rintro rfl
      exact List.nil_notMem_splitBy _ _ (hgroups' ▸ List.mem_append_right gs' List.mem_cons_self)
    cases hplacement : p.placement with
    | block =>
      -- A new group: the text of the one before it is brought behind a line feed.
      rw [groups_append_block _ hplacement, hgroups'] at hgroups
      obtain ⟨rfl, hg⟩ := List.append_inj' hgroups rfl
      cases hg
      have hwrite := (hbefore.startBlock (ruledGroup_indents_ne_nil hne)).write (u := []) p.text
      rw [indent_startBlock] at hwrite
      rw [List.map_append, List.map_singleton, Ruled.stack_append_pair, ruledGroup_singleton,
        ← Ruled.append_assoc]
      exact hwrite
    | inline =>
      -- The group goes on, and the sheet has a current line already.
      rw [groups_append_inline hgroups' hplacement] at hgroups
      obtain ⟨rfl, hg⟩ := List.append_inj' hgroups rfl
      cases hg
      have hstart : s.start = s := by
        obtain ⟨l, ls, hs⟩ := List.exists_cons_of_ne_nil hbefore.lines_ne_nil
        rw [start, hs]
      have hwrite := hbefore.write p.text
      rw [ruledGroup_append hne, Ruled.stack_append_append, prepare, hstart]
      exact hwrite

/-- **Placing fragments** one after the other lays them out. -/
theorem laid_foldl_place (base : Text) (fs : List (Text × Placement)) :
    Laid base fs (fs.foldl (place base) (blank base)) := by
  suffices hrun : ∀ before s, Laid base before s →
      Laid base (before ++ fs) (fs.foldl (Sheet.place base) s) from hrun [] _ (laid_blank base)
  induction fs with
  | nil =>
    intro before s h
    rw [List.append_nil]
    exact h
  | cons f fs ih =>
    intro before s h
    have hrest := ih (before ++ [f]) _ (h.place f)
    rw [List.append_assoc, List.singleton_append] at hrest
    exact hrest

end Sheet

/-! ## 5. The finished message -/

/-- Fragments placed one after the other show their text before its lines are indented. -/
theorem exists_shows (indent : Text) {fs : List (Text × Placement)} (h : fs ≠ []) :
    ∃ free, (fs.foldl (Sheet.place indent) (Sheet.blank indent)).Shows (ruledMessage indent fs)
      free := by
  obtain ⟨f, fs', rfl⟩ := List.exists_cons_of_ne_nil h
  have hne : groups (pieces indent [] (f :: fs')) ≠ [] := fun hnil =>
    absurd (List.splitBy_eq_nil.mp hnil) (List.cons_ne_nil _ _)
  obtain ⟨gs, g, hgroups⟩ := (List.eq_nil_or_concat _).resolve_left hne
  rw [List.concat_eq_append] at hgroups
  have hshows := (Sheet.laid_foldl_place indent (f :: fs')).shows gs g hgroups
  rw [← List.map_singleton, ← List.map_append, ← hgroups] at hshows
  exact ⟨_, hshows⟩

theorem indentLine_sameLine {l : Line} (h : l.indent.all isIndentChar = true) :
    SameLine l.text (indentLine l.indent l.content) := by
  unfold indentLine
  split
  · next hblank => exact .inr ⟨(Line.isAllBlank_text h).trans hblank, hblank⟩
  · next hink =>
    have hne : ¬ l.content.isEmpty = true := fun hempty =>
      hink (by rw [List.isEmpty_iff.mp hempty]; rfl)
    exact .inl (if_neg hne)

theorem isAllBlank_indentLine (indent line : Text) :
    Text.isAllBlank (indentLine indent line) = Text.isAllBlank line := by
  unfold indentLine
  split
  · rfl
  · next hink =>
    rw [Text.isAllBlank, List.all_append, ← Text.isAllBlank, ← Text.isAllBlank,
      Bool.eq_false_iff.mpr hink, Bool.and_false]

/-- The text of a line under its indent. -/
def Line.indented (l : Line) : Text := indentLine l.indent l.content

theorem isAllBlank_indented (l : Line) : Text.isAllBlank l.indented = l.isBlank :=
  isAllBlank_indentLine l.indent l.content

theorem not_mem_text {l : Line} (h : l.indent.all isIndentChar = true)
    (hcontent : '\n' ∉ l.content) : '\n' ∉ l.text ∧ '\n' ∉ l.indented := by
  refine ⟨not_mem_indentText h hcontent, ?_⟩
  unfold Line.indented indentLine
  split
  · exact hcontent
  · intro hmem
    exact (List.mem_append.mp hmem).elim (not_mem_of_all_isIndentChar h) hcontent

/-- Blank lines at the end are found by what the texts of the lines are made from. -/
theorem rdropWhile_map {α β : Type} {p : α → Bool} {q : β → Bool} {f : α → β} {as : List α}
    (h : ∀ a ∈ as, q (f a) = p a) : (as.map f).rdropWhile q = (as.rdropWhile p).map f := by
  induction as using List.reverseRecOn with
  | nil => rfl
  | append_singleton as a ih =>
    rw [List.forall_mem_append, List.forall_mem_singleton] at h
    rw [List.map_append, List.map_singleton, List.rdropWhile_concat, List.rdropWhile_concat, h.2]
    split
    · exact ih h.1
    · rw [List.map_append, List.map_singleton]

/-- What is made of them shows whether any were dropped. -/
theorem map_rdropWhile_eq_iff {α β : Type} {p : α → Bool} {f : α → β} {as : List α} :
    (as.rdropWhile p).map f = as.map f ↔ as.rdropWhile p = as := by
  constructor
  · intro h
    have hlength := congrArg List.length h
    rw [List.length_map, List.length_map] at hlength
    exact (List.rdropWhile_prefix p as).eq_of_length hlength
  · intro h
    rw [h]

/-- **Settling the texts of some things** drops those at the end whose texts are blank. -/
theorem settle_map {α : Type} [DecidableEq α] {f : α → Text} {p : α → Bool} {first : α}
    {rest : List α}
    (h : ∀ a ∈ rest, Text.isAllBlank (f a) = p a) :
    settle ((first :: rest).map f) =
      Text.join ['\n'] ((first :: rest.rdropWhile p).map f) ++
        if rest.rdropWhile p = rest then [] else ['\n'] := by
  rw [List.map_cons, settle, List.map_cons]
  simp only [rdropWhile_map h, map_rdropWhile_eq_iff]

theorem lines_join_append_ite {ls : List Text} (hne : ls ≠ []) (h : ∀ l ∈ ls, '\n' ∉ l)
    (whole : Prop) [Decidable whole] :
    Text.lines (Text.join ['\n'] ls ++ if whole then [] else ['\n']) =
      ls ++ if whole then [] else [[]] := by
  split
  · rw [List.append_nil, List.append_nil, Text.lines_join hne h]
  · exact Text.lines_join_append hne h

/-- A sheet under blank indents is finished like the text that it shows. -/
theorem finish_settle {s : Sheet} {r : Ruled} {free : Bool} (h : s.Shows r free)
    (hblank : s.Blank) :
    List.Forall₂ SameLine (Text.lines s.finish)
      (Text.lines (settle (List.zipWith indentLine r.indents (Text.lines r.text)))) := by
  obtain ⟨first, rest, hs⟩ := List.exists_cons_of_ne_nil
    (List.reverse_ne_nil_iff.mpr h.lines_ne_nil)
  have hruled : List.zipWith indentLine r.indents (Text.lines r.text) =
      (first :: rest).map Line.indented := by
    rw [← h.contents, ← h.indents, hs, List.zipWith_map, List.zipWith_self]
    rfl
  have hindents : ∀ l ∈ first :: rest, l.indent.all isIndentChar = true := fun l hl =>
    hblank.lines l (List.mem_reverse.mp (hs ▸ hl))
  have hcontents : ∀ l ∈ first :: rest, '\n' ∉ l.content := fun l hl =>
    Text.not_mem_of_mem_lines (h.contents ▸ List.mem_map_of_mem (hs ▸ hl))
  have hkept : ∀ l ∈ first :: rest.rdropWhile Line.isBlank, l ∈ first :: rest := fun l hl =>
    (List.cons_sublist_cons.mpr (List.rdropWhile_prefix Line.isBlank rest).sublist).mem hl
  have hne (f : Line → Text) : (first :: rest.rdropWhile Line.isBlank).map f ≠ [] :=
    List.cons_ne_nil _ _
  rw [hruled, settle_map fun l _ => isAllBlank_indented l, Sheet.finish_eq hs,
    lines_join_append_ite (hne Line.text), lines_join_append_ite (hne Line.indented)]
  · refine List.rel_append ?_ (List.forall₂_same.mpr fun l _ => .inl rfl)
    rw [List.forall₂_map_left_iff, List.forall₂_map_right_iff, List.forall₂_same]
    exact fun l hl => indentLine_sameLine (hindents l (hkept l hl))
  · intro t ht
    obtain ⟨l, hl, rfl⟩ := List.mem_map.mp ht
    exact (not_mem_text (hindents l (hkept l hl)) (hcontents l (hkept l hl))).2
  · intro t ht
    obtain ⟨l, hl, rfl⟩ := List.mem_map.mp ht
    exact (not_mem_text (hindents l (hkept l hl)) (hcontents l (hkept l hl))).1

/-- **Assembling a message lays it out**: line by line the result is the layout of the fragments,
apart from what cannot be seen on blank lines. -/
theorem compose_layout (indent : Indent) (fragments : List (Text × Placement)) :
    List.Forall₂ SameLine (Text.lines (compose indent fragments))
      (Text.lines (layout indent.text fragments)) := by
  rcases eq_or_ne fragments [] with rfl | hne
  · exact List.forall₂_same.mpr fun l _ => .inl rfl
  · obtain ⟨free, hshows⟩ := exists_shows indent.text hne
    exact finish_settle hshows (Sheet.blank_foldl_place indent fragments)

/-- The empty line that a fragment ends in is used up, and gets the indent that was cut off. -/
example :
    compose Indent.none [("Files:\n  ".toList, .block), ("a\n".toList, .block),
      ("b".toList, .block)] = "Files:\n  a\n  b".toList := by decide

end Assembly

end Phrasing
