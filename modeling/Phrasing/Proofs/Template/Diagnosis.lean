/-
# Where an expression goes wrong

A text that is no expression is reported with the offset at which reading it came to an end.  What
is in front of that offset can be gone on with to an expression (`Viable`), and together with the
character at the offset it cannot: the offset is that of the first character that is out of place
(`exists_misplaced`).  If there is no character, the text just ends too soon (`Unfinished`).

The minus sign of an index is the exception (`LoneMinus`): it is blamed where no digit follows, and
not the character behind it, although the index could have been gone on with.
-/
import Phrasing.Proofs.Template.Finding

namespace Phrasing

namespace Path

open Text

/-! ## 1. Texts that can be gone on with -/

/-- A text that can be gone on with to an expression. -/
def Viable (t : Text) : Prop := ∃ more start p, parse start (t ++ more) = .ok p

/-- A text that is no expression yet. -/
def Unfinished (t : Text) : Prop := Viable t ∧ ∀ start p, parse start t ≠ .ok p

/-- Behind the first `k` characters, a minus sign opens an index, and no digit follows it. -/
def LoneMinus (t : Text) (k : Nat) : Prop :=
  ∃ (s : Stem) (before : Blanks) (u : Text),
    BareMinus u ∧ t = s.text ++ '[' :: before.1 ++ u ∧ (s.text ++ '[' :: before.1).length = k

theorem viable_iff {t : Text} :
    Viable t ↔ ∃ x : Derivation, (∀ s ∈ x.steps, ¬ s.IsLong) ∧ t <+: x.text := by
  constructor
  · rintro ⟨more, start, p, h⟩
    obtain ⟨hshort, x, hx, -⟩ := read_eq_ok_iff.mp (parse_eq_ok.mp h)
    refine ⟨x, fun s hmem hs => hshort (hx ▸ longIndex_text hmem hs), ?_⟩
    rw [hx]
    exact List.prefix_append _ _
  · rintro ⟨x, hshort, more, hx⟩
    refine ⟨more, .start, x.path 0, parse_eq_ok.mpr ?_⟩
    rw [hx]
    exact read_text x hshort _

theorem LongIndex.mono {t t' : Text} (h : LongIndex t) (ht : t <+: t') : LongIndex t' := by
  obtain ⟨s, n, hn, hprefix⟩ := h
  exact ⟨s, n, hn, hprefix.trans ht⟩

/-- What is derived without a style and without white space at the end. -/
def Stem.whole (s : Stem) : Derivation := ⟨s, none, noBlanks⟩

theorem Stem.text_whole (s : Stem) : s.whole.text = s.text := List.append_nil _

/-- White space can be gone on with. -/
theorem viable_blanks (before : Blanks) : Viable before.1 := by
  refine viable_iff.mpr ⟨Stem.whole ⟨before, underscore, []⟩, List.forall_mem_nil _, ?_⟩
  rw [Stem.text_whole]
  exact List.prefix_append _ _

/-- A minus sign that opens an index can be gone on with. -/
theorem LoneMinus.viable {t : Text} {k : Nat} (hlong : ¬ LongIndex t) (h : LoneMinus t k) :
    Viable (t.take (k + 1)) := by
  obtain ⟨s, before, u, ⟨rest, rfl, -⟩, rfl, rfl⟩ := h
  have hshort (step : Step) (hmem : step ∈ s.steps) : ¬ step.IsLong := fun hstep => by
    refine hlong ((longIndex_text (x := s.whole) hmem hstep).mono ?_)
    rw [Stem.text_whole, List.append_assoc]
    exact List.prefix_append _ _
  let index := Step.index (zero before true)
  let x := Stem.whole ⟨s.before, s.base, s.steps ++ [index]⟩
  have htext : x.text = s.text ++ '[' :: before.1 ++ ['-'] ++ ['0', ']'] := by
    simp [x, index, Stem.text_whole, Stem.text, rowText, Step.text, Numeral.text, zero, sign]
  refine viable_iff.mpr ⟨x, ?_, ?_⟩
  · refine List.forall_mem_append.mpr ⟨hshort, List.forall_mem_singleton.mpr ?_⟩
    exact not_isLong_zero before true
  · rw [List.take_length_add_append, List.take_succ_cons, List.take_zero, htext]
    exact List.prefix_append _ _

/-! ## 2. What is known of a text that is refused -/

/-- What is wrong where there is no name: nothing is there, or something else. -/
def noName (t : Text) : PathFault := if t.isEmpty then .empty else .noIdentifier

/-- At the front of an expression, a name is missing. -/
theorem finds_read_noName (before : Blanks) {u : Text} (hblank : Stops isBlank u)
    (hname : readName u = none) (offset : Nat) : Finds (read offset) (noName u) before.1 u := by
  intro v hv
  rw [read, trimStart_append before (hblank.of_head? hv)]
  cases v with
  | nil =>
    cases List.head?_eq_none_iff.mp hv.symm
    rfl
  | cons c v =>
    obtain ⟨u, rfl⟩ := List.head?_eq_some_iff.mp hv.symm
    have hnone := readName_eq_none_of_head? hname hv
    dsimp only [List.isEmpty_cons]
    rw [hnone]
    rfl

/-- What is known of a text that goes wrong at `u`. -/
def ReadFault (f : PathFault) (t u : Text) : Prop :=
  ∃ front, t = front ++ u ∧ (HasLongIndex front ∨ Viable front) ∧
    ((∀ offset, Finds (read offset) f front u) ∨
      ∃ (s : Stem) (before : Blanks), front = s.text ++ '[' :: before.1 ∧ BareMinus u)

/-- A fault behind the name is one of the expression. -/
theorem BehindFault.stem (base : Name) {f : PathFault} {t u : Text}
    (h : BehindFault base.1 f t u) (hname : Stops isNameChar t) (before : Blanks) :
    ReadFault f (before.1 ++ (base.1 ++ t)) u := by
  obtain ⟨front, rfl, ⟨row, style, after, hprefix, hshort⟩, hfinds⟩ := h
  refine ⟨before.1 ++ (base.1 ++ front), by simp only [List.append_assoc], ?_, ?_⟩
  · rcases hshort with hlong | hshort
    · exact .inl (hlong.mono (List.suffix_append_of_suffix (List.suffix_append _ _)).isInfix)
    · refine .inr (viable_iff.mpr ⟨⟨⟨before, base, row⟩, style, after⟩, hshort, ?_⟩)
      simp only [Derivation.text, Stem.text, List.append_assoc]
      exact (List.prefix_append_right_inj _).mpr ((List.prefix_append_right_inj _).mpr hprefix)
  · refine hfinds.imp (fun hfinds offset => Finds.stem hname hfinds before offset) ?_
    rintro ⟨row', before', rfl, hminus⟩
    refine ⟨⟨before, base, row'⟩, before', ?_, hminus⟩
    simp only [Stem.text, List.append_assoc]

/-- **Reading an expression goes wrong** at a character that is blamed whatever follows it, or at a
minus sign without a digit. -/
theorem readFault {offset : Nat} {t u : Text} {f : PathFault}
    (h : read offset t = .error (.fault f u)) : ReadFault f t u := by
  have hspace := front_append_trimStart t
  have hblank : Stops isBlank (trimStart t) := stops_dropWhile isBlank t
  cases hname : readName (trimStart t) with
  | none =>
    have hfinds (offset : Nat) := finds_read_noName (front t) hblank hname offset
    have hread := hfinds offset (trimStart t) rfl
    rw [hspace, h] at hread
    cases hread
    exact ⟨(front t).1, hspace.symm, .inr (viable_blanks (front t)), .inl hfinds⟩
  | some q =>
    obtain ⟨base, rest⟩ := q
    have hstops := stops_of_readName hname
    obtain ⟨hspelled, hinner⟩ := readName_eq_some hname
    rw [hinner] at hspace
    rw [← hspace, read_stem offset (front t) ⟨base, hspelled⟩ hstops] at h
    rw [← hspace]
    exact (behindFault h).stem ⟨base, hspelled⟩ hstops (front t)

/-! ## 3. The offset of an error -/

theorem not_parse_of_not_derived {t : Text} (h : ∀ x : Derivation, x.text ≠ t)
    (start : Position) (p : Path) : parse start t ≠ .ok p := fun hok => by
  obtain ⟨-, x, hx, -⟩ := read_eq_ok_iff.mp (parse_eq_ok.mp hok)
  exact h x hx

/-- **An error in an expression is at the first character that is out of place**, which is the one
at some place `k` of its text.

* What is in front of it can be gone on with to an expression, if no index there has too many
  digits.
* If there is none, the text is no expression yet.
* If there is one, no expression starts with the text up to and with it, except for a minus sign
  that opens an index and has no digit behind it. -/
theorem exists_misplaced {start : Position} {t : Text} {e : TemplateError}
    (h : parse start t = .error (.error e)) :
    ∃ k ≤ t.length, e.offset = start.offset + k ∧
      (¬ HasLongIndex (t.take k) → Viable (t.take k)) ∧
      (k = t.length → ¬ HasLongIndex t → Unfinished t) ∧
      (k < t.length → (Viable (t.take (k + 1)) ↔ LoneMinus t k)) := by
  obtain ⟨⟨f, u, hread⟩, -⟩ := parse_eq_error h
  obtain ⟨hshort, hnone⟩ := exists_fault_iff.mp ⟨f, u, hread⟩
  obtain ⟨front, rfl, hviable, hfinds⟩ := readFault hread
  have htake : (front ++ u).take front.length = front := List.take_left' rfl
  refine ⟨front.length, ?_, ?_, fun hlong => ?_, fun hend hlong => ?_, fun hbehind => ⟨?_, ?_⟩⟩
  · rw [List.length_append]
    exact Nat.le_add_right _ _
  · rw [parse, hread] at h
    cases h
    rw [Position.advance_offset, List.length_append, Nat.add_sub_cancel, htake, Int.natCast_add]
  · rw [htake] at hlong ⊢
    exact hviable.resolve_left hlong
  · have hu : u = [] := List.length_eq_zero_iff.mp
      (Nat.left_eq_add.mp (hend.trans List.length_append))
    subst hu
    rw [List.append_nil] at hlong hnone ⊢
    exact ⟨hviable.resolve_left hlong, not_parse_of_not_derived hnone⟩
  · intro hgoes
    rcases hfinds with hfinds | ⟨s, before, rfl, hminus⟩
    -- The expression that goes on with the character is refused where the text is.
    · obtain ⟨c, more, rfl⟩ := List.exists_cons_of_length_pos
        (Nat.pos_of_lt_add_right (List.length_append ▸ hbehind))
      obtain ⟨more', start', p, hok⟩ := hgoes
      have hfault := hfinds start'.offset (c :: more') rfl
      rw [List.take_length_add_append, List.take_succ_cons, List.take_zero, List.append_assoc,
        List.singleton_append, parse_eq_ok, hfault] at hok
      cases hok
    · exact ⟨s, before, u, hminus, rfl, rfl⟩
  · exact LoneMinus.viable hshort

/-- A minus sign that is blamed although it can be gone on with. -/
theorem exists_misplaced_minus :
    let t := ['a', '[', '-', 'x', ']']
    let e : TemplateError := ⟨2, t, .grammar 1 3 (.malformed "expected integer index")⟩
    parse .start t = .error (.error e) ∧
      ∃ k ≤ t.length, e.offset = Position.start.offset + k ∧
        (¬ HasLongIndex (t.take k) → Viable (t.take k)) ∧
        (k = t.length → ¬ HasLongIndex t → Unfinished t) ∧
        (k < t.length → (Viable (t.take (k + 1)) ↔ LoneMinus t k)) := by
  intro t e
  have hrow : readAccessors 5 ['[', '-', 'x', ']'] = .error (.fault .noIndex ['-', 'x', ']']) :=
    readAccessors_of_readIndex rfl 5
  have hread : read 0 t = .error (.fault .noIndex ['-', 'x', ']']) :=
    bind_eq_error.mpr (.inl hrow)
  have h : parse .start t = .error (.error e) := by
    rw [parse, show Position.start.offset = 0 from rfl, hread]
    rfl
  exact ⟨h, exists_misplaced h⟩

end Path

end Phrasing
