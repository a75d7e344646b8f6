/-
# Reading expressions

A path is read from a text if and only if the text can be derived from the grammar of expressions,
and then it is the path of the derivation (`parse_grammar`).  The only texts for which this fails
have an index of too many digits (`LongIndex`): reading gives up when it comes to one.

Either direction goes along the parts of an expression.  A part that is written in front of a text
is read and leaves the text, if the text does not continue the part (`readName_append`,
`readIndex_append`, `readAccessors_row`); and what is read was written in front of what is left
(`exists_row_of_readAccessors`).
-/
import Phrasing.Proofs.Template.Grammar

namespace Phrasing

namespace Path

open Text

/-! ## 1. Names and numbers -/

theorem trimStart_append (b : Blanks) {t : Text} (ht : Stops isBlank t) :
    trimStart (b.1 ++ t) = t :=
  (takeWhile_append_of_stops b.2 ht).2

theorem trimStart_blanks (b : Blanks) : trimStart b.1 = [] := by
  simpa using trimStart_append b (stops_nil isBlank)

/-- The white space in front of a text. -/
def front (t : Text) : Blanks := ⟨t.takeWhile isBlank, List.all_takeWhile⟩

theorem front_append_trimStart (t : Text) : (front t).1 ++ trimStart t = t :=
  List.takeWhile_append_dropWhile

theorem readName_append (name : Name) {t : Text} (ht : Stops isNameChar t) :
    readName (name.1 ++ t) = some (name.1, t) := by
  obtain ⟨s, hs⟩ := name
  cases s with
  | nil => exact hs.elim
  | cons c s =>
    obtain ⟨htake, hdrop⟩ := takeWhile_append_of_stops hs.2 ht
    simp only [List.cons_append, readName, hs.1, if_true, htake, hdrop]

theorem readMinus_append (negative : Bool) {t : Text} (ht : Stops (· == '-') t) :
    readMinus (sign negative ++ t) = (negative, t) := by
  cases negative with
  | true => rfl
  | false =>
    rw [sign, if_neg Bool.false_ne_true, List.nil_append]
    unfold readMinus
    split
    · cases stops_cons.mp ht
    · rfl

/-- **An index is read** up to its closing bracket, unless it has too many digits. -/
theorem readIndex_append (n : Numeral) (t : Text) :
    readIndex (n.text ++ ']' :: t) =
      if n.IsLong then .error (.number (.tooLongToRead n.digits.length)) else .ok (n.value, t) := by
  have hspace : trimStart (n.text ++ ']' :: t) =
      sign n.negative ++ (n.digits ++ (n.after.1 ++ ']' :: t)) := by
    simp only [Numeral.text, List.append_assoc]
    exact trimStart_append n.before (n.stops_isBlank_sign _)
  obtain ⟨htake, hdrop⟩ := takeWhile_append_of_stops n.all_digits (n.stops_isAsciiDigit_after t)
  obtain ⟨c, ds, hdigits⟩ := List.exists_cons_of_ne_nil n.digits_ne_nil
  simp only [readIndex, hspace, readMinus_append n.negative (n.stops_minus_digits _), htake, hdrop,
    trimStart_append n.after (Numeral.stops_isBlank_bracket t)]
  rw [hdigits]
  simp only [Numeral.IsLong, Numeral.value, hdigits]

/-- Where no index stands at the front of a text, its syntax is at fault. -/
theorem exists_numeral_of_readIndex (t : Text) :
    (∃ f unread, readIndex t = .error (.fault f unread)) ∨
      ∃ (n : Numeral) (rest : Text), t = n.text ++ ']' :: rest := by
  generalize hread : readIndex t = outcome
  have hspace := front_append_trimStart t
  have hsign := sign_append_readMinus (trimStart t)
  simp only [readIndex] at hread
  generalize (readMinus (trimStart t)).1 = negative at hread hsign
  generalize (readMinus (trimStart t)).2 = body at hread hsign
  have hnumber : body.takeWhile isAsciiDigit ++ body.dropWhile isAsciiDigit = body :=
    List.takeWhile_append_dropWhile
  have hend := front_append_trimStart (body.dropWhile isAsciiDigit)
  split at hread
  · exact .inl ⟨_, _, hread.symm⟩
  · next hdigits =>
    split at hread
    · next rest hclosing =>
      rw [hclosing] at hend
      refine .inr ⟨⟨front t, negative, body.takeWhile isAsciiDigit,
        front (body.dropWhile isAsciiDigit), hdigits, List.all_takeWhile⟩, rest, ?_⟩
      simp only [Numeral.text, List.append_assoc, hend, hnumber, hsign, hspace]
    · exact .inl ⟨_, _, hread.symm⟩

/-! ## 2. Accessors in a row -/

/-- The accessors behind one that was read. -/
def precede (a : Accessor) (q : List Accessor × Text) : List Accessor × Text := (a :: q.1, q.2)

theorem readAccessors_index (n : Numeral) (stop : Nat) (t : Text) :
    readAccessors stop ((Step.index n).text ++ t) =
      if n.IsLong then .error (.number (.tooLongToRead n.digits.length))
      else (readAccessors stop t).map
        (precede (.index n.value (stop - ((Step.index n).text ++ t).length))) := by
  have htext : (Step.index n).text ++ t = '[' :: (n.text ++ ']' :: t) := by simp [Step.text]
  rw [htext, readAccessors, if_pos rfl, List.length_cons]
  have hread := readIndex_append n t
  split
  · next e he =>
    rw [he] at hread
    split at hread
    · next hlong =>
      rw [if_pos hlong]
      cases hread
      rfl
    · cases hread
  · next i rest hok =>
    rw [hok] at hread
    split at hread
    · cases hread
    · next hshort =>
      rw [if_neg hshort]
      cases hread
      cases readAccessors stop t <;> rfl

theorem readAccessors_field (name : Name) (stop : Nat) {t : Text} (ht : Stops isNameChar t) :
    readAccessors stop ((Step.field name).text ++ t) =
      (readAccessors stop t).map
        (precede (.field name.1 (stop - ((Step.field name).text ++ t).length))) := by
  have htext : (Step.field name).text ++ t = '.' :: (name.1 ++ t) := rfl
  rw [htext, readAccessors, if_neg (by decide), if_pos rfl, List.length_cons]
  have hread := readName_append name ht
  split
  · next hnone =>
    rw [hnone] at hread
    cases hread
  · next name' rest hsome =>
    rw [hsome] at hread
    cases hread
    cases readAccessors stop t <;> rfl

/-- Reading accessors ends at a character that starts none. -/
theorem readAccessors_of_stops (stop : Nat) {t : Text} (ht : Stops isStemChar t) :
    readAccessors stop t = .ok ([], t) := by
  cases t with
  | nil => rw [readAccessors]
  | cons c t =>
    have hc := stops_cons.mp ht
    simp only [isStemChar, Bool.or_eq_false_iff, beq_eq_false_iff_ne] at hc
    rw [readAccessors, if_neg hc.1.2, if_neg hc.2]

theorem readAccessors_step {s : Step} (hs : ¬ s.IsLong) (stop : Nat) {t : Text}
    (ht : Stops isNameChar t) :
    readAccessors stop (s.text ++ t) =
      (readAccessors stop t).map (precede (s.accessor (stop - (s.text ++ t).length))) := by
  cases s with
  | index n =>
    have hn : ¬ n.IsLong := hs
    rw [readAccessors_index, if_neg hn]
    rfl
  | field name => exact readAccessors_field name stop ht

theorem readAccessors_long {s : Step} (hs : s.IsLong) (stop : Nat) (t : Text) :
    ∃ k, Number.digitLimit < k ∧
      readAccessors stop (s.text ++ t) = .error (.number (.tooLongToRead k)) := by
  cases s with
  | index n =>
    have hn : n.IsLong := hs
    rw [readAccessors_index, if_pos hn]
    exact ⟨_, hn, rfl⟩
  | field name => exact hs.elim

/-- **Accessors in a row are read**, each with the offset at which it is written. -/
theorem readAccessors_row {row : List Step} (hrow : ∀ s ∈ row, ¬ s.IsLong) (offset : Nat)
    {t : Text} (ht : Stops isStemChar t) :
    readAccessors (offset + (rowText row ++ t).length) (rowText row ++ t) =
      .ok (rowAccessors offset row, t) := by
  induction row generalizing offset with
  | nil => exact readAccessors_of_stops _ ht
  | cons s row ih =>
    obtain ⟨hs, hrow⟩ := List.forall_mem_cons.mp hrow
    have hmore := ih hrow (offset + s.text.length)
    have hlength : offset + s.text.length + (rowText row ++ t).length =
        offset + (s.text ++ (rowText row ++ t)).length := by
      simp only [List.length_append, Nat.add_assoc]
    rw [hlength] at hmore
    rw [rowText, List.flatMap_cons, List.append_assoc, ← rowText,
      readAccessors_step hs _ (stops_isNameChar_row row (stops_isNameChar ht)), hmore,
      Nat.add_sub_cancel]
    rfl

/-- An index of too many digits is not read, whatever is behind it. -/
theorem readAccessors_row_long (row : List Step) {n : Numeral} (hn : n.IsLong) (stop : Nat)
    (t : Text) :
    ∃ k, Number.digitLimit < k ∧
      readAccessors stop (rowText row ++ ((Step.index n).text ++ t)) =
        .error (.number (.tooLongToRead k)) := by
  induction row with
  | nil => exact readAccessors_long (s := .index n) hn stop t
  | cons s row ih =>
    rw [rowText, List.flatMap_cons, List.append_assoc, ← rowText]
    by_cases hs : s.IsLong
    · exact readAccessors_long hs stop _
    · obtain ⟨k, hk, hmore⟩ := ih
      have ht : Stops isNameChar ((Step.index n).text ++ t) := Step.stops_isNameChar_text _ t
      rw [readAccessors_step hs stop (stops_isNameChar_row row ht), hmore]
      exact ⟨k, hk, rfl⟩

theorem stops_of_readName {t name rest : Text} (h : readName t = some (name, rest)) :
    Stops isNameChar rest := by
  cases t with
  | nil => cases h
  | cons c t =>
    simp only [readName] at h
    split at h
    · cases h
      exact stops_dropWhile isNameChar t
    · cases h

/-- What becomes of a text that is read as accessors: it is read up to some place, its syntax is at
fault, or it has an index of too many digits. -/
def RowOutcome (offset : Nat) (t : Text) : Prop :=
  (∃ row rest, t = rowText row ++ rest ∧ (∀ s ∈ row, ¬ s.IsLong) ∧
    readAccessors (offset + t.length) t = .ok (rowAccessors offset row, rest)) ∨
  (∃ f unread, readAccessors (offset + t.length) t = .error (.fault f unread)) ∨
  ∃ (row : List Step) (n : Numeral) (rest : Text), n.IsLong ∧
    t = rowText row ++ ((Step.index n).text ++ rest)

/-- An accessor in front of a text does not change what becomes of the text. -/
theorem RowOutcome.cons {offset : Nat} {s : Step} {t : Text} (hs : ¬ s.IsLong)
    (hread : ∀ stop, readAccessors stop (s.text ++ t) =
      (readAccessors stop t).map (precede (s.accessor (stop - (s.text ++ t).length))))
    (h : RowOutcome (offset + s.text.length) t) : RowOutcome offset (s.text ++ t) := by
  have hlength : offset + s.text.length + t.length = offset + (s.text ++ t).length := by
    rw [List.length_append, Nat.add_assoc]
  have hread' := hread (offset + (s.text ++ t).length)
  rw [Nat.add_sub_cancel] at hread'
  unfold RowOutcome at h
  rw [hlength] at h
  have hrow (row : List Step) (rest : Text) :
      s.text ++ (rowText row ++ rest) = rowText (s :: row) ++ rest := by
    rw [rowText, rowText, List.flatMap_cons, List.append_assoc]
  rcases h with ⟨row, rest, ht, hshort, hok⟩ | ⟨f, unread, hfault⟩ | ⟨row, n, rest, hn, ht⟩
  · refine .inl ⟨s :: row, rest, ?_, List.forall_mem_cons.mpr ⟨hs, hshort⟩, ?_⟩
    · rw [← hrow, ← ht]
    · rw [hread', hok]
      rfl
  · refine .inr (.inl ⟨f, unread, ?_⟩)
    rw [hread', hfault]
    rfl
  · refine .inr (.inr ⟨s :: row, n, rest, hn, ?_⟩)
    rw [← hrow, ← ht]

theorem readAccessors_of_readIndex {t : Text} {f : PathFault} {unread : Text}
    (h : readIndex t = .error (.fault f unread)) (stop : Nat) :
    readAccessors stop ('[' :: t) = .error (.fault f unread) := by
  rw [readAccessors, if_pos rfl]
  split
  · next he =>
    rw [h] at he
    cases he
    rfl
  · next hok =>
    rw [h] at hok
    cases hok

theorem readAccessors_of_readName {t : Text} (h : readName t = none) (stop : Nat) :
    readAccessors stop ('.' :: t) = .error (.fault .noFieldName t) := by
  rw [readAccessors, if_neg (by decide), if_pos rfl]
  split
  · rfl
  · next hsome =>
    rw [h] at hsome
    cases hsome

/-- **What is read as accessors was written in a row.** -/
theorem rowOutcome (offset : Nat) (t : Text) : RowOutcome offset t := by
  match t with
  | [] => exact .inl ⟨[], [], rfl, List.forall_mem_nil _, by rw [readAccessors]; rfl⟩
  | c :: inner =>
    by_cases hbracket : c = '['
    · subst hbracket
      rcases exists_numeral_of_readIndex inner with ⟨f, unread, hfault⟩ | ⟨n, rest, rfl⟩
      · exact .inr (.inl ⟨f, unread, readAccessors_of_readIndex hfault _⟩)
      · have htext : '[' :: (n.text ++ ']' :: rest) = (Step.index n).text ++ rest := by
          simp [Step.text]
        have hshorter : rest.length < ('[' :: (n.text ++ ']' :: rest)).length := by
          simp only [List.length_cons, List.length_append]
          omega
        rw [htext]
        by_cases hn : n.IsLong
        · exact .inr (.inr ⟨[], n, rest, hn, rfl⟩)
        · refine RowOutcome.cons (s := .index n) hn (fun stop => ?_) (rowOutcome _ rest)
          rw [readAccessors_index, if_neg hn]
          rfl
    by_cases hdot : c = '.'
    · subst hdot
      cases hname : readName inner with
      | none => exact .inr (.inl ⟨.noFieldName, inner, readAccessors_of_readName hname _⟩)
      | some q =>
        obtain ⟨name, rest⟩ := q
        obtain ⟨hspelled, rfl⟩ := readName_eq_some hname
        have hshorter : rest.length < ('.' :: (name ++ rest)).length := by
          simp only [List.length_cons, List.length_append]
          omega
        exact RowOutcome.cons (s := .field ⟨name, hspelled⟩) not_false
          (fun stop => readAccessors_field _ stop (stops_of_readName hname)) (rowOutcome _ rest)
    · refine .inl ⟨[], c :: inner, rfl, List.forall_mem_nil _, ?_⟩
      rw [readAccessors, if_neg hbracket, if_neg hdot]
      rfl
termination_by t.length

/-! ## 3. Styles -/

/-- **A style is read** if one is written, and only white space is left. -/
theorem readStyle_append (style : Option Suffix) (after : Blanks) :
    ∃ rest, readStyle (styleText style ++ after.1) = .ok (style.map (·.name.1), rest) ∧
      trimStart rest = [] := by
  cases style with
  | none =>
    refine ⟨[], ?_, rfl⟩
    simp only [styleText, List.nil_append, readStyle, trimStart_blanks]
    rfl
  | some s =>
    have hcolon : trimStart (s.text ++ after.1) = ':' :: (s.after.1 ++ (s.name.1 ++ after.1)) := by
      simp only [Suffix.text, List.append_assoc, List.cons_append]
      exact trimStart_append s.before (stops_cons.mpr rfl)
    have hafter : Stops isNameChar after.1 := stops_isNameChar (stops_isStemChar_end none after)
    refine ⟨after.1, ?_, trimStart_blanks after⟩
    simp only [styleText, readStyle, hcolon, trimStart_append s.after (stops_isBlank_name _ _),
      readName_append s.name hafter]
    rfl

/-- What is read as a style was written, unless the syntax is at fault. -/
theorem exists_style_of_readStyle (t : Text) :
    (∃ f unread, readStyle t = .error (.fault f unread)) ∨
      ∃ style rest unread, t = styleText style ++ rest ∧
        readStyle t = .ok (style.map (·.name.1), unread) ∧ trimStart unread = trimStart rest := by
  have hspace := front_append_trimStart t
  generalize hread : readStyle t = outcome
  unfold readStyle at hread
  split at hread
  · next behind hcolon =>
    have hbehind := front_append_trimStart behind
    dsimp only at hread
    split at hread
    · exact .inl ⟨_, _, hread.symm⟩
    · next name unread hname =>
      obtain ⟨hspelled, hinner⟩ := readName_eq_some hname
      refine .inr ⟨some ⟨front t, front behind, ⟨name, hspelled⟩⟩, unread, unread, ?_, hread.symm,
        rfl⟩
      rw [styleText, Suffix.text, List.append_assoc, List.cons_append, List.append_assoc, ← hinner,
        hbehind, ← hcolon, hspace]
  · refine .inr ⟨none, t, trimStart t, rfl, hread.symm, ?_⟩
    exact (takeWhile_append_of_stops (s := []) rfl (stops_dropWhile isBlank t)).2

/-! ## 4. Whole expressions -/

/-- A text with an index of too many digits behind the front of an expression. -/
def LongIndex (t : Text) : Prop :=
  ∃ (s : Stem) (n : Numeral), n.IsLong ∧ s.text ++ (Step.index n).text <+: t

/-- **What can be derived is read**, if no index has too many digits. -/
theorem read_text (x : Derivation) (hshort : ∀ s ∈ x.steps, ¬ s.IsLong) (offset : Nat) :
    read offset x.text = .ok (x.path offset) := by
  have hend := stops_isStemChar_end x.style x.after
  have hbase := stops_isNameChar_row x.steps (stops_isNameChar hend)
  obtain ⟨unread, hstyle, hunread⟩ := readStyle_append x.style x.after
  have htext : x.text = x.before.1 ++
      (x.base.1 ++ (rowText x.steps ++ (styleText x.style ++ x.after.1))) := by
    simp only [Derivation.text, Stem.text, List.append_assoc]
  have hinner : trimStart x.text =
      x.base.1 ++ (rowText x.steps ++ (styleText x.style ++ x.after.1)) := by
    rw [htext]
    exact trimStart_append x.before (stops_isBlank_name _ _)
  have hne : ¬ (trimStart x.text).isEmpty = true := by
    rw [hinner, List.isEmpty_iff]
    exact List.append_ne_nil_of_left_ne_nil (name_ne_nil _) _
  have hrow := readAccessors_row hshort (offset + (x.before.1 ++ x.base.1).length) hend
  have hlength : offset + (x.before.1 ++ x.base.1).length +
      (rowText x.steps ++ (styleText x.style ++ x.after.1)).length = offset + x.text.length := by
    rw [htext]
    simp only [List.length_append]
    omega
  rw [hlength] at hrow
  rw [read, if_neg hne, hinner, readName_append x.base hbase]
  refine bind_eq_ok.mpr ⟨_, hrow, bind_eq_ok.mpr ⟨_, hstyle, ?_⟩⟩
  simp only [hunread]
  rfl

/-- An expression is not read beyond an index of too many digits. -/
theorem read_of_longIndex {t : Text} (h : LongIndex t) (offset : Nat) :
    ∃ k, Number.digitLimit < k ∧ read offset t = .error (.number (.tooLongToRead k)) := by
  obtain ⟨s, n, hn, rest, rfl⟩ := h
  have hbase : Stops isNameChar (rowText s.steps ++ ((Step.index n).text ++ rest)) :=
    stops_isNameChar_row s.steps (Step.stops_isNameChar_text _ rest)
  generalize htext : s.text ++ (Step.index n).text ++ rest = t
  have hinner : trimStart t =
      s.base.1 ++ (rowText s.steps ++ ((Step.index n).text ++ rest)) := by
    rw [← htext]
    simp only [Stem.text, List.append_assoc]
    exact trimStart_append s.before (stops_isBlank_name _ _)
  have hne : ¬ (trimStart t).isEmpty = true := by
    rw [hinner, List.isEmpty_iff]
    exact List.append_ne_nil_of_left_ne_nil (name_ne_nil _) _
  obtain ⟨k, hk, hrow⟩ := readAccessors_row_long s.steps hn (offset + t.length) rest
  refine ⟨k, hk, ?_⟩
  rw [read, if_neg hne, hinner, readName_append s.base hbase]
  exact bind_eq_error.mpr (.inl hrow)

/-- **What is read was derived**, unless its syntax is at fault or an index has too many
digits. -/
theorem exists_derivation_of_read (offset : Nat) (t : Text) :
    (∃ f unread, read offset t = .error (.fault f unread)) ∨ LongIndex t ∨
      ∃ x : Derivation, x.text = t ∧ ∀ s ∈ x.steps, ¬ s.IsLong := by
  have hspace := front_append_trimStart t
  generalize front t = before at hspace
  generalize hread : read offset t = outcome
  unfold read at hread
  generalize trimStart t = inner at hread hspace
  by_cases hempty : inner.isEmpty = true
  · simp only [if_pos hempty] at hread
    exact .inl ⟨_, _, hread.symm⟩
  simp only [if_neg hempty] at hread
  split at hread
  · exact .inl ⟨_, _, hread.symm⟩
  · next base rest hname =>
    obtain ⟨hspelled, rfl⟩ := readName_eq_some hname
    have hlength : offset + t.length = offset + (before.1 ++ base).length + rest.length := by
      rw [← hspace]
      simp only [List.length_append]
      omega
    rw [hlength] at hread
    rcases rowOutcome (offset + (before.1 ++ base).length) rest with
      ⟨row, behind, rfl, hshort, hrow⟩ | ⟨f, unread, hfault⟩ | ⟨row, n, behind, hn, rfl⟩
    · rcases exists_style_of_readStyle behind with
        ⟨f, unread, hfault⟩ | ⟨style, more, unread, rfl, hstyle, hunread⟩
      · refine .inl ⟨f, unread, ?_⟩
        rw [← hread]
        exact bind_eq_error.mpr (.inr ⟨_, hrow, bind_eq_error.mpr (.inl hfault)⟩)
      cases hmore : trimStart more with
      | nil =>
        have hafter := front_append_trimStart more
        rw [hmore, List.append_nil] at hafter
        refine .inr (.inr ⟨⟨⟨before, ⟨base, hspelled⟩, row⟩, style, front more⟩, ?_, hshort⟩)
        rw [← hspace]
        simp only [Derivation.text, Stem.text, List.append_assoc, hafter]
      | cons c cs =>
        refine .inl ⟨.unexpected c, c :: cs, ?_⟩
        rw [← hread]
        refine bind_eq_error.mpr (.inr ⟨_, hrow, bind_eq_error.mpr (.inr ⟨_, hstyle, ?_⟩)⟩)
        simp only [hunread, hmore]
        rfl
    · refine .inl ⟨f, unread, ?_⟩
      rw [← hread]
      exact bind_eq_error.mpr (.inl hfault)
    · refine .inr (.inl ⟨⟨before, ⟨base, hspelled⟩, row⟩, n, hn, behind, ?_⟩)
      rw [← hspace]
      simp only [Stem.text, List.append_assoc]

/-- An expression that has an index of too many digits has one behind its front. -/
theorem longIndex_text {x : Derivation} {s : Step} (hmem : s ∈ x.steps) (hs : s.IsLong) :
    LongIndex x.text := by
  cases s with
  | field name => exact hs.elim
  | index n =>
    obtain ⟨row, row', hsteps⟩ := List.append_of_mem hmem
    refine ⟨⟨x.before, x.base, row⟩, n, hs,
      rowText row' ++ (styleText x.style ++ x.after.1), ?_⟩
    simp only [Derivation.text, Stem.text, hsteps, rowText, List.flatMap_append, List.flatMap_cons,
      List.append_assoc]

/-- What is derived without an index of too many digits is read. -/
theorem read_of_derivation {t : Text} (ht : ¬ LongIndex t) {x : Derivation} (hx : x.text = t)
    (offset : Nat) : read offset t = .ok (x.path offset) := by
  subst hx
  exact read_text x (fun s hmem hs => ht (longIndex_text hmem hs)) offset

/-- A text is read as a path if and only if it is derived and no index has too many digits. -/
theorem read_eq_ok_iff {offset : Nat} {t : Text} {p : Path} :
    read offset t = .ok p ↔
      ¬ LongIndex t ∧ ∃ x : Derivation, x.text = t ∧ x.path offset = p := by
  constructor
  · intro h
    have hshort : ¬ LongIndex t := fun hlong => by
      obtain ⟨k, -, hk⟩ := read_of_longIndex hlong offset
      rw [h] at hk
      cases hk
    rcases exists_derivation_of_read offset t with ⟨f, unread, hfault⟩ | hlong | ⟨x, hx, -⟩
    · rw [h] at hfault
      cases hfault
    · exact absurd hlong hshort
    · have hread := read_of_derivation hshort hx offset
      rw [h, Except.ok.injEq] at hread
      exact ⟨hshort, x, hx, hread.symm⟩
  · rintro ⟨hshort, x, hx, rfl⟩
    exact read_of_derivation hshort hx offset

/-- The accessors of a path that is read stand in a row in its text. -/
theorem exists_spelled_of_read {offset : Nat} {source : Text} {path : Path}
    (h : read offset source = .ok path) :
    ∃ before s after, source = before ++ (s ++ after) ∧
      Accessor.Spelled (offset + before.length) s path.accessors := by
  obtain ⟨-, x, rfl, rfl⟩ := read_eq_ok_iff.mp h
  refine ⟨x.before.1 ++ x.base.1, rowText x.steps, styleText x.style ++ x.after.1, ?_,
    spelled_row _ x.steps⟩
  simp only [Derivation.text, Stem.text, List.append_assoc]

/-- Reading gives up for a number if and only if an index has too many digits. -/
theorem exists_number_iff {offset : Nat} {t : Text} :
    (∃ f, read offset t = .error (.number f)) ↔ LongIndex t := by
  constructor
  · rintro ⟨f, h⟩
    rcases exists_derivation_of_read offset t with ⟨f, unread, hfault⟩ | hlong | ⟨x, hx, hshort⟩
    · rw [h] at hfault
      cases hfault
    · exact hlong
    · subst hx
      rw [read_text x hshort offset] at h
      cases h
  · intro hlong
    obtain ⟨k, -, hk⟩ := read_of_longIndex hlong offset
    exact ⟨_, hk⟩

/-- The syntax is at fault if and only if a text is not derived, and no index has too many
digits. -/
theorem exists_fault_iff {offset : Nat} {t : Text} :
    (∃ f unread, read offset t = .error (.fault f unread)) ↔
      ¬ LongIndex t ∧ ∀ x : Derivation, x.text ≠ t := by
  constructor
  · rintro ⟨f, unread, h⟩
    have hshort : ¬ LongIndex t := fun hlong => by
      obtain ⟨k, -, hk⟩ := read_of_longIndex hlong offset
      rw [h] at hk
      cases hk
    refine ⟨hshort, fun x hx => ?_⟩
    rw [read_of_derivation hshort hx offset] at h
    cases h
  · rintro ⟨hshort, hnone⟩
    rcases exists_derivation_of_read offset t with hfault | hlong | ⟨x, hx, -⟩
    · exact hfault
    · exact absurd hlong hshort
    · exact absurd hx (hnone x)

/-! ## 5. Expressions of a template -/

theorem parse_eq_ok {start : Position} {t : Text} {p : Path} :
    parse start t = .ok p ↔ read start.offset t = .ok p := by
  unfold parse
  cases read start.offset t <;> simp

theorem parse_eq_number {start : Position} {t : Text} {f : NumberFault} :
    parse start t = .error (.number f) ↔ read start.offset t = .error (.number f) := by
  unfold parse
  cases read start.offset t with
  | ok p => simp
  | error refusal => cases refusal <;> simp [PathRefusal.toParseFault]

/-- An error in the text of an expression is always an invalid expression. -/
theorem parse_eq_error {start : Position} {t : Text} {e : TemplateError}
    (h : parse start t = .error (.error e)) :
    (∃ f unread, read start.offset t = .error (.fault f unread)) ∧
      e.kind = "InvalidExpression" := by
  unfold parse at h
  cases hread : read start.offset t with
  | ok p =>
    rw [hread] at h
    cases h
  | error refusal =>
    rw [hread] at h
    cases refusal with
    | number f => cases h
    | fault f unread =>
      cases h
      exact ⟨⟨f, unread, rfl⟩, rfl⟩

/-- **Expressions are what the grammar says.**  Whatever text is to be read as one, and wherever it
starts:

* It is derived from the grammar in one way at most.
* It is read if it is derived and no index of it has too many digits, and then the path is that of
  the derivation, with the offsets at which its accessors are written.
* It is refused as an invalid expression if it is not derived and has no such index.
* It is refused because of a number if it has one. -/
theorem parse_grammar (start : Position) (t : Text) :
    (∀ x y : Derivation, x.text = t → y.text = t → x = y) ∧
    (∀ p, parse start t = .ok p ↔
      ¬ LongIndex t ∧ ∃ x : Derivation, x.text = t ∧ x.path start.offset = p) ∧
    ((∃ e, parse start t = .error (.error e) ∧ e.kind = "InvalidExpression") ↔
      ¬ LongIndex t ∧ ∀ x : Derivation, x.text ≠ t) ∧
    ((∃ f, parse start t = .error (.number f)) ↔ LongIndex t) := by
  refine ⟨fun x y hx hy => ?_, fun p => ?_, ⟨?_, ?_⟩, ?_⟩
  · exact Derivation.text_injective (hx.trans hy.symm)
  · exact parse_eq_ok.trans read_eq_ok_iff
  · rintro ⟨e, he, -⟩
    exact exists_fault_iff.mp (parse_eq_error he).1
  · intro h
    obtain ⟨f, unread, hread⟩ := exists_fault_iff.mpr h
    have hparse : parse start t =
        .error ((PathRefusal.fault f unread).toParseFault start t) := by rw [parse, hread]
    exact ⟨_, hparse, (parse_eq_error hparse).2⟩
  · simp only [parse_eq_number]
    exact exists_number_iff

end Path

end Phrasing
