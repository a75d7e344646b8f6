/-
# Where reading an expression goes wrong

What finds a fault in the text of an expression looks at one character, so that the fault is there
whatever is behind that character (`Finds`).  There is one exception: a number is not read before
the digits behind its minus sign are seen, so a minus sign without a digit is blamed itself
(`BareMinus`).  In front of the fault is the front of what would have been read.

This is shown for each part of an expression: for an index (`exists_front_of_readIndex`), for a row
of accessors (`rowKnown`), for the style and the end of the text (`endFault`), and for all that is
behind the name at the front (`behindFault`).
-/
import Phrasing.Proofs.Template.Acceptance

namespace Phrasing

namespace Text

/-- The first character decides whether a text stops. -/
theorem Stops.of_head? {p : Char → Bool} {u v : Text} (h : Stops p u) (hv : v.head? = u.head?) :
    Stops p v :=
  fun c hc => h c (hv ▸ hc)

/-- Of the text behind another, the first character decides whether both stop. -/
theorem Stops.of_head?_append {p : Char → Bool} {front u v : Text} (h : Stops p (front ++ u))
    (hv : v.head? = u.head?) : Stops p (front ++ v) :=
  h.of_head? (by rw [List.head?_append, List.head?_append, hv])

theorem stops_of_takeWhile_eq_nil {p : Char → Bool} {t : Text} (h : t.takeWhile p = []) :
    Stops p t := by
  cases t with
  | nil => exact stops_nil p
  | cons c t =>
    rw [List.takeWhile_cons] at h
    split at h
    · cases h
    · next hc => exact stops_cons.mpr (Bool.not_eq_true _ ▸ hc)

theorem stops_beq_of_ne {a : Char} {t : Text} (h : ∀ rest, t ≠ a :: rest) : Stops (· == a) t := by
  cases t with
  | nil => exact stops_nil _
  | cons c t => exact stops_cons.mpr (beq_eq_false_iff_ne.mpr fun hc => h t (hc ▸ rfl))

theorem eq_nil_of_head? {u v : Text} (hv : v.head? = u.head?) (hu : u = []) : v = [] := by
  rw [hu, List.head?_nil] at hv
  exact List.head?_eq_none_iff.mp hv

end Text

namespace Path

open Text

/-! ## 1. Faults that do not depend on what follows -/

/-- A reader finds a fault behind `front`, whatever follows the first character of `u` there. -/
def Finds {α : Type} (read : Text → Except PathRefusal α) (f : PathFault) (front u : Text) : Prop :=
  ∀ v, v.head? = u.head? → read (front ++ v) = .error (.fault f v)

/-- A minus sign without a digit behind it. -/
def BareMinus (t : Text) : Prop := ∃ rest, t = '-' :: rest ∧ Stops isAsciiDigit rest

/-- An index of too many digits stands in a text; its closing bracket may be missing. -/
def HasLongIndex (t : Text) : Prop := ∃ n : Numeral, n.IsLong ∧ '[' :: n.text <:+: t

theorem HasLongIndex.mono {t t' : Text} (h : HasLongIndex t) (ht : t <:+: t') :
    HasLongIndex t' := by
  obtain ⟨n, hn, hinfix⟩ := h
  exact ⟨n, hn, hinfix.trans ht⟩

theorem stops_isNameStart_of_readName {t : Text} (h : readName t = none) :
    Stops isNameStart t := by
  cases t with
  | nil => exact stops_nil _
  | cons c t =>
    rw [readName] at h
    split at h
    · cases h
    · next hc => exact stops_cons.mpr (Bool.not_eq_true _ ▸ hc)

theorem readName_of_stops {t : Text} (h : Stops isNameStart t) : readName t = none := by
  cases t with
  | nil => rfl
  | cons c t => rw [readName, stops_cons.mp h, if_neg Bool.false_ne_true]

/-- Whether there is a name depends on the first character. -/
theorem readName_eq_none_of_head? {u v : Text} (h : readName u = none) (hv : v.head? = u.head?) :
    readName v = none :=
  readName_of_stops ((stops_isNameStart_of_readName h).of_head? hv)

/-- The shortest name, and the shortest number. -/
def underscore : Name := ⟨['_'], rfl, rfl⟩

def zero (before : Blanks) (negative : Bool) : Numeral :=
  ⟨before, negative, ['0'], noBlanks, List.cons_ne_nil _ _, rfl⟩

theorem not_isLong_zero (before : Blanks) (negative : Bool) : ¬ (zero before negative).IsLong :=
  Nat.not_lt.mpr (show 1 ≤ Number.digitLimit by decide)

/-! ## 2. Indexes -/

theorem readMinus_of_stops {t : Text} (h : Stops (· == '-') t) : readMinus t = (false, t) :=
  readMinus_append false h

theorem stops_minus_of_readMinus {t : Text} (h : (readMinus t).1 = false) :
    Stops (· == '-') t := by
  unfold readMinus at h
  split at h
  · cases h
  · next hminus => exact stops_beq_of_ne hminus

/-- Behind the white space at the front of an index, a number is missing. -/
theorem finds_readIndex_noIndex (before : Blanks) {u : Text} (hblank : Stops isBlank u)
    (hminus : Stops (· == '-') u) (hdigit : Stops isAsciiDigit u) :
    Finds readIndex .noIndex before.1 u := by
  intro v hv
  have hdigits : v.takeWhile isAsciiDigit = [] := by
    simpa using (takeWhile_append_of_stops (s := []) rfl (hdigit.of_head? hv)).1
  simp only [readIndex, trimStart_append before (hblank.of_head? hv),
    readMinus_of_stops (hminus.of_head? hv), hdigits]

theorem readIndex_of_unclosed (n : Numeral) {t : Text}
    (hdigit : Stops isAsciiDigit (n.after.1 ++ t)) (hblank : Stops isBlank t)
    (hclosing : Stops (· == ']') t) :
    readIndex (n.text ++ t) = .error (.fault .unclosedIndex t) := by
  have hspace : trimStart (n.text ++ t) =
      sign n.negative ++ (n.digits ++ (n.after.1 ++ t)) := by
    simp only [Numeral.text, List.append_assoc]
    exact trimStart_append n.before (n.stops_isBlank_sign _)
  obtain ⟨htake, hdrop⟩ := takeWhile_append_of_stops n.all_digits hdigit
  obtain ⟨c, ds, hdigits⟩ := List.exists_cons_of_ne_nil n.digits_ne_nil
  simp only [readIndex, hspace, readMinus_append n.negative (n.stops_minus_digits _), htake, hdrop,
    trimStart_append n.after hblank]
  rw [hdigits]
  dsimp only
  split
  · cases stops_cons.mp hclosing
  · rfl

/-- Behind a number, the closing bracket is missing. -/
theorem finds_readIndex_unclosed (n : Numeral) {u : Text}
    (hdigit : Stops isAsciiDigit (n.after.1 ++ u)) (hblank : Stops isBlank u)
    (hclosing : Stops (· == ']') u) : Finds readIndex .unclosedIndex n.text u := fun _ hv =>
  readIndex_of_unclosed n (hdigit.of_head?_append hv) (hblank.of_head? hv) (hclosing.of_head? hv)

/-- **A fault in an index** is found behind the front of a number. -/
theorem exists_front_of_readIndex {t u : Text} {f : PathFault}
    (h : readIndex t = .error (.fault f u)) :
    ∃ front, t = front ++ u ∧
      (∃ n : Numeral, front <+: n.text ∧ (n.IsLong → n.text = front)) ∧
      (Finds readIndex f front u ∨ front.all isBlank = true ∧ BareMinus u) := by
  have hspace := front_append_trimStart t
  have hblank : Stops isBlank (trimStart t) := stops_dropWhile isBlank t
  have hsign := sign_append_readMinus (trimStart t)
  simp only [readIndex] at h
  generalize hnegative : (readMinus (trimStart t)).1 = negative at h hsign
  generalize (readMinus (trimStart t)).2 = body at h hsign
  split at h
  · next hdigits =>
    cases h
    have hdigit := stops_of_takeWhile_eq_nil hdigits
    refine ⟨(front t).1, hspace.symm, ⟨zero (front t) false, List.prefix_append _ _, ?_⟩, ?_⟩
    · exact fun hlong => absurd hlong (not_isLong_zero _ _)
    · cases negative with
      -- The fault is at the minus sign and not behind it, and depends on what is behind it.
      | true => exact .inr ⟨(front t).2, body, hsign.symm, hdigit⟩
      | false =>
        have hbody : body = trimStart t := hsign
        have hminus := stops_minus_of_readMinus hnegative
        exact .inl (finds_readIndex_noIndex (front t) hblank hminus (hbody ▸ hdigit))
  · next hdigits =>
    have hnumber : body.takeWhile isAsciiDigit ++ body.dropWhile isAsciiDigit = body :=
      List.takeWhile_append_dropWhile
    have hend := front_append_trimStart (body.dropWhile isAsciiDigit)
    have hdigit : Stops isAsciiDigit (body.dropWhile isAsciiDigit) := stops_dropWhile _ body
    split at h
    · split at h <;> cases h
    · next hclosing =>
      cases h
      let n : Numeral := ⟨front t, negative, body.takeWhile isAsciiDigit,
        front (body.dropWhile isAsciiDigit), hdigits, List.all_takeWhile⟩
      have htext : n.text ++ trimStart (body.dropWhile isAsciiDigit) = t := by
        simp only [n, Numeral.text, List.append_assoc, hend, hnumber, hsign, hspace]
      have hbracket := stops_beq_of_ne hclosing
      rw [← hend] at hdigit
      exact ⟨n.text, htext.symm, ⟨n, List.prefix_rfl, fun _ => rfl⟩,
        .inl (finds_readIndex_unclosed n hdigit (stops_dropWhile isBlank _) hbracket)⟩

/-! ## 3. Accessors -/

/-- What is known of a text in which accessors go wrong at `u`. -/
def RowFault (f : PathFault) (t u : Text) : Prop :=
  ∃ front, t = front ++ u ∧
    (∃ row, front <+: rowText row ∧ (HasLongIndex front ∨ ∀ s ∈ row, ¬ s.IsLong)) ∧
    ((∀ stop, Finds (readAccessors stop) f front u) ∨
      ∃ (row : List Step) (before : Blanks), front = rowText row ++ '[' :: before.1 ∧ BareMinus u)

/-- What is known of a text that is read as accessors: they were written in front of the rest, and
are read there whatever follows its first character; or they go wrong. -/
def RowKnown (t : Text) : Except PathRefusal (List Accessor × Text) → Prop
  | .ok (_, rest) =>
    ∃ row, t = rowText row ++ rest ∧ (∀ s ∈ row, ¬ s.IsLong) ∧
      ∀ stop v, v.head? = rest.head? → ∃ as, readAccessors stop (rowText row ++ v) = .ok (as, v)
  | .error (.fault f u) => RowFault f t u
  | .error (.number _) => True

theorem rowText_cons (s : Step) (row : List Step) : rowText (s :: row) = s.text ++ rowText row :=
  List.flatMap_cons

/-- An accessor that is read in front of a text changes nothing of what is known. -/
theorem RowKnown.cons {s : Step} {t : Text} {r : Except PathRefusal (List Accessor × Text)}
    (hs : ¬ s.IsLong)
    (hstep : ∀ stop front u v, t = front ++ u → v.head? = u.head? →
      ∃ a, readAccessors stop (s.text ++ (front ++ v)) =
        (readAccessors stop (front ++ v)).map (precede a))
    (h : RowKnown t r) (a : Accessor) : RowKnown (s.text ++ t) (r.map (precede a)) := by
  match r, h with
  | .ok (as, rest), h =>
    obtain ⟨row, ht, hshort, hread⟩ := h
    refine ⟨s :: row, ?_, List.forall_mem_cons.mpr ⟨hs, hshort⟩, fun stop v hv => ?_⟩
    · rw [rowText_cons, List.append_assoc, ← ht]
    · obtain ⟨as', has'⟩ := hread stop v hv
      obtain ⟨b, hb⟩ := hstep stop (rowText row) rest v ht hv
      refine ⟨b :: as', ?_⟩
      rw [rowText_cons, List.append_assoc, hb, has']
      rfl
  | .error (.fault f u), h =>
    obtain ⟨front, ht, ⟨row, hprefix, hshort⟩, hfinds⟩ := h
    refine ⟨s.text ++ front, by rw [List.append_assoc, ← ht], ⟨s :: row, ?_, ?_⟩, ?_⟩
    · rw [rowText_cons]
      exact (List.prefix_append_right_inj s.text).mpr hprefix
    · refine hshort.imp (fun hlong => hlong.mono (List.suffix_append _ _).isInfix) fun hshort => ?_
      exact List.forall_mem_cons.mpr ⟨hs, hshort⟩
    · rcases hfinds with hfinds | ⟨row', before, hfront, hminus⟩
      · refine .inl fun stop v hv => ?_
        obtain ⟨b, hb⟩ := hstep stop front u v ht hv
        rw [List.append_assoc, hb, hfinds stop v hv]
        rfl
      · refine .inr ⟨s :: row', before, ?_, hminus⟩
        rw [rowText_cons, List.append_assoc, ← hfront]
  | .error (.number _), _ => trivial

theorem rowFault_index {t u : Text} {f : PathFault} (h : readIndex t = .error (.fault f u)) :
    RowFault f ('[' :: t) u := by
  obtain ⟨front, rfl, ⟨n, hprefix, hlong⟩, hfinds⟩ := exists_front_of_readIndex h
  have htext : rowText [.index n] = '[' :: (n.text ++ [']']) := by
    rw [rowText_cons]
    exact List.append_nil _
  refine ⟨'[' :: front, rfl, ⟨[.index n], ?_, ?_⟩, ?_⟩
  · rw [htext]
    exact List.cons_prefix_cons.mpr ⟨rfl, hprefix.trans (List.prefix_append _ _)⟩
  · by_cases hn : n.IsLong
    · cases hlong hn
      exact .inl ⟨n, hn, List.infix_rfl⟩
    · exact .inr (List.forall_mem_singleton.mpr hn)
  · rcases hfinds with hfinds | ⟨hblank, hminus⟩
    · exact .inl fun stop v hv => readAccessors_of_readIndex (hfinds v hv) stop
    · exact .inr ⟨[], ⟨front, hblank⟩, rfl, hminus⟩

theorem rowFault_field {t : Text} (h : readName t = none) :
    RowFault .noFieldName ('.' :: t) t := by
  refine ⟨['.'], rfl, ⟨[.field underscore], ?_, .inr ?_⟩, .inl fun stop v hv => ?_⟩
  · exact List.cons_prefix_cons.mpr ⟨rfl, List.nil_prefix⟩
  · exact List.forall_mem_singleton.mpr not_false
  · exact readAccessors_of_readName (readName_eq_none_of_head? h hv) stop

/-- **Accessors are read up to one character**, or go wrong there. -/
theorem rowKnown (stop : Nat) (t : Text) : RowKnown t (readAccessors stop t) := by
  match t with
  | [] =>
    rw [readAccessors]
    refine ⟨[], rfl, List.forall_mem_nil _, fun stop v hv => ⟨[], ?_⟩⟩
    rw [eq_nil_of_head? hv rfl]
    exact readAccessors_of_stops stop (stops_nil _)
  | c :: inner =>
    by_cases hbracket : c = '['
    · subst hbracket
      rcases exists_numeral_of_readIndex inner with ⟨f, u, hfault⟩ | ⟨n, rest, rfl⟩
      · rw [readAccessors_of_readIndex hfault]
        exact rowFault_index hfault
      · have htext (v : Text) : '[' :: (n.text ++ ']' :: v) = (Step.index n).text ++ v := by
          simp [Step.text]
        have hshorter : rest.length < ('[' :: (n.text ++ ']' :: rest)).length := by
          simp only [List.length_cons, List.length_append]
          omega
        have hknown := rowKnown stop rest
        rw [htext, readAccessors_index]
        split
        -- The index has too many digits, which is no fault of syntax.
        · trivial
        · next hn =>
          refine hknown.cons (s := .index n) hn (fun stop front u v _ _ => ?_) _
          rw [readAccessors_index, if_neg hn]
          exact ⟨_, rfl⟩
    by_cases hdot : c = '.'
    · subst hdot
      cases hname : readName inner with
      | none =>
        rw [readAccessors_of_readName hname]
        exact rowFault_field hname
      | some q =>
        obtain ⟨name, rest⟩ := q
        have hstops := stops_of_readName hname
        obtain ⟨hspelled, rfl⟩ := readName_eq_some hname
        have hshorter : rest.length < ('.' :: (name ++ rest)).length := by
          simp only [List.length_cons, List.length_append]
          omega
        have hknown := rowKnown stop rest
        have htext : '.' :: (name ++ rest) = (Step.field ⟨name, hspelled⟩).text ++ rest := rfl
        rw [htext, readAccessors_field _ stop hstops]
        refine hknown.cons (s := .field ⟨name, hspelled⟩) not_false
          (fun stop front u v ht hv => ?_) _
        exact ⟨_, readAccessors_field _ stop (Stops.of_head?_append (ht ▸ hstops) hv)⟩
    -- No accessor starts at `c`, whatever is behind it.
    · rw [readAccessors, if_neg hbracket, if_neg hdot]
      refine ⟨[], rfl, List.forall_mem_nil _, fun stop v hv => ⟨[], ?_⟩⟩
      obtain ⟨v, rfl⟩ := List.head?_eq_some_iff.mp hv
      rw [rowText, List.flatMap_nil, List.nil_append, readAccessors, if_neg hbracket, if_neg hdot]
termination_by t.length

/-! ## 4. The end of an expression -/

/-- What is read behind the accessors: a style, and then the end of the text. -/
def readEnd (t : Text) : Except PathRefusal (Option Text) := do
  let (style, rest) ← readStyle t
  match trimStart rest with
  | [] => return style
  | c :: more => throw (.fault (.unexpected c) (c :: more))

theorem readStyle_of_noName (before after : Blanks) {t : Text} (hblank : Stops isBlank t)
    (hname : readName t = none) :
    readStyle (before.1 ++ ':' :: (after.1 ++ t)) = .error (.fault .noStyleName t) := by
  have hcolon : trimStart (before.1 ++ ':' :: (after.1 ++ t)) = ':' :: (after.1 ++ t) :=
    trimStart_append before (stops_cons.mpr rfl)
  simp only [readStyle, hcolon, trimStart_append after hblank, hname]

theorem readStyle_suffix (s : Suffix) {t : Text} (ht : Stops isNameChar t) :
    readStyle (s.text ++ t) = .ok (some s.name.1, t) := by
  have hcolon : trimStart (s.text ++ t) = ':' :: (s.after.1 ++ (s.name.1 ++ t)) := by
    simp only [Suffix.text, List.append_assoc, List.cons_append]
    exact trimStart_append s.before (stops_cons.mpr rfl)
  simp only [readStyle, hcolon, trimStart_append s.after (stops_isBlank_name _ _),
    readName_append s.name ht]

theorem readStyle_of_stops (before : Blanks) {t : Text} (hblank : Stops isBlank t)
    (hcolon : Stops (· == ':') t) : readStyle (before.1 ++ t) = .ok (none, t) := by
  unfold readStyle
  rw [trimStart_append before hblank]
  split
  · cases stops_cons.mp hcolon
  · rfl

theorem trimStart_of_stops {t : Text} (h : Stops isBlank t) : trimStart t = t :=
  trimStart_append noBlanks h

theorem readEnd_of_readStyle {t rest : Text} {style : Option Text}
    (h : readStyle t = .ok (style, rest)) :
    readEnd t = match trimStart rest with
      | [] => .ok style
      | c :: more => .error (.fault (.unexpected c) (c :: more)) := by
  rw [readEnd, h]
  rfl

/-- Behind the colon of a style, a name is missing. -/
theorem finds_readEnd_noName (before after : Blanks) {u : Text} (hblank : Stops isBlank u)
    (hname : readName u = none) :
    Finds readEnd .noStyleName (before.1 ++ ':' :: after.1) u := by
  intro v hv
  have hstyle := readStyle_of_noName before after (hblank.of_head? hv)
    (readName_eq_none_of_head? hname hv)
  rw [List.append_assoc, List.cons_append, readEnd, hstyle]
  rfl

/-- Behind a style, the text goes on. -/
theorem finds_readEnd_suffix (s : Suffix) (after : Blanks) {c : Char} {more : Text}
    (hname : Stops isNameChar (after.1 ++ c :: more)) (hblank : Stops isBlank (c :: more)) :
    Finds readEnd (.unexpected c) (s.text ++ after.1) (c :: more) := by
  intro v hv
  have hstyle := readStyle_suffix s (hname.of_head?_append hv)
  have htrim := trimStart_append after (hblank.of_head? hv)
  obtain ⟨more', rfl⟩ := List.head?_eq_some_iff.mp hv
  rw [List.append_assoc, readEnd_of_readStyle hstyle, htrim]

/-- Where no style is, the text goes on. -/
theorem finds_readEnd_blanks (before : Blanks) {c : Char} {more : Text}
    (hcolon : Stops (· == ':') (c :: more)) (hblank : Stops isBlank (c :: more)) :
    Finds readEnd (.unexpected c) before.1 (c :: more) := by
  intro v hv
  have hstyle := readStyle_of_stops before (hblank.of_head? hv) (hcolon.of_head? hv)
  have htrim := trimStart_of_stops (hblank.of_head? hv)
  obtain ⟨more', rfl⟩ := List.head?_eq_some_iff.mp hv
  rw [readEnd_of_readStyle hstyle, htrim]

/-- What is known of a text at whose end something goes wrong at `u`: the front of a style and
white space is there. -/
def EndFault (f : PathFault) (t u : Text) : Prop :=
  ∃ front, t = front ++ u ∧
    (∃ (style : Option Suffix) (after : Blanks), front <+: styleText style ++ after.1) ∧
    Finds readEnd f front u

/-- What is found is the fault of the text. -/
theorem EndFault.of_finds {f g : PathFault} {t front u w : Text}
    (h : readEnd t = .error (.fault f u)) (ht : t = front ++ w)
    (hstyle : ∃ (style : Option Suffix) (after : Blanks), front <+: styleText style ++ after.1)
    (hfinds : Finds readEnd g front w) : EndFault f t u := by
  have hfault := hfinds w rfl
  rw [← ht, h] at hfault
  cases hfault
  exact ⟨front, ht, hstyle, hfinds⟩

/-- **At the end**, a fault is found behind the front of a style and white space. -/
theorem endFault {t u : Text} {f : PathFault} (h : readEnd t = .error (.fault f u)) :
    EndFault f t u := by
  have hspace := front_append_trimStart t
  have hblank : Stops isBlank (trimStart t) := stops_dropWhile isBlank t
  by_cases hcolon : ∃ behind, trimStart t = ':' :: behind
  · obtain ⟨behind, hbehind⟩ := hcolon
    have hinner := front_append_trimStart behind
    have ht : t = (front t).1 ++ ':' :: ((front behind).1 ++ trimStart behind) := by
      rw [hinner, ← hbehind, hspace]
    cases hname : readName (trimStart behind) with
    | none =>
      have hfinds := finds_readEnd_noName (front t) (front behind) (stops_dropWhile _ _) hname
      refine EndFault.of_finds h ?_ ⟨some ⟨front t, front behind, underscore⟩, noBlanks, ?_⟩ hfinds
      · rw [List.append_assoc]
        exact ht
      · rw [styleText, Suffix.text, noBlanks_val, List.append_nil]
        exact (List.prefix_append_right_inj _).mpr
          (List.cons_prefix_cons.mpr ⟨rfl, List.prefix_append _ _⟩)
    | some q =>
      obtain ⟨name, rest⟩ := q
      obtain ⟨hspelled, hrest⟩ := readName_eq_some hname
      let s : Suffix := ⟨front t, front behind, ⟨name, hspelled⟩⟩
      have htext : t = s.text ++ rest := by
        rw [ht, hrest]
        simp only [s, Suffix.text, List.append_assoc, List.cons_append]
      have hstops := stops_of_readName hname
      have hsplit := front_append_trimStart rest
      have hblank : Stops isBlank (trimStart rest) := stops_dropWhile isBlank rest
      have hread := readEnd_of_readStyle (readStyle_suffix s hstops)
      rw [← htext, h] at hread
      generalize trimStart rest = tail at hread hsplit hblank
      cases tail with
      | nil => cases hread
      | cons c more =>
        rw [← hsplit] at hstops
        refine EndFault.of_finds h ?_ ⟨some s, front rest, List.prefix_rfl⟩
          (finds_readEnd_suffix s (front rest) hstops hblank)
        rw [styleText, htext, List.append_assoc, hsplit]
  · have hstops := stops_beq_of_ne (not_exists.mp hcolon)
    have hread := readEnd_of_readStyle (readStyle_of_stops (front t) hblank hstops)
    rw [hspace, h, trimStart_of_stops hblank] at hread
    generalize trimStart t = tail at hread hspace hblank hstops
    cases tail with
    | nil => cases hread
    | cons c more =>
      exact EndFault.of_finds h hspace.symm ⟨none, front t, List.prefix_rfl⟩
        (finds_readEnd_blanks (front t) hstops hblank)

/-! ## 5. Behind the name that an expression starts with -/

/-- What is read behind the name. -/
def readBehind (base : Text) (stop : Nat) (t : Text) : Except PathRefusal Path := do
  let (accessors, rest) ← readAccessors stop t
  let style ← readEnd rest
  return ⟨base, accessors, style⟩

theorem read_stem (offset : Nat) (before : Blanks) (base : Name) {t : Text}
    (ht : Stops isNameChar t) :
    read offset (before.1 ++ (base.1 ++ t)) =
      readBehind base.1 (offset + (before.1 ++ (base.1 ++ t)).length) t := by
  have hinner : trimStart (before.1 ++ (base.1 ++ t)) = base.1 ++ t :=
    trimStart_append before (stops_isBlank_name _ _)
  have hne : ¬ (base.1 ++ t).isEmpty = true := by
    rw [List.isEmpty_iff]
    exact List.append_ne_nil_of_left_ne_nil (name_ne_nil _) _
  simp only [read, hinner, if_neg hne, readName_append base ht]
  refine congrArg (readAccessors _ t >>= ·) (funext fun ⟨accessors, rest⟩ => ?_)
  dsimp only [readEnd]
  cases readStyle rest with
  | error e => rfl
  | ok q =>
    dsimp only [bind, Except.bind]
    cases trimStart q.2 <;> rfl

/-- What is known of a text that goes wrong at `u` behind the name of an expression. -/
def BehindFault (base : Text) (f : PathFault) (t u : Text) : Prop :=
  ∃ front, t = front ++ u ∧
    (∃ (row : List Step) (style : Option Suffix) (after : Blanks),
      front <+: rowText row ++ (styleText style ++ after.1) ∧
      (HasLongIndex front ∨ ∀ s ∈ row, ¬ s.IsLong)) ∧
    ((∀ stop, Finds (readBehind base stop) f front u) ∨
      ∃ (row : List Step) (before : Blanks), front = rowText row ++ '[' :: before.1 ∧ BareMinus u)

theorem behindFault {base : Text} {stop : Nat} {t u : Text} {f : PathFault}
    (h : readBehind base stop t = .error (.fault f u)) : BehindFault base f t u := by
  have hknown := rowKnown stop t
  rcases bind_eq_error.mp h with hrow | ⟨⟨accessors, rest⟩, hrow, h⟩
  · rw [hrow] at hknown
    obtain ⟨front, ht, ⟨row, hprefix, hshort⟩, hfinds⟩ := hknown
    refine ⟨front, ht, ⟨row, none, noBlanks, ?_, hshort⟩,
      hfinds.imp_left fun hfinds stop v hv => ?_⟩
    · exact hprefix.trans (List.prefix_append _ _)
    · rw [readBehind, hfinds stop v hv]
      rfl
  · rw [hrow] at hknown
    obtain ⟨row, ht, hshort, hread⟩ := hknown
    have hend : readEnd rest = .error (.fault f u) := by
      rcases bind_eq_error.mp h with hend | ⟨style, -, h⟩
      · exact hend
      · cases h
    obtain ⟨front, hrest, ⟨style, after, hprefix⟩, hfinds⟩ := endFault hend
    refine ⟨rowText row ++ front, by rw [List.append_assoc, ← hrest, ht],
      ⟨row, style, after, (List.prefix_append_right_inj _).mpr hprefix, .inr hshort⟩,
      .inl fun stop v hv => ?_⟩
    obtain ⟨accessors', hread⟩ := hread stop (front ++ v)
      (by rw [hrest, List.head?_append, List.head?_append, hv])
    rw [List.append_assoc, readBehind, hread]
    exact bind_eq_error.mpr (.inr ⟨_, rfl, bind_eq_error.mpr (.inl (hfinds v hv))⟩)

/-- What is found behind the name is found in the expression. -/
theorem Finds.stem {base : Name} {f : PathFault} {front u : Text}
    (hname : Stops isNameChar (front ++ u)) (h : ∀ stop, Finds (readBehind base.1 stop) f front u)
    (before : Blanks) (offset : Nat) :
    Finds (read offset) f (before.1 ++ (base.1 ++ front)) u := by
  intro v hv
  have hread := read_stem offset before base (hname.of_head?_append hv)
  rw [List.append_assoc, List.append_assoc, hread]
  exact h _ v hv

end Path

end Phrasing
