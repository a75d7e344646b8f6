/-
# The canonical text of a path

The canonical text of a path that was read is read back as the path, with every accessor at its
place in that text (`parse_text`).  For this, an expression is written anew without white space, and
with its indexes in decimal (`Derivation.plain`): what is written then is the canonical text of its
path, and it denotes the same.

A number in decimal has no more digits than any other way to write it, so an index that was read is
not too long to be read again.
-/
import Phrasing.Proofs.Template.Acceptance

namespace Phrasing

/-! ## 1. Numbers in decimal -/

namespace Number

open Text

theorem digits_ne_nil (n : Nat) : digits n ≠ [] := Nat.toDigits_ne_nil

theorem all_isAsciiDigit_digits (n : Nat) : (digits n).all isAsciiDigit = true := by
  refine List.all_eq_true.mpr fun c hc => ?_
  exact Nat.isDigit_of_mem_toDigits (by decide) (by decide) hc

/-- The digits of a number spell it. -/
theorem digitsValue_digits (n : Nat) : digitsValue ((digits n).map (·.toNat - 48)) = n := by
  rw [digitsValue, List.foldl_map]
  exact Nat.ofDigitChars_toDigits (by decide) (by decide)

theorem foldl_digits_lt {ds : List Nat} (h : ∀ d ∈ ds, d < 10) (n : Nat) :
    ds.foldl (fun n d => 10 * n + d) n < (n + 1) * Nat.pow 10 ds.length := by
  induction ds generalizing n with
  | nil =>
    rw [List.foldl_nil, List.length_nil, Nat.pow, Nat.mul_one]
    exact Nat.lt_succ_self n
  | cons d ds ih =>
    obtain ⟨hd, hds⟩ := List.forall_mem_cons.mp h
    have hpow : Nat.pow 10 (ds.length + 1) = Nat.pow 10 ds.length * 10 := rfl
    calc (d :: ds).foldl (fun n d => 10 * n + d) n
        = ds.foldl (fun n d => 10 * n + d) (10 * n + d) := List.foldl_cons ..
      _ < (10 * n + d + 1) * Nat.pow 10 ds.length := ih hds _
      _ ≤ ((n + 1) * 10) * Nat.pow 10 ds.length := Nat.mul_le_mul_right _ (by omega)
      _ = (n + 1) * Nat.pow 10 (ds.length + 1) := by
        rw [hpow, Nat.mul_assoc, Nat.mul_comm 10]

theorem toNat_sub_lt_of_isAsciiDigit {c : Char} (h : isAsciiDigit c = true) :
    c.toNat - 48 < 10 := by
  have hhigh : c.toNat ≤ 57 := (Path.between_iff.mp h).2
  omega

/-- No way to write a number is shorter than its digits. -/
theorem length_digits_le {ds : Text} (hne : ds ≠ []) (h : ds.all isAsciiDigit = true) :
    (digits (digitsValue (ds.map (·.toNat - 48)))).length ≤ ds.length := by
  have hsmall : ∀ d ∈ ds.map (·.toNat - 48), d < 10 :=
    List.forall_mem_map.mpr fun c hc => toNat_sub_lt_of_isAsciiDigit (List.all_eq_true.mp h c hc)
  have hvalue := foldl_digits_lt hsmall 0
  rw [Nat.zero_add, Nat.one_mul, List.length_map] at hvalue
  exact (Nat.length_toDigits_le_iff (by decide) (List.length_pos_iff.mpr hne)).mpr hvalue

/-- A number is its digits under its sign. -/
theorem signed_digits (i : Int) :
    signed (decide (i < 0)) ((digits i.natAbs).map (·.toNat - 48)) = i := by
  rw [signed, digitsValue_digits]
  split
  · next hneg =>
    have := of_decide_eq_true hneg
    omega
  · next hpos =>
    have := of_decide_eq_false (Bool.not_eq_true _ ▸ hpos)
    omega

theorem natAbs_signed (negative : Bool) (ds : List Nat) :
    (signed negative ds).natAbs = digitsValue ds := by
  cases negative
  · exact Int.natAbs_natCast _
  · exact (Int.natAbs_neg _).trans (Int.natAbs_natCast _)

end Number

namespace Path

open Text

theorem decimal_eq_sign (i : Int) :
    Number.decimal i = sign (decide (i < 0)) ++ Number.digits i.natAbs := by
  cases i with
  | ofNat n =>
    have h : ¬ Int.ofNat n < 0 := Int.not_lt.mpr (Int.natCast_nonneg n)
    rw [decide_eq_false h]
    rfl
  | negSucc n =>
    rw [decide_eq_true (Int.negSucc_lt_zero n)]
    rfl

/-! ## 2. Expressions written anew -/

/-- The number in decimal. -/
def Numeral.plain (i : Int) : Numeral :=
  ⟨noBlanks, decide (i < 0), Number.digits i.natAbs, noBlanks, Number.digits_ne_nil _,
    Number.all_isAsciiDigit_digits _⟩

theorem Numeral.text_plain (i : Int) : (Numeral.plain i).text = Number.decimal i := by
  rw [decimal_eq_sign]
  simp only [text, plain, noBlanks_val, List.nil_append, List.append_nil]

theorem Numeral.value_plain (i : Int) : (Numeral.plain i).value = i := Number.signed_digits i

theorem Numeral.not_isLong_plain {n : Numeral} (h : ¬ n.IsLong) : ¬ (plain n.value).IsLong := by
  have hdigits := Number.length_digits_le n.digits_ne_nil n.all_digits
  rw [← Number.natAbs_signed n.negative] at hdigits
  exact Nat.not_lt.mpr (Nat.le_trans hdigits (Nat.not_lt.mp h))

namespace Step

/-- The same accessor in its canonical spelling. -/
def plain : Step → Step
  | index n => index (Numeral.plain n.value)
  | field name => field name

theorem text_plain (s : Step) (offset : Nat) : s.plain.text = (s.accessor offset).text := by
  cases s with
  | index n =>
    rw [plain, text, Numeral.text_plain]
    rfl
  | field name => rfl

theorem accessor_plain (s : Step) (offset : Nat) : s.plain.accessor offset = s.accessor offset := by
  cases s with
  | index n =>
    rw [plain, accessor, Numeral.value_plain]
    rfl
  | field name => rfl

theorem not_isLong_plain {s : Step} (h : ¬ s.IsLong) : ¬ s.plain.IsLong := by
  cases s with
  | index n => exact Numeral.not_isLong_plain h
  | field name => exact h

end Step

/-- The canonical spelling of accessors in a row. -/
theorem rowText_plain (row : List Step) (offset : Nat) :
    rowText (row.map Step.plain) = (rowAccessors offset row).flatMap Accessor.text := by
  induction row generalizing offset with
  | nil => rfl
  | cons s row ih =>
    rw [List.map_cons, rowText, List.flatMap_cons, ← rowText, ih, Step.text_plain s offset]
    rfl

/-- The same style in its canonical spelling. -/
def Suffix.plain (s : Suffix) : Suffix := ⟨noBlanks, noBlanks, s.name⟩

/-- The same expression without white space, its indexes in decimal. -/
def Derivation.plain (x : Derivation) : Derivation where
  before := noBlanks
  base := x.base
  steps := x.steps.map Step.plain
  style := x.style.map Suffix.plain
  after := noBlanks

/-- **An expression is written anew** as the canonical text of its path. -/
theorem Derivation.text_plain (x : Derivation) (offset : Nat) :
    x.plain.text = (x.path offset).text := by
  have hrow := rowText_plain x.steps (offset + (x.before.1 ++ x.base.1).length)
  simp only [Derivation.text, Stem.text, plain, noBlanks_val, Path.text, path, hrow]
  cases x.style with
  | none => simp [styleText]
  | some s => simp [styleText, Suffix.text, Suffix.plain]

theorem Derivation.not_isLong_plain {x : Derivation} (h : ∀ s ∈ x.steps, ¬ s.IsLong) :
    ∀ s ∈ x.plain.steps, ¬ s.IsLong :=
  List.forall_mem_map.mpr fun s hs => Step.not_isLong_plain (h s hs)

/-! ## 3. Paths that are equal up to offsets -/

end Path

namespace Accessor

/-- What an accessor asks for, wherever it is written: an index or a field. -/
def key : Accessor → Int ⊕ Text
  | index n _ => .inl n
  | field name _ => .inr name

/-- The canonical spelling of what is asked for. -/
def keyText : Int ⊕ Text → Text
  | .inl n => '[' :: Number.decimal n ++ [']']
  | .inr name => '.' :: name

theorem keyText_key (a : Accessor) : keyText a.key = a.text := by cases a <;> rfl

end Accessor

namespace Path

/-- Paths that are equal up to the offsets of their accessors. -/
structure Alike (p q : Path) : Prop where
  base : p.base = q.base
  accessors : p.accessors.map Accessor.key = q.accessors.map Accessor.key
  style : p.style = q.style

theorem Alike.symm {p q : Path} (h : p.Alike q) : q.Alike p :=
  ⟨h.base.symm, h.accessors.symm, h.style.symm⟩

theorem Alike.trans {p q r : Path} (h : p.Alike q) (h' : q.Alike r) : p.Alike r :=
  ⟨h.base.trans h'.base, h.accessors.trans h'.accessors, h.style.trans h'.style⟩

/-- Offsets do not show in the canonical text. -/
theorem Alike.text_eq {p q : Path} (h : p.Alike q) : p.text = q.text := by
  have hrow (as : List Accessor) :
      as.flatMap Accessor.text = (as.map Accessor.key).flatMap Accessor.keyText := by
    simp only [List.flatMap_map, Accessor.keyText_key]
  simp only [text, hrow, h.base, h.accessors, h.style]

/-- Every accessor notes where it stands in the canonical text, which starts at `offset`. -/
def Placed (offset : Nat) (p : Path) : Prop :=
  ∀ before a after, p.accessors = before ++ a :: after →
    ∃ rest, p.text = p.base ++ before.flatMap Accessor.text ++ (a.text ++ rest) ∧
      a.offset = offset + (p.base ++ before.flatMap Accessor.text).length

theorem exists_text_append {p : Path} {before after : List Accessor} {a : Accessor}
    (h : p.accessors = before ++ a :: after) :
    ∃ rest, p.text = p.base ++ before.flatMap Accessor.text ++ (a.text ++ rest) := by
  simp only [text, h, List.flatMap_append, List.flatMap_cons, List.append_assoc]
  exact ⟨_, rfl⟩

theorem key_rowAccessors (offset : Nat) (row : List Step) :
    (rowAccessors offset row).map Accessor.key = row.map fun s => (s.accessor 0).key := by
  induction row generalizing offset with
  | nil => rfl
  | cons s row ih =>
    have hkey : (s.accessor offset).key = (s.accessor 0).key := by cases s <;> rfl
    rw [rowAccessors, List.map_cons, ih, hkey, List.map_cons]

/-- Written anew, an expression denotes the same path up to offsets. -/
theorem Derivation.alike_plain (x : Derivation) (start offset : Nat) :
    (x.plain.path start).Alike (x.path offset) where
  base := rfl
  accessors := by
    simp only [path, plain, key_rowAccessors, List.map_map]
    exact List.map_congr_left fun s _ => congrArg Accessor.key (s.accessor_plain 0)
  style := by
    simp only [path, plain, Option.map_map]
    rfl

/-- Accessors in their canonical spelling note where they are written. -/
theorem offset_eq_of_plain (offset : Nat) {row : List Step} {before after : List Accessor}
    {a : Accessor} (h : rowAccessors offset (row.map Step.plain) = before ++ a :: after) :
    a.offset = offset + (before.flatMap Accessor.text).length := by
  induction row generalizing offset before with
  | nil => exact absurd h.symm (List.append_ne_nil_of_right_ne_nil _ (List.cons_ne_nil _ _))
  | cons s row ih =>
    rw [List.map_cons, rowAccessors, Step.accessor_plain, Step.text_plain s offset] at h
    cases before with
    | nil =>
      obtain ⟨rfl, -⟩ := List.cons.inj h
      cases s <;> rfl
    | cons b before =>
      obtain ⟨rfl, hmore⟩ := List.cons.inj h
      rw [ih _ hmore, List.flatMap_cons, List.length_append, Nat.add_assoc]

theorem Derivation.placed_plain (x : Derivation) (start : Nat) :
    (x.plain.path start).Placed start := by
  intro before a after h
  obtain ⟨rest, htext⟩ := exists_text_append h
  have hoffset := offset_eq_of_plain (start + x.base.1.length) h
  refine ⟨rest, htext, ?_⟩
  rw [hoffset, List.length_append, Nat.add_assoc]
  rfl

/-! ## 4. Reading the canonical text -/

/-- **What is read is read again** from its canonical text, wherever that starts. -/
theorem exists_alike_of_parse {start : Position} {source : Text} {p : Path}
    (h : parse start source = .ok p) (start' : Position) :
    ∃ q, parse start' p.text = .ok q ∧ q.Alike p ∧ q.Placed start'.offset := by
  obtain ⟨hshort, x, rfl, rfl⟩ := read_eq_ok_iff.mp (parse_eq_ok.mp h)
  have hsteps (s : Step) (hmem : s ∈ x.steps) : ¬ s.IsLong := fun hs =>
    hshort (longIndex_text hmem hs)
  refine ⟨x.plain.path start'.offset, parse_eq_ok.mpr ?_, x.alike_plain _ _, x.placed_plain _⟩
  rw [← x.text_plain start.offset]
  exact read_text x.plain (Derivation.not_isLong_plain hsteps) _

/-- **The canonical text of a path is read as the path.**  Whatever text is read as the path `p`:

* Its canonical text is read, wherever it starts, as a path that is equal to `p` up to offsets,
  whose accessors note where they stand in that text, and whose canonical text is the same.
* Another path that is read has the same canonical text if and only if it is equal to `p` up to
  offsets. -/
theorem parse_text {start : Position} {source : Text} {p : Path} (h : parse start source = .ok p) :
    (∀ start', ∃ q, parse start' p.text = .ok q ∧ q.Alike p ∧ q.Placed start'.offset ∧
      q.text = p.text) ∧
    ∀ start' source' p', parse start' source' = .ok p' → (p.text = p'.text ↔ p.Alike p') := by
  refine ⟨fun start' => ?_, fun start' source' p' h' => ⟨fun htext => ?_, Alike.text_eq⟩⟩
  · obtain ⟨q, hq, halike, hplaced⟩ := exists_alike_of_parse h start'
    exact ⟨q, hq, halike, hplaced, halike.text_eq⟩
  · obtain ⟨q, hq, halike, -⟩ := exists_alike_of_parse h .start
    obtain ⟨q', hq', halike', -⟩ := exists_alike_of_parse h' .start
    rw [← htext, hq, Except.ok.injEq] at hq'
    subst hq'
    exact halike.symm.trans halike'

/-- White space, zeros in front and the sign of zero do not show in the canonical text. -/
theorem parse_text_spaced :
    let source := " a[ -00 ].b : c ".toList
    let p : Path := ⟨['a'], [.index 0 2, .field ['b'] 9], some ['c']⟩
    let p' : Path := ⟨['a'], [.index 0 1, .field ['b'] 4], some ['c']⟩
    parse .start source = .ok p ∧ parse .start "a[0].b:c".toList = .ok p' ∧
      (∃ q, parse .start p.text = .ok q ∧ q.Alike p ∧ q.Placed 0 ∧ q.text = p.text) ∧
      (p.text = p'.text ↔ p.Alike p') := by
  intro source p p'
  let blank : Blanks := ⟨[' '], rfl⟩
  let index : Numeral := ⟨blank, true, ['0', '0'], blank, List.cons_ne_nil _ _, rfl⟩
  let x : Derivation :=
    ⟨⟨blank, ⟨['a'], rfl, rfl⟩, [.index index, .field ⟨['b'], rfl, rfl⟩]⟩,
      some ⟨blank, blank, ⟨['c'], rfl, rfl⟩⟩, blank⟩
  have hshort : ∀ s ∈ x.steps, ¬ s.IsLong := by
    have hindex : ¬ index.IsLong := by decide
    exact List.forall_mem_cons.mpr ⟨hindex, List.forall_mem_singleton.mpr not_false⟩
  have h : parse .start source = .ok p := parse_eq_ok.mpr (read_text x hshort 0)
  have htext : x.plain.text = "a[0].b:c".toList := by decide
  have hpath : x.plain.path 0 = p' := by decide
  have h' : parse .start "a[0].b:c".toList = .ok p' := by
    rw [← htext, ← hpath]
    exact parse_eq_ok.mpr (read_text x.plain (Derivation.not_isLong_plain hshort) 0)
  exact ⟨h, h', (parse_text h).1 .start, (parse_text h).2 _ _ _ h'⟩

end Path

end Phrasing
