/-
# The grammar of expressions

An expression is written

    WS* NAME ( '[' WS* '-'? DIGIT+ WS* ']' | '.' NAME )* ( WS* ':' WS* NAME )? WS*

where a name is a letter or underscore with letters, digits and underscores behind it.  A
`Derivation` is a way to write one, with all of its white space: `text` is what is written, and
`path` the path that it denotes.

The grammar is unambiguous (`Derivation.text_injective`).  Every part ends where the class of its
characters does, so a part in front of any text that goes on with something else determines both
itself and that text; the parts are cancelled from the left, one after the other.
-/
import Phrasing.Proofs.Template.Spelling

namespace Phrasing

/-! ## 1. Runs of a class of characters -/

namespace Text

/-- A text that does not go on with a character of a class. -/
def Stops (p : Char → Bool) (t : Text) : Prop := ∀ c ∈ t.head?, p c = false

variable {p : Char → Bool} {s s' t t' : Text} {c : Char}

theorem stops_nil (p : Char → Bool) : Stops p [] := fun _ h => by cases h

theorem stops_cons : Stops p (c :: t) ↔ p c = false := by simp [Stops]

/-- What a text starts with decides whether it stops, unless it is empty. -/
theorem Stops.append (hs : Stops p s) (ht : Stops p t) : Stops p (s ++ t) := by
  cases s with
  | nil => exact ht
  | cons c s => exact stops_cons.mpr (stops_cons.mp hs)

/-- A text of characters outside the class, in front of one that stops, stops. -/
theorem stops_append_of_all {q : Char → Bool} (hpq : ∀ c, q c = true → p c = false)
    (hs : s.all q = true) (ht : Stops p t) : Stops p (s ++ t) := by
  refine Stops.append (fun c hc => hpq c ?_) ht
  exact List.all_eq_true.mp hs c (List.mem_of_mem_head? hc)

theorem stops_dropWhile (p : Char → Bool) (t : Text) : Stops p (t.dropWhile p) := by
  intro c hc
  have hhead := List.head?_dropWhile_not p t
  rw [hc] at hhead
  exact hhead

theorem takeWhile_append_of_stops (hs : s.all p = true) (ht : Stops p t) :
    (s ++ t).takeWhile p = s ∧ (s ++ t).dropWhile p = t := by
  induction s with
  | nil =>
    cases t with
    | nil => exact ⟨rfl, rfl⟩
    | cons c t =>
      have hc : ¬ p c = true := by simp [stops_cons.mp ht]
      exact ⟨List.takeWhile_cons_of_neg hc, List.dropWhile_cons_of_neg hc⟩
  | cons c s ih =>
    obtain ⟨hc, hs⟩ := (Bool.and_eq_true _ _).mp hs
    obtain ⟨htake, hdrop⟩ := ih hs
    rw [List.cons_append, List.takeWhile_cons_of_pos hc, List.dropWhile_cons_of_pos hc]
    exact ⟨congrArg (c :: ·) htake, hdrop⟩

/-- **A run ends where its class does**: it is determined by the text that it starts. -/
theorem run_append_inj (hs : s.all p = true) (hs' : s'.all p = true) (ht : Stops p t)
    (ht' : Stops p t') (h : s ++ t = s' ++ t') : s = s' ∧ t = t' := by
  obtain ⟨htake, hdrop⟩ := takeWhile_append_of_stops hs ht
  obtain ⟨htake', hdrop'⟩ := takeWhile_append_of_stops hs' ht'
  rw [h] at htake hdrop
  exact ⟨htake.symm.trans htake', hdrop.symm.trans hdrop'⟩

end Text

namespace Path

open Text

theorem between_iff {a b c : Char} :
    (a ≤ c && c ≤ b) = true ↔ a.toNat ≤ c.toNat ∧ c.toNat ≤ b.toNat := by
  simp [Char.le_def, UInt32.le_iff_toNat_le]

theorem isBlank_eq_false_of_between {c : Char} (h : '!'.toNat ≤ c.toNat ∧ c.toNat ≤ '~'.toNat) :
    isBlank c = false := by
  have hlow : 33 ≤ c.toNat := h.1
  have hhigh : c.toNat ≤ 126 := h.2
  simp only [isBlank, Bool.or_eq_false_iff, Bool.and_eq_false_iff, decide_eq_false_iff_not,
    beq_eq_false_iff_ne]
  omega

theorem isBlank_eq_false_of_isAsciiDigit {c : Char} (h : isAsciiDigit c = true) :
    isBlank c = false := by
  obtain ⟨hlow, hhigh⟩ := between_iff.mp h
  exact isBlank_eq_false_of_between
    ⟨Nat.le_trans (by decide) hlow, Nat.le_trans hhigh (by decide)⟩

theorem isBlank_eq_false_of_isNameChar {c : Char} (h : isNameChar c = true) :
    isBlank c = false := by
  simp only [isNameChar, isNameStart, Bool.or_eq_true, between_iff] at h
  rcases h with ((⟨hlow, hhigh⟩ | ⟨hlow, hhigh⟩) | h) | h
  · exact isBlank_eq_false_of_between
      ⟨Nat.le_trans (by decide) hlow, Nat.le_trans hhigh (by decide)⟩
  · exact isBlank_eq_false_of_between
      ⟨Nat.le_trans (by decide) hlow, Nat.le_trans hhigh (by decide)⟩
  · cases eq_of_beq h
    rfl
  · exact isBlank_eq_false_of_isAsciiDigit h

theorem isNameChar_eq_false_of_isBlank {c : Char} (h : isBlank c = true) :
    isNameChar c = false := by
  cases hc : isNameChar c with
  | false => rfl
  | true =>
    rw [isBlank_eq_false_of_isNameChar hc] at h
    cases h

theorem isAsciiDigit_eq_false_of_isBlank {c : Char} (h : isBlank c = true) :
    isAsciiDigit c = false :=
  (Bool.or_eq_false_iff.mp (isNameChar_eq_false_of_isBlank h)).2

/-! ## 2. The parts of an expression -/

/-- White space, possibly none. -/
abbrev Blanks := { t : Text // t.all isBlank = true }

/-- No white space. -/
def noBlanks : Blanks := ⟨[], rfl⟩

@[simp] theorem noBlanks_val : noBlanks.1 = [] := rfl

/-- A name. -/
abbrev Name := { t : Text // IsName t }

/-- What stands between the brackets of an index. -/
structure Numeral where
  before : Blanks
  negative : Bool
  digits : Text
  after : Blanks
  digits_ne_nil : digits ≠ []
  all_digits : digits.all isAsciiDigit = true
deriving DecidableEq

/-- An accessor as it is written. -/
inductive Step where
  | index (n : Numeral)
  | field (name : Name)
deriving DecidableEq

/-- A style behind its colon. -/
structure Suffix where
  before : Blanks
  after : Blanks
  name : Name
deriving DecidableEq

/-- The front of an expression, up to one of its accessors. -/
structure Stem where
  before : Blanks
  base : Name
  steps : List Step
deriving DecidableEq

/-- A whole expression. -/
structure Derivation extends Stem where
  style : Option Suffix
  after : Blanks
deriving DecidableEq

namespace Numeral

/-- What is written between the brackets. -/
def text (n : Numeral) : Text := n.before.1 ++ (sign n.negative ++ (n.digits ++ n.after.1))

/-- The number that is written in decimal. -/
def value (n : Numeral) : Int := Number.signed n.negative (n.digits.map (·.toNat - 48))

/-- A number of too many digits to be read. -/
def IsLong (n : Numeral) : Prop := Number.digitLimit < n.digits.length

instance (n : Numeral) : Decidable n.IsLong := inferInstanceAs (Decidable (_ < _))

end Numeral

namespace Step

/-- What is written. -/
def text : Step → Text
  | index n => '[' :: (n.text ++ [']'])
  | field name => '.' :: name.1

/-- The accessor that is written at an offset. -/
def accessor (offset : Nat) : Step → Accessor
  | index n => .index n.value offset
  | field name => .field name.1 offset

/-- An index of too many digits. -/
def IsLong : Step → Prop
  | index n => n.IsLong
  | field _ => False

end Step

/-- Accessors that are written one behind the other. -/
def rowText (row : List Step) : Text := row.flatMap Step.text

/-- The accessors that are written in a row which starts at an offset. -/
def rowAccessors (offset : Nat) : List Step → List Accessor
  | [] => []
  | s :: row => s.accessor offset :: rowAccessors (offset + s.text.length) row

theorem Numeral.spellsIndex (n : Numeral) : SpellsIndex n.text n.value :=
  .mk n.negative n.before.2 n.digits_ne_nil n.all_digits n.after.2

theorem Step.spells (s : Step) (offset : Nat) : Accessor.Spells s.text (s.accessor offset) := by
  cases s with
  | index n => exact .index offset n.spellsIndex
  | field name => exact .field offset name.2

/-- The accessors of a row are spelled by it. -/
theorem spelled_row (offset : Nat) (row : List Step) :
    Accessor.Spelled offset (rowText row) (rowAccessors offset row) := by
  induction row generalizing offset with
  | nil => exact .nil offset
  | cons s row ih =>
    have hoffset : (s.accessor offset).offset = offset := by cases s <;> rfl
    exact .cons (s.spells offset) hoffset (ih _)

namespace Suffix

/-- What is written. -/
def text (s : Suffix) : Text := s.before.1 ++ ':' :: (s.after.1 ++ s.name.1)

end Suffix

/-- A style that may be written. -/
def styleText : Option Suffix → Text
  | none => []
  | some s => s.text

namespace Stem

/-- What is written. -/
def text (s : Stem) : Text := s.before.1 ++ (s.base.1 ++ rowText s.steps)

end Stem

namespace Derivation

/-- What is written. -/
def text (x : Derivation) : Text := x.toStem.text ++ (styleText x.style ++ x.after.1)

/-- The path of an expression that is written at an offset. -/
def path (offset : Nat) (x : Derivation) : Path where
  base := x.base.1
  accessors := rowAccessors (offset + (x.before.1 ++ x.base.1).length) x.steps
  style := x.style.map (·.name.1)

end Derivation

/-! ## 3. Where the parts end -/

theorem all_isNameChar (name : Name) : name.1.all isNameChar = true := by
  obtain ⟨t, ht⟩ := name
  cases t with
  | nil => exact ht.elim
  | cons c t =>
    rw [List.all_cons, isNameChar, ht.1, Bool.true_or, Bool.true_and]
    exact ht.2

theorem name_ne_nil (name : Name) : name.1 ≠ [] := fun h => by
  obtain ⟨t, ht⟩ := name
  cases h
  exact ht

theorem stops_of_ne_nil {p : Char → Bool} {s t : Text} (hne : s ≠ []) (hs : Stops p s) :
    Stops p (s ++ t) := by
  obtain ⟨c, s, rfl⟩ := List.exists_cons_of_ne_nil hne
  exact stops_cons.mpr (stops_cons.mp hs)

/-- White space ends at a name. -/
theorem stops_isBlank_name (name : Name) (t : Text) : Stops isBlank (name.1 ++ t) :=
  stops_of_ne_nil (name_ne_nil name) fun c hc => isBlank_eq_false_of_isNameChar
    (List.all_eq_true.mp (all_isNameChar name) c (List.mem_of_mem_head? hc))

namespace Numeral

/-- White space ends at a number. -/
theorem stops_isBlank_digits (n : Numeral) (t : Text) : Stops isBlank (n.digits ++ t) :=
  stops_of_ne_nil n.digits_ne_nil fun c hc => isBlank_eq_false_of_isAsciiDigit
    (List.all_eq_true.mp n.all_digits c (List.mem_of_mem_head? hc))

theorem stops_isBlank_sign (n : Numeral) (t : Text) :
    Stops isBlank (sign n.negative ++ (n.digits ++ t)) := by
  cases n.negative with
  | false => exact n.stops_isBlank_digits t
  | true => exact stops_cons.mpr rfl

/-- A minus sign is no digit. -/
theorem stops_minus_digits (n : Numeral) (t : Text) : Stops (· == '-') (n.digits ++ t) := by
  refine stops_of_ne_nil n.digits_ne_nil fun c hc => ?_
  have hdigit := List.all_eq_true.mp n.all_digits c (List.mem_of_mem_head? hc)
  refine beq_eq_false_iff_ne.mpr fun heq => ?_
  subst heq
  cases hdigit

/-- Digits end at the white space behind them, or else at the closing bracket. -/
theorem stops_isAsciiDigit_after (n : Numeral) (t : Text) :
    Stops isAsciiDigit (n.after.1 ++ ']' :: t) :=
  stops_append_of_all (fun _ => isAsciiDigit_eq_false_of_isBlank) n.after.2 (stops_cons.mpr rfl)

theorem stops_isBlank_bracket (t : Text) : Stops isBlank (']' :: t) := stops_cons.mpr rfl

end Numeral

/-- A character that a name or the next accessor can go on with. -/
def isStemChar (c : Char) : Bool := isNameChar c || c == '[' || c == '.'

theorem stops_isNameChar {t : Text} (h : Stops isStemChar t) : Stops isNameChar t := by
  intro c hc
  have hstem := h c hc
  simp only [isStemChar, Bool.or_eq_false_iff] at hstem
  exact hstem.1.1

theorem Step.stops_isNameChar_text (s : Step) (t : Text) : Stops isNameChar (s.text ++ t) := by
  cases s <;> exact stops_cons.mpr rfl

/-- A name ends at an accessor. -/
theorem stops_isNameChar_row (row : List Step) {t : Text} (h : Stops isNameChar t) :
    Stops isNameChar (rowText row ++ t) := by
  cases row with
  | nil => exact h
  | cons s row =>
    rw [rowText, List.flatMap_cons, List.append_assoc]
    exact s.stops_isNameChar_text _

theorem isStemChar_eq_false_of_isBlank {c : Char} (h : isBlank c = true) :
    isStemChar c = false := by
  have hbracket : c ≠ '[' := fun hc => by subst hc; cases h
  have hdot : c ≠ '.' := fun hc => by subst hc; cases h
  simp [isStemChar, isNameChar_eq_false_of_isBlank h, hbracket, hdot]

/-- Accessors end at a style, or else at the white space behind them. -/
theorem stops_isStemChar_end (style : Option Suffix) (after : Blanks) :
    Stops isStemChar (styleText style ++ after.1) := by
  have hafter : Stops isStemChar after.1 := by
    simpa using stops_append_of_all (fun _ => isStemChar_eq_false_of_isBlank) after.2
      (stops_nil isStemChar)
  cases style with
  | none => exact hafter
  | some s =>
    rw [styleText, Suffix.text, List.append_assoc]
    exact stops_append_of_all (fun _ => isStemChar_eq_false_of_isBlank) s.before.2
      (stops_cons.mpr rfl)

/-! ## 4. Each part determines itself -/

theorem sign_append_inj {a b : Bool} {t t' : Text} (ht : Stops (· == '-') t)
    (ht' : Stops (· == '-') t') (h : sign a ++ t = sign b ++ t') : a = b ∧ t = t' := by
  cases a <;> cases b
  · exact ⟨rfl, h⟩
  · subst h
    cases stops_cons.mp ht
  · subst h
    cases stops_cons.mp ht'
  · exact ⟨rfl, (List.cons.inj h).2⟩

theorem Numeral.text_append_inj {n m : Numeral} {t t' : Text}
    (h : n.text ++ ']' :: t = m.text ++ ']' :: t') : n = m ∧ t = t' := by
  simp only [text, List.append_assoc] at h
  obtain ⟨hbefore, h⟩ := run_append_inj n.before.2 m.before.2 (n.stops_isBlank_sign _)
    (m.stops_isBlank_sign _) h
  obtain ⟨hsign, h⟩ := sign_append_inj (n.stops_minus_digits _) (m.stops_minus_digits _) h
  obtain ⟨hdigits, h⟩ := run_append_inj n.all_digits m.all_digits (n.stops_isAsciiDigit_after _)
    (m.stops_isAsciiDigit_after _) h
  obtain ⟨hafter, h⟩ := run_append_inj n.after.2 m.after.2 (stops_isBlank_bracket _)
    (stops_isBlank_bracket _) h
  refine ⟨?_, (List.cons.inj h).2⟩
  cases n
  cases m
  simp only [mk.injEq]
  exact ⟨Subtype.ext hbefore, hsign, hdigits, Subtype.ext hafter⟩

theorem name_append_inj {a b : Name} {t t' : Text} (ht : Stops isNameChar t)
    (ht' : Stops isNameChar t') (h : a.1 ++ t = b.1 ++ t') : a = b ∧ t = t' := by
  obtain ⟨hname, hrest⟩ := run_append_inj (all_isNameChar a) (all_isNameChar b) ht ht' h
  exact ⟨Subtype.ext hname, hrest⟩

theorem Step.text_append_inj {s s' : Step} {t t' : Text} (ht : Stops isNameChar t)
    (ht' : Stops isNameChar t') (h : s.text ++ t = s'.text ++ t') : s = s' ∧ t = t' := by
  cases s with
  | index n =>
    cases s' with
    | index m =>
      simp only [text, List.cons_append, List.append_assoc, List.nil_append, List.cons.injEq,
        true_and] at h
      obtain ⟨rfl, hrest⟩ := Numeral.text_append_inj h
      exact ⟨rfl, hrest⟩
    | field name => cases (List.cons.inj h).1
  | field name =>
    cases s' with
    | index m => cases (List.cons.inj h).1
    | field name' =>
      obtain ⟨rfl, hrest⟩ := name_append_inj ht ht' (List.cons.inj h).2
      exact ⟨rfl, hrest⟩

/-- No accessor starts where accessors end. -/
theorem Step.text_append_ne {s : Step} {t t' : Text} (ht : Stops isStemChar t) :
    t ≠ s.text ++ t' := by
  rintro rfl
  cases s with
  | index n => cases stops_cons.mp ht
  | field name => cases stops_cons.mp ht

theorem rowText_append_inj {row row' : List Step} {t t' : Text} (ht : Stops isStemChar t)
    (ht' : Stops isStemChar t') (h : rowText row ++ t = rowText row' ++ t') :
    row = row' ∧ t = t' := by
  induction row generalizing row' with
  | nil =>
    cases row' with
    | nil => exact ⟨rfl, h⟩
    | cons s row' =>
      rw [rowText, rowText, List.flatMap_cons, List.append_assoc] at h
      exact absurd h (Step.text_append_ne ht)
  | cons s row ih =>
    cases row' with
    | nil =>
      rw [rowText, List.flatMap_cons, List.append_assoc] at h
      exact absurd h.symm (Step.text_append_ne ht')
    | cons s' row' =>
      simp only [rowText, List.flatMap_cons, List.append_assoc] at h
      obtain ⟨rfl, hrest⟩ := Step.text_append_inj (stops_isNameChar_row row (stops_isNameChar ht))
        (stops_isNameChar_row row' (stops_isNameChar ht')) h
      obtain ⟨rfl, hend⟩ := ih hrest
      exact ⟨rfl, hend⟩

theorem styleText_append_inj {a b : Option Suffix} {u v : Blanks}
    (h : styleText a ++ u.1 = styleText b ++ v.1) : a = b ∧ u = v := by
  -- There is no colon in white space.
  have hcolon (w : Blanks) (s : Suffix) (t : Text) : w.1 ≠ s.text ++ t := fun heq => by
    have hmem : ':' ∈ w.1 := by
      rw [heq]
      simp [Suffix.text]
    cases List.all_eq_true.mp w.2 ':' hmem
  have hafter (w : Blanks) : Stops isNameChar w.1 :=
    stops_isNameChar (stops_isStemChar_end none w)
  match a, b with
  | none, none => exact ⟨rfl, Subtype.ext h⟩
  | none, some s => exact absurd h (hcolon u s _)
  | some s, none => exact absurd h.symm (hcolon v s _)
  | some s, some s' =>
    simp only [styleText, Suffix.text, List.append_assoc, List.cons_append] at h
    obtain ⟨hbefore, h⟩ := run_append_inj s.before.2 s'.before.2 (stops_cons.mpr rfl)
      (stops_cons.mpr rfl) h
    obtain ⟨hbehind, h⟩ := run_append_inj s.after.2 s'.after.2 (stops_isBlank_name _ _)
      (stops_isBlank_name _ _) (List.cons.inj h).2
    obtain ⟨hname, h⟩ := name_append_inj (hafter u) (hafter v) h
    refine ⟨?_, Subtype.ext h⟩
    cases s
    cases s'
    simp only [Option.some.injEq, Suffix.mk.injEq]
    exact ⟨Subtype.ext hbefore, Subtype.ext hbehind, hname⟩

/-- **The grammar is unambiguous**: a text is written in one way at most. -/
theorem Derivation.text_injective : Function.Injective Derivation.text := by
  intro x y h
  simp only [text, Stem.text, List.append_assoc] at h
  have hend (z : Derivation) := stops_isStemChar_end z.style z.after
  obtain ⟨hbefore, h⟩ := run_append_inj x.before.2 y.before.2 (stops_isBlank_name _ _)
    (stops_isBlank_name _ _) h
  obtain ⟨hbase, h⟩ := name_append_inj (stops_isNameChar_row _ (stops_isNameChar (hend x)))
    (stops_isNameChar_row _ (stops_isNameChar (hend y))) h
  obtain ⟨hsteps, h⟩ := rowText_append_inj (hend x) (hend y) h
  obtain ⟨hstyle, hafter⟩ := styleText_append_inj h
  obtain ⟨⟨before, base, steps⟩, style, after⟩ := x
  obtain ⟨⟨before', base', steps'⟩, style', after'⟩ := y
  cases Subtype.ext hbefore
  cases hbase
  cases hsteps
  cases hstyle
  cases hafter
  rfl

end Path

end Phrasing
