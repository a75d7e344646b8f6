/-
# The spelling of accessors

What the text of an accessor looks like: a dot and a name, or a number between brackets, with
white space around it.  Accessors in a row (`Spelled`) note where each of them starts, so that they
stand one behind the other.
-/
import Phrasing.Proofs.Template.Segments

namespace Phrasing

/-! ## 1. Names and indexes -/

namespace Path

/-- A name: a character that can start one, and others that can continue it. -/
def IsName : Text → Prop
  | [] => False
  | c :: rest => isNameStart c = true ∧ rest.all isNameChar = true

/-- A name that is read stands at the front of the text. -/
theorem readName_eq_some {t name rest : Text} (h : readName t = some (name, rest)) :
    IsName name ∧ t = name ++ rest := by
  cases t with
  | nil => cases h
  | cons c t =>
    simp only [readName] at h
    split at h
    · next hstart =>
      cases h
      exact ⟨⟨hstart, List.all_takeWhile⟩, by simp⟩
    · cases h

/-- An optional minus sign in front of a number. -/
def sign (negative : Bool) : Text := if negative then ['-'] else []

theorem sign_append_readMinus (t : Text) : sign (readMinus t).1 ++ (readMinus t).2 = t := by
  unfold readMinus
  split <;> rfl

/-- The text between the brackets of an index: white space, a number, white space. -/
inductive SpellsIndex : Text → Int → Prop
  | mk {before digits after : Text} (negative : Bool) (hbefore : before.all Text.isBlank = true)
      (hne : digits ≠ []) (hdigits : digits.all Text.isAsciiDigit = true)
      (hafter : after.all Text.isBlank = true) :
      SpellsIndex (before ++ (sign negative ++ (digits ++ after)))
        (Number.signed negative (digits.map (·.toNat - 48)))

end Path

/-! ## 2. Accessors in a row -/

namespace Accessor

/-- The text of an accessor. -/
inductive Spells : Text → Accessor → Prop
  | index {inner : Text} {n : Int} (offset : Nat) :
    Path.SpellsIndex inner n → Spells ('[' :: (inner ++ [']'])) (.index n offset)
  | field {name : Text} (offset : Nat) : Path.IsName name → Spells ('.' :: name) (.field name offset)

/-- The texts of accessors in a row, the first of which starts at the offset `n`; each accessor
notes where it starts. -/
inductive Spelled : Nat → Text → List Accessor → Prop
  | nil (n : Nat) : Spelled n [] []
  | cons {n : Nat} {s t : Text} {a : Accessor} {as : List Accessor} :
    Spells s a → a.offset = n → Spelled (n + s.length) t as → Spelled n (s ++ t) (a :: as)

theorem Spells.length_pos {s : Text} {a : Accessor} (h : Spells s a) : 0 < s.length := by
  cases h <;> exact Nat.succ_pos _

/-- Each accessor stands where it notes. -/
theorem Spelled.exists_append {n : Nat} {t : Text} {as : List Accessor} (h : Spelled n t as) :
    ∀ a ∈ as, ∃ before s after, t = before ++ (s ++ after) ∧ a.offset = n + before.length ∧
      Spells s a := by
  induction h with
  | nil n => exact List.forall_mem_nil _
  | @cons n s t a as hs ha _ ih =>
    refine List.forall_mem_cons.mpr ⟨⟨[], s, t, rfl, ha, hs⟩, fun b hb => ?_⟩
    obtain ⟨before, s', after, rfl, hoffset, hs'⟩ := ih b hb
    refine ⟨s ++ before, s', after, by rw [List.append_assoc], ?_, hs'⟩
    rw [hoffset, List.length_append, Nat.add_assoc]

/-- Accessors in a row stand one behind the other. -/
theorem Spelled.pairwise {n : Nat} {t : Text} {as : List Accessor} (h : Spelled n t as) :
    as.Pairwise (·.offset < ·.offset) := by
  induction h with
  | nil n => exact .nil
  | @cons n s t a as hs ha hmore ih =>
    refine .cons (fun b hb => ?_) ih
    obtain ⟨before, s', after, -, hoffset, -⟩ := hmore.exists_append b hb
    have hpos := hs.length_pos
    omega

end Accessor

end Phrasing
