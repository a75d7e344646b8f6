/-
# Order of texts

Texts are ordered by the code points of their characters, a shorter text before its
extensions.  `sort` is stable and depends only on which texts there are, not on where they
stood.
-/
import Phrasing.Text.Basic

namespace Phrasing.Text

/-- `le a b`: `a` comes no later than `b` in code-point order. -/
def le : (a b : Text) → Bool
  | [], _ => true
  | _ :: _, [] => false
  | x :: a, y :: b => if x.toNat < y.toNat then true else if x = y then le a b else false

@[simp] theorem le_refl (a : Text) : le a a = true := by
  induction a with
  | nil => rfl
  | cons x a ih => simp [le, ih]

theorem le_total (a b : Text) : (le a b || le b a) = true := by
  induction a generalizing b with
  | nil => simp [le]
  | cons x a ih =>
    cases b with
    | nil => simp [le]
    | cons y b =>
      have hxy : x.toNat < y.toNat ∨ x = y ∨ y.toNat < x.toNat := by
        rcases Nat.lt_trichotomy x.toNat y.toNat with h | h | h
        · exact .inl h
        · exact .inr (.inl (Char.toNat_inj.mp h))
        · exact .inr (.inr h)
      rcases hxy with h | rfl | h
      · simp [le, h]
      · simpa [le] using ih b
      · simp [le, h]

theorem le_trans {a b c : Text} (hab : le a b = true) (hbc : le b c = true) : le a c = true := by
  induction a generalizing b c with
  | nil => rfl
  | cons x a ih =>
    cases b with
    | nil => cases hab
    | cons y b =>
      cases c with
      | nil => cases hbc
      | cons z c =>
        simp only [le, Bool.if_true_left, Bool.or_eq_true, decide_eq_true_eq,
          Bool.if_false_right, Bool.and_eq_true] at hab hbc ⊢
        rcases hab with hxy | ⟨rfl, hab⟩
        · rcases hbc with hyz | ⟨rfl, -⟩
          · exact .inl (Nat.lt_trans hxy hyz)
          · exact .inl hxy
        · rcases hbc with hyz | ⟨rfl, hbc⟩
          · exact .inl hyz
          · exact .inr ⟨rfl, ih hab hbc⟩

theorem le_antisymm {a b : Text} (hab : le a b = true) (hba : le b a = true) : a = b := by
  induction a generalizing b with
  | nil =>
    cases b with
    | nil => rfl
    | cons y b => cases hba
  | cons x a ih =>
    cases b with
    | nil => cases hab
    | cons y b =>
      simp only [le, Bool.if_true_left, Bool.or_eq_true, decide_eq_true_eq,
        Bool.if_false_right, Bool.and_eq_true] at hab hba
      rcases hab with hxy | ⟨rfl, hab⟩
      · rcases hba with hyx | ⟨rfl, -⟩
        · exact absurd hyx (Nat.lt_asymm hxy)
        · exact absurd hxy (Nat.lt_irrefl _)
      · rcases hba with hxx | ⟨-, hba⟩
        · exact absurd hxx (Nat.lt_irrefl _)
        · rw [ih hab hba]

/-- The texts in code-point order. -/
def sort (ts : List Text) : List Text := ts.mergeSort le

/-- Nothing is added or lost by sorting. -/
theorem sort_perm (ts : List Text) : (sort ts).Perm ts := List.mergeSort_perm ts le

/-- Each text comes no later than those behind it. -/
theorem pairwise_sort (ts : List Text) : (sort ts).Pairwise fun a b => le a b = true :=
  @List.pairwise_mergeSort Text le (fun _ _ _ hab hbc => le_trans hab hbc) le_total ts

/-- Where the texts stood before makes no difference. -/
theorem sort_eq_of_perm {ts us : List Text} (h : ts.Perm us) : sort ts = sort us :=
  List.Perm.eq_of_pairwise (fun _ _ _ _ hab hba => le_antisymm hab hba) (pairwise_sort ts)
    (pairwise_sort us) ((sort_perm ts).trans (h.trans (sort_perm us).symm))

end Phrasing.Text
