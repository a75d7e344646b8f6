/-
# Lines and columns by counting

A line and column agree with an offset if they are what counting the source afresh gives: the
line is one more than the number of line feeds in front of the offset, and the column is the
distance from the last of them, or from the start of the source.

Positions are kept up character by character instead.  A step keeps the agreement
(`StandsBefore.step`), so **reading a source never loses it** (`StandsBefore.advance`).
-/
import Phrasing.Text.Position

namespace Phrasing.Position

/-- The index of the last line feed in front of the offset `n`, or -1 if there is none. -/
structure LastLineFeed (source : Text) (n : Nat) (i : Int) : Prop where
  found : i = -1 ∨ ∃ j : Nat, i = j ∧ j < n ∧ source[j]? = some '\n'
  last : ∀ j : Nat, i < j → j < n → source[j]? ≠ some '\n'

/-- A place in a source whose line and column are what counting gives. -/
structure Agrees (source : Text) (p : Position) : Prop where
  inside : p.offset ≤ source.length
  line : p.line = 1 + (source.take p.offset).count '\n'
  column : ∃ i : Int, LastLineFeed source p.offset i ∧ (p.column : Int) = p.offset - i

/-- A place that agrees with its offset, in front of the text `rest`. -/
structure StandsBefore (source rest : Text) (p : Position) : Prop where
  agrees : p.Agrees source
  drop : source.drop p.offset = rest

variable {source rest : Text} {p : Position}

theorem standsBefore_start (source : Text) : start.StandsBefore source source where
  agrees :=
    { inside := Nat.zero_le _
      line := rfl
      column := ⟨-1, ⟨Or.inl rfl, fun _ _ hj => absurd hj (Nat.not_lt_zero _)⟩, rfl⟩ }
  drop := rfl

/-- **A step keeps the agreement.** -/
theorem StandsBefore.step {c : Char} (h : p.StandsBefore source (c :: rest)) :
    (p.next c).StandsBefore source rest := by
  obtain ⟨⟨hinside, hline, i, hi, hcolumn⟩, hdrop⟩ := h
  have hc : source[p.offset]? = some c := by
    rw [← List.head?_drop, hdrop]
    rfl
  have hlt : p.offset < source.length := (List.getElem?_eq_some_iff.mp hc).1
  have hoffset : (p.next c).offset = p.offset + 1 := by
    unfold next
    split <;> rfl
  have htake : source.take (p.offset + 1) = source.take p.offset ++ [c] := by
    rw [List.take_add_one, hc]
    rfl
  refine ⟨⟨by omega, ?_, ?_⟩, ?_⟩
  · -- Only a line feed makes a line.
    rw [hoffset, htake, List.count_append]
    by_cases hfeed : c = '\n'
    · simp [next, hfeed, hline]
      omega
    · simp [next, hfeed, hline]
  · rw [hoffset]
    by_cases hfeed : c = '\n'
    · -- The line feed that was just read is the last one.
      refine ⟨p.offset, ⟨Or.inr ⟨p.offset, rfl, by omega, hfeed ▸ hc⟩, ?_⟩, ?_⟩
      · intro j hj hj'
        omega
      · have hnext : p.next c = ⟨p.offset + 1, p.line + 1, 1⟩ := if_pos hfeed
        rw [hnext]
        dsimp only
        omega
    · refine ⟨i, ⟨?_, ?_⟩, ?_⟩
      · rcases hi.found with hnone | ⟨j, rfl, hj, hjc⟩
        · exact Or.inl hnone
        · exact Or.inr ⟨j, rfl, by omega, hjc⟩
      · intro j hj hj'
        rcases Nat.lt_succ_iff_lt_or_eq.mp hj' with hlt' | rfl
        · exact hi.last j hj hlt'
        · rw [hc]
          exact fun heq => hfeed (Option.some.inj heq)
      · simp only [next, if_neg hfeed]
        omega
  · rw [hoffset, ← List.drop_drop, hdrop]
    rfl

/-- **Reading a source keeps line and column right.** -/
theorem StandsBefore.advance {t : Text} (h : p.StandsBefore source (t ++ rest)) :
    (p.advance t).StandsBefore source rest := by
  induction t generalizing p with
  | nil => exact h
  | cons c t ih => exact ih h.step

end Phrasing.Position
