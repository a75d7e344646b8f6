/-
# Limited and sorted enumerations

Sorting and the limit come before anything is written.  So an enumeration that sorts, or shows no
more than some of the items, is a plain one of other items: of the items in order, or of those that
are shown and the summary, which is never sorted in (`write_plain`).  In particular, the separator of
a pair stands between a single item and the summary, and the rule of the Oxford comma counts the
summary as an item.

Whatever is shown, a single item and no item at all apart, there is a first and a last text
(`exists_row_of_shown`).  `row` writes these and the texts between them.
-/
import Phrasing.Proofs.Enumeration.Usable

namespace Phrasing.Enumeration

/-- The same rules, but for sorting. -/
def unsorted (e : Enumeration) : Enumeration := { e with sort := false }

/-- Texts are sorted, and then written as they are. -/
theorem write_sorted {e : Enumeration} (h : e.sort = true) (ts : List Text) :
    e.write ts = e.unsorted.write (Text.sort ts) := by
  rw [write, if_pos h]
  rfl

variable {e : Enumeration}

/-! ## 1. Texts in a row -/

/-- Two or more texts in a row: the first, those between, and the last. -/
def row (e : Enumeration) (first : Text) (middle : List Text) (last : Text) :
    Except EnumerationFault Text :=
  match middle with
  | [] => do
    let pair ← writtenText (e.pairSeparator.getD e.lastSeparator)
    return first ++ pair ++ last
  | _ => do
    let separator ← separatorText e.separator
    let fitted ← e.lastText separator
    return Text.join separator (first :: middle) ++ fitted ++ last

theorem glue_row (e : Enumeration) (first : Text) (middle : List Text) (last : Text) :
    e.glue (first :: (middle ++ [last])) = e.row first middle last := by
  cases middle with
  | nil => rfl
  | cons b middle =>
    obtain ⟨c, rest, hrest⟩ := List.exists_cons_of_ne_nil (l := middle ++ [last]) (by simp)
    have hlast : first :: b :: c :: rest = first :: b :: middle ++ [last] := by simp [← hrest]
    rw [List.cons_append, hrest, glue_cons, hlast, List.dropLast_concat, List.getLast?_concat]
    rfl

/-- Two or more texts have a first and a last one. -/
theorem exists_ends {ts : List Text} (h : 2 ≤ ts.length) :
    ∃ first middle last, ts = first :: (middle ++ [last]) := by
  match ts with
  | first :: b :: rest =>
    obtain ⟨middle, last, hconcat⟩ := (List.eq_nil_or_concat (b :: rest)).resolve_left (by simp)
    rw [List.concat_eq_append] at hconcat
    exact ⟨first, middle, last, by rw [hconcat]⟩

/-! ## 2. What is shown -/

theorem two_le_shownCount (e : Enumeration) {n : Nat} (h : 2 ≤ n) : 2 ≤ e.shownCount n := by
  unfold shownCount
  split
  · exact h
  · next m hm =>
    have hone := e.one_le_maxItems m hm
    omega

/-- What is shown of two or more items has a first and a last text. -/
theorem exists_row_of_shown {items shown : List Text} (h : 2 ≤ items.length)
    (hshown : e.shown items = .ok shown) :
    ∃ first middle last, shown = first :: (middle ++ [last]) :=
  exists_ends (by rw [length_of_shown h hshown]; exact e.two_le_shownCount h)

/-- Items are shown as they are up to the limit. -/
theorem shown_of_le {items : List Text} (h : ∀ m, e.maxItems = some m → items.length ≤ m) :
    e.shown items = .ok items := by
  unfold shown
  split
  · rfl
  · next m hm => rw [if_pos (.inl (h m hm))]

/-- Of more items than that, as many as can be are shown, and the summary. -/
theorem shown_of_lt {items : List Text} {m : Nat} (hm : e.maxItems = some m)
    (h : m < items.length) :
    e.shown items = do return items.take m ++ [← e.summary (items.length - m)] := by
  have hone := e.one_le_maxItems m hm
  have hmany : ¬ (items.length ≤ m ∨ items.length ≤ 1) := by omega
  unfold shown
  rw [hm]
  dsimp only
  rw [if_neg hmany]

/-! ## 3. Plain enumerations -/

/-- The same rules without a limit and without sorting. -/
def plain (e : Enumeration) : Enumeration := e.unlimited.unsorted

/-- A plain enumeration writes its items in a row. -/
theorem write_plain_eq (e : Enumeration) (ts : List Text) : e.plain.write ts = e.glue ts := rfl

/-- The items in the order in which they are written. -/
def ordered (e : Enumeration) (items : List Text) : List Text :=
  if e.sort then Text.sort items else items

theorem write_eq (e : Enumeration) (items : List Text) :
    e.write items = e.shown (e.ordered items) >>= e.glue := rfl

/-- **Limits and sorting come down to plain enumerations.**  If there are more items than can be
shown, those that are shown are written plainly, in order, with the summary of the others behind
them; otherwise all items are.  Sorted items are written in the same way wherever they stood.

No item gives the empty text, and one item itself.  Of more items, if the summary can be written
where there is one, at least two texts are shown, and these are written in a row. -/
theorem write_plain (e : Enumeration) (items : List Text) :
    (∀ m, e.maxItems = some m → m < (e.ordered items).length →
      e.write items = do
        let summary ← e.summary ((e.ordered items).length - m)
        e.plain.write ((e.ordered items).take m ++ [summary])) ∧
    ((∀ m, e.maxItems = some m → (e.ordered items).length ≤ m) →
      e.write items = e.plain.write (e.ordered items)) ∧
    (e.sort = true → ∀ items', items.Perm items' → e.write items = e.write items') ∧
    ((e.ordered items).length ≤ 1 → e.write items = .ok ((e.ordered items).headD [])) ∧
    (2 ≤ (e.ordered items).length →
      (∀ m, e.maxItems = some m → m < (e.ordered items).length →
        ∃ t, e.summary ((e.ordered items).length - m) = .ok t) →
      ∃ first middle last, e.shown (e.ordered items) = .ok (first :: (middle ++ [last])) ∧
        e.write items = e.row first middle last) := by
  refine ⟨fun m hm hlt => ?_, fun hle => ?_, fun hsort items' hperm => ?_, fun hone => ?_,
    fun hmany hsummary => ?_⟩
  · rw [write_eq, shown_of_lt hm hlt]
    simp only [bind_assoc, pure_bind, write_plain_eq]
  · rw [write_eq, shown_of_le hle, write_plain_eq]
    rfl
  · rw [write_sorted hsort, write_sorted hsort, Text.sort_eq_of_perm hperm]
  · rw [write_eq, shown_of_length_le_one hone]
    match e.ordered items, hone with
    | [], _ => rfl
    | [a], _ => rfl
  · obtain ⟨shown, hshown⟩ := (exists_shown_iff hmany).mpr hsummary
    obtain ⟨first, middle, last, rfl⟩ := exists_row_of_shown hmany hshown
    refine ⟨first, middle, last, hshown, ?_⟩
    rw [write_eq, hshown]
    exact glue_row e first middle last

/-- The summary is not sorted in, and is one of three items with an Oxford comma. -/
example :
    Enumeration.write { standard with
        oxfordComma := true, most := .whole 2 (by decide), sort := true }
      ["z".toList, "b".toList, "a".toList] = .ok "a, b, and 1 more".toList := by
  cbv

end Phrasing.Enumeration
