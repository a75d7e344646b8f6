/-
# Tables of named things

A table lists names with what they stand for, each name once, in the order in which the names
were first set.  Setting a name again replaces what it stands for and keeps its place.

`find?_set` and `find?_remove` say what the operations do to look-up; `names_set` what setting
does to the names, and `nodup_names_set` that it keeps each of them once.
-/
import Phrasing.Text.Basic

namespace Phrasing

/-- Names with what they stand for. -/
abbrev Named (α : Type) := List (Text × α)

namespace Named

variable {α : Type}

/-- What a name stands for. -/
def find? (name : Text) : Named α → Option α
  | [] => none
  | (key, a) :: rest => if key = name then some a else find? name rest

/-- The names, in order. -/
def names (t : Named α) : List Text := t.map Prod.fst

/-- Whether a name is in the table. -/
def contains (name : Text) (t : Named α) : Bool := (find? name t).isSome

/-- Makes a name stand for something: in its place if it is known, at the end if it is new. -/
def set (name : Text) (a : α) : Named α → Named α
  | [] => [(name, a)]
  | (key, b) :: rest => if key = name then (key, a) :: rest else (key, b) :: set name a rest

/-- Takes a name out. -/
def remove (name : Text) (t : Named α) : Named α := t.filter fun entry => entry.1 ≠ name

/-- The table that setting the entries one after the other builds. -/
def ofEntries (entries : List (Text × α)) : Named α :=
  entries.foldl (fun t entry => set entry.1 entry.2 t) []

theorem find?_set (name key : Text) (a : α) (t : Named α) :
    find? key (set name a t) = if name = key then some a else find? key t := by
  induction t with
  | nil => simp [set, find?]
  | cons entry rest ih =>
    obtain ⟨k, b⟩ := entry
    by_cases hk : k = name
    · subst hk; by_cases h : k = key <;> simp [set, find?, h]
    · rw [set, if_neg hk, find?, find?, ih]
      by_cases h : name = key
      · subst h; simp [hk]
      · simp [h]

theorem find?_remove (name key : Text) (t : Named α) :
    find? key (remove name t) = if name = key then none else find? key t := by
  induction t with
  | nil => simp [remove, find?]
  | cons entry rest ih =>
    obtain ⟨k, b⟩ := entry
    by_cases hk : k = name
    · subst hk
      by_cases h : k = key
      · subst h; simpa [remove, find?] using ih
      · simpa [remove, find?, h] using ih
    · by_cases h : k = key
      · subst h
        simp [remove, find?, hk, Ne.symm hk]
      · simpa [remove, find?, hk, h] using ih

theorem find?_isSome_iff (name : Text) (t : Named α) :
    (find? name t).isSome ↔ name ∈ names t := by
  induction t with
  | nil => simp [find?, names]
  | cons entry rest ih =>
    obtain ⟨k, b⟩ := entry
    by_cases h : k = name
    · simp [find?, names, h]
    · simp only [find?, h, if_false]
      rw [ih]
      simp [names, Ne.symm h]

/-- What a name stands for is in the table. -/
theorem mem_of_find? {name : Text} {t : Named α} {a : α} (h : find? name t = some a) :
    ∃ key, (key, a) ∈ t := by
  induction t with
  | nil => cases h
  | cons entry rest ih =>
    obtain ⟨key, b⟩ := entry
    rw [find?] at h
    split at h
    · cases h
      exact ⟨key, List.mem_cons_self⟩
    · obtain ⟨key', hmem⟩ := ih h
      exact ⟨key', List.mem_cons_of_mem _ hmem⟩

/-- Setting adds the name at the end, unless it is there already. -/
theorem names_set (name : Text) (a : α) (t : Named α) :
    names (set name a t) = if name ∈ names t then names t else names t ++ [name] := by
  induction t with
  | nil => simp [set, names]
  | cons entry rest ih =>
    obtain ⟨k, b⟩ := entry
    by_cases h : k = name
    · subst h; simp [set, names]
    · have hcons (t : Named α) : names ((k, b) :: t) = k :: names t := rfl
      rw [set, if_neg h, hcons, hcons, ih]
      by_cases hm : name ∈ names rest
      · simp [hm]
      · simp [hm, Ne.symm h]

/-- Setting keeps each name once. -/
theorem nodup_names_set (name : Text) (a : α) {t : Named α} (h : (names t).Nodup) :
    (names (set name a t)).Nodup := by
  rw [names_set]
  split
  · exact h
  · next hnew =>
    refine List.nodup_append.mpr ⟨h, by simp, fun key hkey key' hkey' heq => ?_⟩
    cases List.mem_singleton.mp hkey'
    exact hnew (heq ▸ hkey)

end Named

end Phrasing
