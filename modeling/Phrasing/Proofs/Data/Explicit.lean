/-
# Explicit values

A context is made of data, and of explicit values that are given beside it.  The explicit values are
merged with the data before any key becomes a name: a value takes the place of the entry whose key
is its name, and comes last if there is none.  All the same, two keys can have one text, and then
the last of them counts.

Thus an explicit value stands for its name, unless it takes the place of an entry behind which
another key with the same text comes (`isOvertaken`).  All other names stand for what the data says
(`explicit_unless_overtaken`).
-/
import Phrasing.Proofs.Data.Navigation

namespace Phrasing

namespace Data

/-! ## 1. Setting an entry whose key is a text -/

/-- Explicit values, as entries whose keys are their names. -/
def explicitEntries (explicit : List (Text × Data)) : List (Data × Data) :=
  explicit.map fun p => (.text p.1, p.2)

/-- The entries that explicit values make of those before them. -/
def merged (entries : List (Data × Data)) (explicit : List (Text × Data)) : List (Data × Data) :=
  (explicitEntries explicit).foldl (fun es e => setEntry e.1 e.2 es) entries

/-- Whether another key with this text comes behind the first key that is the text itself. -/
def isOvertaken (name : Text) : List (Data × Data) → Bool
  | [] => false
  | (key, _) :: rest =>
    if same key (.text name) then (lastNamed? name rest).isSome else isOvertaken name rest

/-- What a name stands for in a mapping with explicit values beside it.  An explicit value wins,
unless the name is overtaken; the last entry of the mapping counts otherwise. -/
def meant? (name : Text) (entries : List (Data × Data)) (explicit : List (Text × Data)) :
    Option Data :=
  match lastNamed? name (explicitEntries explicit) with
  | some d => if isOvertaken name entries then lastNamed? name entries else some d
  | none => lastNamed? name entries

variable {entries : List (Data × Data)} {name key : Text} {d : Data}

theorem same_text_iff {k : Data} : same k (.text name) = true ↔ k = .text name := by
  cases k with
  | text t => simp [same]
  | _ => simp [same, asNumber?]

@[simp] theorem isNamed_text : isNamed key (.text name) = decide (name = key) := rfl

@[simp] theorem lastNamed?_nil : lastNamed? key [] = none := rfl

/-- The first entry counts if there is no later one. -/
theorem lastNamed?_cons (e : Data × Data) :
    lastNamed? key (e :: entries) =
      (lastNamed? key entries).or (if isNamed key e.1 then some e.2 else none) := by
  rw [lastNamed?, List.reverse_cons, List.find?_append, Option.map_or, ← lastNamed?]
  by_cases h : isNamed key e.1 = true <;> simp [h]

/-- **An entry that is set counts** for the text that is its key, unless this is overtaken. -/
theorem lastNamed?_setEntry :
    lastNamed? key (setEntry (.text name) d entries) =
      if name = key ∧ isOvertaken key entries = false then some d else lastNamed? key entries := by
  induction entries with
  | nil => by_cases h : name = key <;> simp [setEntry, lastNamed?_cons, isOvertaken, h]
  | cons e entries ih =>
    obtain ⟨k, b⟩ := e
    by_cases hk : same k (.text name) = true
    · obtain rfl := same_text_iff.mp hk
      rw [setEntry, if_pos hk, lastNamed?_cons, lastNamed?_cons]
      by_cases h : name = key
      · subst h
        rw [isOvertaken, if_pos hk]
        cases lastNamed? name entries <;> simp
      · simp [h]
    · rw [setEntry, if_neg hk, lastNamed?_cons, lastNamed?_cons, ih]
      by_cases h : name = key
      · subst h
        rw [isOvertaken, if_neg hk]
        cases isOvertaken name entries <;> simp
      · simp [h]

/-- It does not change which texts are overtaken. -/
theorem isOvertaken_setEntry :
    isOvertaken key (setEntry (.text name) d entries) = isOvertaken key entries := by
  induction entries with
  | nil => simp [setEntry, isOvertaken]
  | cons e entries ih =>
    obtain ⟨k, b⟩ := e
    by_cases hk : same k (.text name) = true
    · rw [setEntry, if_pos hk, isOvertaken, isOvertaken]
    · rw [setEntry, if_neg hk, isOvertaken, isOvertaken, ih]
      by_cases hkey : same k (.text key) = true
      · have hne : name ≠ key := by
          rintro rfl
          exact hk hkey
        rw [if_pos hkey, if_pos hkey, lastNamed?_setEntry, if_neg fun h => hne h.1]
      · rw [if_neg hkey, if_neg hkey]

/-! ## 2. Explicit values among entries -/

theorem merged_cons (p : Text × Data) (explicit : List (Text × Data)) :
    merged entries (p :: explicit) = merged (setEntry (.text p.1) p.2 entries) explicit := rfl

theorem meant?_eq (explicit : List (Text × Data)) :
    meant? name entries explicit =
      if isOvertaken name entries then lastNamed? name entries
      else (lastNamed? name (explicitEntries explicit)).or (lastNamed? name entries) := by
  unfold meant?
  cases lastNamed? name (explicitEntries explicit) <;> simp

/-- **The last entry counts** when the explicit values are set. -/
theorem lastNamed?_merged (explicit : List (Text × Data)) :
    lastNamed? name (merged entries explicit) = meant? name entries explicit := by
  rw [meant?_eq]
  induction explicit generalizing entries with
  | nil => simp [merged, explicitEntries]
  | cons p explicit ih =>
    have hcons : explicitEntries (p :: explicit) = (.text p.1, p.2) :: explicitEntries explicit :=
      rfl
    rw [merged_cons, ih, isOvertaken_setEntry, lastNamed?_setEntry, hcons, lastNamed?_cons]
    by_cases h : p.1 = name
    · cases isOvertaken name entries <;> simp [h]
    · simp [h]

theorem mem_setEntry {e : Data × Data} (h : e ∈ setEntry (.text name) d entries) :
    e ∈ entries ∨ e = (.text name, d) := by
  induction entries with
  | nil => exact .inr (List.mem_singleton.mp h)
  | cons e' entries ih =>
    obtain ⟨k, b⟩ := e'
    rw [setEntry] at h
    split at h
    · next hk =>
      obtain rfl := same_text_iff.mp hk
      rcases List.mem_cons.mp h with h | h
      · exact .inr h
      · exact .inl (List.mem_cons_of_mem _ h)
    · rcases List.mem_cons.mp h with h | h
      · exact .inl (List.mem_cons.mpr (.inl h))
      · exact (ih h).imp_left (List.mem_cons_of_mem _)

/-- Nothing comes in but what is given. -/
theorem mem_merged {explicit : List (Text × Data)} {e : Data × Data}
    (h : e ∈ merged entries explicit) : e ∈ entries ∨ ∃ p ∈ explicit, e = (.text p.1, p.2) := by
  induction explicit generalizing entries with
  | nil => exact .inl h
  | cons p explicit ih =>
    rcases ih h with h | ⟨q, hq, h⟩
    · rcases mem_setEntry h with h | h
      · exact .inl h
      · exact .inr ⟨p, List.mem_cons_self, h⟩
    · exact .inr ⟨q, List.mem_cons_of_mem _ hq, h⟩

/-- No key goes out. -/
theorem exists_mem_setEntry (name : Text) (d : Data) {e : Data × Data} (h : e ∈ entries) :
    ∃ e' ∈ setEntry (.text name) d entries, e'.1 = e.1 := by
  induction entries with
  | nil => cases h
  | cons e' entries ih =>
    obtain ⟨k, b⟩ := e'
    rw [setEntry]
    split
    · rcases List.mem_cons.mp h with rfl | h
      · exact ⟨_, List.mem_cons_self, rfl⟩
      · exact ⟨e, List.mem_cons_of_mem _ h, rfl⟩
    · rcases List.mem_cons.mp h with rfl | h
      · exact ⟨_, List.mem_cons_self, rfl⟩
      · obtain ⟨e', he', hkey⟩ := ih h
        exact ⟨e', List.mem_cons_of_mem _ he', hkey⟩

theorem exists_mem_merged (explicit : List (Text × Data)) {e : Data × Data} (h : e ∈ entries) :
    ∃ e' ∈ merged entries explicit, e'.1 = e.1 := by
  induction explicit generalizing entries e with
  | nil => exact ⟨e, h, rfl⟩
  | cons p explicit ih =>
    obtain ⟨e', he', hkey⟩ := exists_mem_setEntry p.1 p.2 h
    obtain ⟨e'', he'', hkey'⟩ := ih he'
    exact ⟨e'', he'', hkey'.trans hkey⟩

end Data

/-! ## 3. What becomes of entries -/

namespace Data

variable {entries : List (Data × Data)} {name : Text}

theorem isNamed_of_asText? {key : Data} {t : Text} (h : key.asText? = .ok t) :
    isNamed name key = decide (t = name) := by
  unfold asText? at h
  split at h
  · next hwritable =>
    rw [isNamed, hwritable, Bool.true_and, Except.ok.inj h]
  · cases h

theorem isSome_lastNamed?_iff :
    (lastNamed? name entries).isSome = true ↔ ∃ e ∈ entries, isNamed name e.1 = true := by
  simp [lastNamed?]

/-- A text that is overtaken is that of a key. -/
theorem isSome_of_isOvertaken (h : isOvertaken name entries = true) :
    (lastNamed? name entries).isSome = true := by
  induction entries with
  | nil => cases h
  | cons e entries ih =>
    rw [lastNamed?_cons, Option.isSome_or, Bool.or_eq_true]
    rw [isOvertaken] at h
    split at h
    · exact .inl h
    · exact .inl (ih h)

/-- A name stands for something if it is that of an entry or of an explicit value. -/
theorem isSome_meant?_iff (explicit : List (Text × Data)) :
    (meant? name entries explicit).isSome = true ↔
      (∃ e ∈ entries, isNamed name e.1 = true) ∨ ∃ p ∈ explicit, p.1 = name := by
  have hexplicit : (lastNamed? name (explicitEntries explicit)).isSome = true ↔
      ∃ p ∈ explicit, p.1 = name := by
    simp [isSome_lastNamed?_iff, explicitEntries]
  rw [meant?_eq, ← isSome_lastNamed?_iff, ← hexplicit]
  split
  · next h => simp [isSome_of_isOvertaken h]
  · rw [Option.isSome_or, Bool.or_eq_true, or_comm]

end Data

namespace Context

variable {entries : List (Data × Data)} {before values : Named Value} {f : DataFault}

/-- A datum and its value, or neither. -/
abbrev Converted : Option Data → Option Value → Prop :=
  Option.Rel fun d v => Value.ofData d = .ok v

theorem Converted.or {d d' : Option Data} {v v' : Option Value} (h : Converted d v)
    (h' : Converted d' v') : Converted (d.or d') (v.or v') := by
  cases h with
  | none => exact h'
  | some h => exact .some h

theorem Converted.isSome_eq {d : Option Data} {v : Option Value} (h : Converted d v) :
    v.isSome = d.isSome := by
  cases h <;> rfl

theorem isWritable_of_addEntries (h : addEntries before entries = .ok values) :
    ∀ e ∈ entries, e.1.isWritable = true := by
  induction entries generalizing before with
  | nil => exact List.forall_mem_nil _
  | cons e entries ih =>
    obtain ⟨v, -, hrest⟩ := bind_eq_ok.mp h
    obtain ⟨name, hname, hrest⟩ := bind_eq_ok.mp hrest
    have hkey := Data.exists_asText?_iff.mp ⟨name, mapError_eq_ok.mp hname⟩
    exact List.forall_mem_cons.mpr ⟨hkey, ih hrest⟩

theorem nodup_of_addEntries (hbefore : (Named.names before).Nodup)
    (h : addEntries before entries = .ok values) : (Named.names values).Nodup := by
  induction entries generalizing before with
  | nil =>
    cases h
    exact hbefore
  | cons e entries ih =>
    obtain ⟨v, -, hrest⟩ := bind_eq_ok.mp h
    obtain ⟨name, -, hrest⟩ := bind_eq_ok.mp hrest
    exact ih (Named.nodup_names_set name v hbefore) hrest

/-- **The last entry of a name counts**, and the values before stand for the other names. -/
theorem find?_of_addEntries (name : Text) (h : addEntries before entries = .ok values) :
    ∃ v?, Converted (Data.lastNamed? name entries) v? ∧
      Named.find? name values = v?.or (Named.find? name before) := by
  induction entries generalizing before with
  | nil =>
    cases h
    exact ⟨none, .none, rfl⟩
  | cons e entries ih =>
    obtain ⟨v, hv, hrest⟩ := bind_eq_ok.mp h
    obtain ⟨t, ht, hrest⟩ := bind_eq_ok.mp hrest
    obtain ⟨v?, hconverted, hfind⟩ := ih hrest
    rw [Data.lastNamed?_cons, Data.isNamed_of_asText? (mapError_eq_ok.mp ht)]
    refine ⟨v?.or (if t = name then some v else none), hconverted.or ?_, ?_⟩
    · by_cases hname : t = name
      · simpa [hname] using Option.Rel.some hv
      · simp [hname]
    · rw [hfind, Named.find?_set, Option.or_assoc]
      by_cases hname : t = name <;> simp [hname]

theorem addEntries_eq_error (h : addEntries before entries = .error f) :
    (∃ e ∈ entries, e.1.isWritable = false ∧ f = .number .tooLongToWrite) ∨
      ∃ e ∈ entries, Value.ofData e.2 = .error f := by
  induction entries generalizing before with
  | nil => cases h
  | cons e entries ih =>
    rcases bind_eq_error.mp h with hdatum | ⟨v, -, hrest⟩
    · exact .inr ⟨e, List.mem_cons_self, hdatum⟩
    rcases bind_eq_error.mp hrest with hkey | ⟨t, -, hrest⟩
    · refine .inl ⟨e, List.mem_cons_self, ?_⟩
      cases hasText : e.1.asText? with
      | ok t =>
        rw [hasText] at hkey
        cases hkey
      | error f' =>
        obtain ⟨hwritable, rfl⟩ := Data.asText?_eq_error_iff.mp hasText
        rw [hasText] at hkey
        cases hkey
        exact ⟨hwritable, rfl⟩
    · rcases ih hrest with ⟨e', he', h'⟩ | ⟨e', he', h'⟩
      · exact .inl ⟨e', List.mem_cons_of_mem _ he', h'⟩
      · exact .inr ⟨e', List.mem_cons_of_mem _ he', h'⟩

/-! ## 4. Contexts of data and explicit values -/

theorem ofData_explicit (entries : List (Data × Data)) (explicit : List (Text × Data)) :
    ofData (.mapping entries) (Data.explicitEntries explicit) =
      ofEntries (Data.merged entries explicit) := rfl

/-- **Explicit values win, unless they are overtaken.**  Of a mapping and explicit values, no
context is made if a key has no text, or because of a datum without a value.  Otherwise:

* An explicit name stands for its value, the last one if it has several; but where the name is
  overtaken in the mapping, it stands for the last entry of the mapping with this text.
* Every other name stands for the last entry of the mapping with this text.
* The names are the texts of the keys and the explicit names, each once. -/
theorem explicit_unless_overtaken (entries : List (Data × Data))
    (explicit : List (Text × Data)) :
    match ofData (.mapping entries) (Data.explicitEntries explicit) with
    | .error f =>
      (∃ e ∈ entries, e.1.isWritable = false ∧ f = .number .tooLongToWrite) ∨
      (∃ e ∈ entries, Value.ofData e.2 = .error f) ∨ ∃ p ∈ explicit, Value.ofData p.2 = .error f
    | .ok c =>
      (∀ e ∈ entries, e.1.isWritable = true) ∧
      (∀ name, Converted (Data.meant? name entries explicit) (c.find? name)) ∧
      (Named.names c.values).Nodup ∧
      ∀ name, name ∈ Named.names c.values ↔
        (∃ e ∈ entries, e.1.asText = name) ∨ ∃ p ∈ explicit, p.1 = name := by
  rw [ofData_explicit, ofEntries]
  cases hvalues : addEntries [] (Data.merged entries explicit) with
  | error f =>
    rcases addEntries_eq_error hvalues with ⟨e, he, hkey⟩ | ⟨e, he, hdatum⟩
    · rcases Data.mem_merged he with he | ⟨p, -, rfl⟩
      · exact .inl ⟨e, he, hkey⟩
      · cases hkey.1
    · rcases Data.mem_merged he with he | ⟨p, hp, rfl⟩
      · exact .inr (.inl ⟨e, he, hdatum⟩)
      · exact .inr (.inr ⟨p, hp, hdatum⟩)
  | ok values =>
    have hwritable : ∀ e ∈ entries, e.1.isWritable = true := fun e he => by
      obtain ⟨e', he', hkey⟩ := Data.exists_mem_merged explicit he
      exact hkey ▸ isWritable_of_addEntries hvalues e' he'
    have hfind (name : Text) :
        Converted (Data.meant? name entries explicit) (Named.find? name values) := by
      obtain ⟨v?, hconverted, hfind⟩ := find?_of_addEntries name hvalues
      rw [hfind, Named.find?, Option.or_none, ← Data.lastNamed?_merged]
      exact hconverted
    have hempty : (Named.names ([] : Named Value)).Nodup := List.nodup_nil
    have hnodup : (Named.names values).Nodup := nodup_of_addEntries hempty hvalues
    refine ⟨hwritable, hfind, hnodup, fun name => ?_⟩
    rw [← Named.find?_isSome_iff, (hfind name).isSome_eq, Data.isSome_meant?_iff]
    refine or_congr (exists_congr fun e => and_congr_right fun he => ?_) Iff.rfl
    rw [Data.isNamed, hwritable e he, Bool.true_and, decide_eq_true_iff]

/-- The truth value stands behind the text `"True"` that is replaced, and has the same text. -/
theorem explicit_overtaken_by_truth :
    let entries : List (Data × Data) :=
      [(.text "True".toList, .text "a".toList), (.truth true, .text "b".toList)]
    let explicit : List (Text × Data) := [("True".toList, .text "c".toList)]
    (∃ c, ofData (.mapping entries) (Data.explicitEntries explicit) = .ok c ∧
      c.find? "True".toList = some (.scalar (.text "b".toList) none)) ∧
    Value.ofData (.text "c".toList) = .ok (.scalar (.text "c".toList) none) :=
  ⟨⟨⟨[("True".toList, .scalar (.text "b".toList) none)]⟩, rfl, rfl⟩, rfl⟩

end Context

end Phrasing
