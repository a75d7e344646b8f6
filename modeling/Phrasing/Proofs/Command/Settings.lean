/-
# Settings

A setting is a name and a value on the two sides of an equals sign.  The first equals sign of a text
counts (`splitSetting_eq`): a value may have more of them, and a name has none.

Settings are grouped one by one.  Each value goes behind those that its name has already, and a new
name comes last (`find?_addSetting`, `names_addSetting`).  In the end a name has all of its values, as
they came (`find?_addSettings`), and the names stand in the order in which they first came
(`names_addSettings`).  `groupSettings_lossless` says this of what the settings stand for: a text for a
name that is set once, and a list for a name that is set several times.
-/
import Phrasing.Command.Run
import Phrasing.Proofs.Data.Navigation

namespace Phrasing

/-! ## 1. One setting -/

/-- Cutting at a character that is there separates what stands before it first from all the rest. -/
theorem Text.cutAt?_eq (sep : Char) (t : Text) :
    cutAt? sep t =
      if sep ∈ t then some (t.takeWhile (· ≠ sep), (t.dropWhile (· ≠ sep)).tail) else none := by
  induction t with
  | nil => rfl
  | cons c rest ih =>
    rw [cutAt?]
    by_cases hc : c = sep
    · simp [hc]
    · rw [if_neg hc, ih]
      by_cases hrest : sep ∈ rest
      · simp [hrest, hc]
      · simp [hrest, Ne.symm hc]

namespace Command

/-- The name in a setting: what stands before the first equals sign, without the white space around
it. -/
def settingName (t : Text) : Text := Text.trim (t.takeWhile (· ≠ '='))

/-- The value in a setting: everything behind the first equals sign. -/
def settingValue (t : Text) : Text := (t.dropWhile (· ≠ '=')).tail

theorem splitSetting_eq (t : Text) :
    splitSetting t =
      if '=' ∈ t then .ok (settingName t, settingValue t) else .error (.setting t) := by
  rw [splitSetting, Text.cutAt?_eq]
  by_cases h : '=' ∈ t
  · rw [if_pos h, if_pos h]
    rfl
  · rw [if_neg h, if_neg h]

/-- The first text without an equals sign is the one that is refused. -/
theorem mapM_splitSetting (ts : List Text) :
    ts.mapM splitSetting =
      match ts.find? ('=' ∉ ·) with
      | some t => .error (.setting t)
      | none => .ok (ts.map fun t => (settingName t, settingValue t)) := by
  induction ts with
  | nil => rfl
  | cons t ts ih =>
    rw [List.mapM_cons, splitSetting_eq, ih]
    by_cases h : '=' ∈ t
    · rw [if_pos h, List.find?_cons_of_neg (by simp [h])]
      cases ts.find? ('=' ∉ ·) with
      | some t' => rfl
      | none => rfl
    · rw [if_neg h, List.find?_cons_of_pos (by simp [h])]
      rfl

/-! ## 2. One by one -/

variable {settings : Named (List Text)}

/-- A value goes behind those of its name, and no other name changes. -/
theorem find?_addSetting (name key value : Text) :
    Named.find? key (addSetting settings name value) =
      if name = key then some (((Named.find? key settings).getD []) ++ [value])
      else Named.find? key settings := by
  rw [addSetting, Named.find?_set]
  by_cases h : name = key
  · rw [if_pos h, if_pos h, h]
  · rw [if_neg h, if_neg h]

theorem names_addSetting (settings : Named (List Text)) (name value : Text) :
    Named.names (addSetting settings name value) =
      if name ∈ Named.names settings then Named.names settings
      else Named.names settings ++ [name] :=
  Named.names_set name _ settings

/-- The values that settings give to a name, as they come. -/
def valuesOf (name : Text) (ts : List Text) : List Text :=
  (ts.filter (settingName · = name)).map settingValue

/-- Settings with those in texts added, one by one. -/
def addSettings (settings : Named (List Text)) (ts : List Text) : Named (List Text) :=
  ts.foldl (fun s t => addSetting s (settingName t) (settingValue t)) settings

/-- **All values of a name** stand behind those it had before, in their order. -/
theorem find?_addSettings (name : Text) (ts : List Text) :
    Named.find? name (addSettings settings ts) =
      if valuesOf name ts = [] then Named.find? name settings
      else some (((Named.find? name settings).getD []) ++ valuesOf name ts) := by
  induction ts generalizing settings with
  | nil => rfl
  | cons t ts ih =>
    have hcons : addSettings settings (t :: ts) =
      addSettings (addSetting settings (settingName t) (settingValue t)) ts := rfl
    rw [hcons, ih, find?_addSetting]
    by_cases h : settingName t = name
    · have hvalues : valuesOf name (t :: ts) = settingValue t :: valuesOf name ts := by
        simp [valuesOf, h]
      rw [hvalues, if_pos h, if_neg (List.cons_ne_nil _ _)]
      split
      · next hnil => rw [hnil]
      · rw [Option.getD_some, List.append_assoc, List.singleton_append]
    · have hvalues : valuesOf name (t :: ts) = valuesOf name ts := by simp [valuesOf, h]
      rw [hvalues, if_neg h]

/-- **The names** stand in the order in which they first came. -/
theorem names_addSettings (ts : List Text) :
    Named.names (addSettings [] ts) = Template.distinct (ts.map settingName) := by
  rw [addSettings, Named.names_foldl fun s t => names_addSetting s (settingName t) (settingValue t)]
  simp [Named.names]

theorem groupSettings_eq (ts : List Text) :
    groupSettings ts =
      match ts.find? ('=' ∉ ·) with
      | some t => .error (.setting t)
      | none => .ok (addSettings [] ts) := by
  rw [groupSettings, mapM_splitSetting]
  cases ts.find? ('=' ∉ ·) with
  | some t => rfl
  | none => exact congrArg Except.ok List.foldl_map

/-! ## 3. All settings -/

/-- **Settings are grouped without loss.**  They are refused if one of them has no equals sign, and
the first such text is the one that is complained of.  Otherwise:

* The names are those in the settings, each once, in the order in which they first came.
* A name that is set once stands for its value.
* A name that is set several times stands for the list of its values, in their order.
* No other name stands for anything. -/
theorem groupSettings_lossless (ts : List Text) :
    match groupSettings ts with
    | .error f =>
      ∃ t, ts.find? ('=' ∉ ·) = some t ∧ f = .setting t ∧ f.mistake? = some .value
    | .ok settings =>
      (∀ t ∈ ts, '=' ∈ t) ∧
      Named.names settings = Template.distinct (ts.map settingName) ∧
      ∀ name, (Named.find? name settings).map settingData =
        match valuesOf name ts with
        | [] => none
        | [value] => some (.text value)
        | values => some (.list (values.map .text)) := by
  rw [groupSettings_eq]
  cases hfind : ts.find? ('=' ∉ ·) with
  | some t => exact ⟨t, rfl, rfl, rfl⟩
  | none =>
    have hall : ∀ t ∈ ts, '=' ∈ t := fun t ht => by
      simpa using List.find?_eq_none.mp hfind t ht
    refine ⟨hall, names_addSettings ts, fun name => ?_⟩
    rw [find?_addSettings]
    cases valuesOf name ts with
    | nil => rfl
    | cons value values =>
      cases values with
      | nil => rfl
      | cons value' values => rfl

-- Two names that differ in white space alone are one, and a value may have equals signs.
example : groupSettings ["a=1".toList, "b=x=y".toList, " a =2".toList] =
    .ok [("a".toList, ["1".toList, "2".toList]), ("b".toList, ["x=y".toList])] := rfl

end Command

end Phrasing
