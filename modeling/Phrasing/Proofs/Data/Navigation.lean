/-
# Navigating data

A path leads through plain data as well as through a context: a name or a field selects what the
last entry with that text for its key stands for, and an index an item of a list.  `Data.reach`
follows a path through the data itself.

Making a context of the data changes nothing about this (`conversion_commutes`).  What a path
denotes in the context is the value of the datum that it leads to, and where it gets stuck in the
data, it fails in the context for the same reason.

There is one thing that keeps plain data from becoming a context: a key without a text, because it
shows a number of too many digits.  Such a key is in the way of all paths, wherever it is.
-/
import Mathlib.Data.List.Forall2
import Phrasing.Evaluation
import Phrasing.Proofs.Outcome

namespace Phrasing

/-! ## 1. Plain data -/

namespace Data

mutual

/-- Whether data is plain: scalars, paths, dates and times, and lists, tuples and mappings of plain
data.  Any data can be a key. -/
def isPlain : Data → Bool
  | bytes _ | set _ | value _ => false
  | list items | tuple items => itemsPlain items
  | mapping entries => entriesPlain entries
  | _ => true

/-- Whether all items are plain. -/
def itemsPlain : List Data → Bool
  | [] => true
  | d :: ds => d.isPlain && itemsPlain ds

/-- Whether all entries stand for plain data. -/
def entriesPlain : List (Data × Data) → Bool
  | [] => true
  | (_, d) :: entries => d.isPlain && entriesPlain entries

end

mutual

/-- Whether the keys of all mappings in data have texts. -/
def keysWritable : Data → Bool
  | list items | tuple items => itemKeysWritable items
  | mapping entries => entryKeysWritable entries
  | _ => true

/-- Whether all keys in items have texts. -/
def itemKeysWritable : List Data → Bool
  | [] => true
  | d :: ds => d.keysWritable && itemKeysWritable ds

/-- Whether the keys of entries, and those in what they stand for, have texts. -/
def entryKeysWritable : List (Data × Data) → Bool
  | [] => true
  | (key, d) :: entries => key.isWritable && d.keysWritable && entryKeysWritable entries

end

/-! ## 2. Paths through data -/

/-- The name of the kind of value that plain data has. -/
def kind : Data → String
  | list _ | tuple _ => "sequence"
  | mapping _ => "mapping"
  | _ => "scalar"

/-- Whether a key has this text. -/
def isNamed (name : Text) (key : Data) : Bool := key.isWritable && decide (key.asText = name)

/-- What the last entry whose key has this text stands for. -/
def lastNamed? (name : Text) (entries : List (Data × Data)) : Option Data :=
  (entries.reverse.find? fun e => isNamed name e.1).map Prod.snd

/-- The item at an index, which has to lie in the list. -/
def itemAt (items : List Data) (n : Int) : Except ReferenceFault Data :=
  if h : 0 ≤ n ∧ n < items.length then .ok (items.get ⟨n.toNat, by omega⟩)
  else .error (.outOfRange n items.length)

/-- What a field of a mapping stands for. -/
def fieldAt (entries : List (Data × Data)) (name : Text) : Except ReferenceFault Data :=
  match lastNamed? name entries with
  | some d => .ok d
  | none => .error (.missingField name)

/-- The datum that an accessor leads to. -/
def step (d : Data) : Accessor → Except ReferenceFault Data
  | .index n offset =>
    match d with
    | list items | tuple items => itemAt items n
    | d =>
      .error (.mismatch s!"sequence for index {Text.string (Accessor.index n offset).text}" d.kind)
  | .field name offset =>
    match d with
    | mapping entries => fieldAt entries name
    | d =>
      .error (.mismatch s!"mapping for field {Text.string (Accessor.field name offset).text}" d.kind)

/-- The datum that accessors lead to, one after the other. -/
def walk (d : Data) : List Accessor → Except ReferenceFault Data
  | [] => .ok d
  | a :: as => do (← d.step a).walk as

/-- The datum that a path leads to, from some entries.  If its first name is missing, there are the
others, each once and in order. -/
def reach (entries : List (Data × Data)) (p : Path) : Except ReferenceFault Data :=
  match lastNamed? p.base entries with
  | none =>
    .error (.unresolved p.base
      (Text.sort (Template.distinct (entries.map fun e => e.1.asText))))
  | some d => d.walk p.accessors

end Data

/-! ## 3. Tables that are set entry by entry -/

namespace Named

variable {α : Type}

/-- **The last entry wins**, and one that sets a name wins over the table before. -/
theorem find?_foldl_set (name : Text) (entries : List (Text × α)) (t : Named α) :
    find? name (entries.foldl (fun t e => set e.1 e.2 t) t) =
      ((entries.reverse.find? fun e => e.1 = name).map Prod.snd).or (find? name t) := by
  induction entries generalizing t with
  | nil => rfl
  | cons e entries ih =>
    rw [List.foldl_cons, ih, List.reverse_cons, List.find?_append, Option.map_or, Option.or_assoc,
      find?_set]
    by_cases h : e.1 = name
    · simp [h]
    · simp [h]

/-- **The names are those before**, and after them the new ones, as they first come, if every step
sets one name. -/
theorem names_foldl {β : Type} {key : β → Text} {f : Named α → β → Named α}
    (h : ∀ t b, names (f t b) = if key b ∈ names t then names t else names t ++ [key b])
    (bs : List β) (t : Named α) :
    names (bs.foldl f t) =
      names t ++ (Template.distinct (bs.map key)).filter (· ∉ names t) := by
  induction bs generalizing t with
  | nil => simp [Template.distinct]
  | cons b bs ih =>
    rw [List.foldl_cons, ih, h, List.map_cons, Template.distinct, List.filter_cons,
      List.filter_filter]
    by_cases hb : key b ∈ names t
    · have hold (name : Text) : (name ∉ names t ∧ name ≠ key b) ↔ name ∉ names t :=
        ⟨And.left, fun hname => ⟨hname, fun heq => hname (heq ▸ hb)⟩⟩
      simp only [hb, ↓reduceIte, not_true_eq_false, decide_false, Bool.false_eq_true,
        ← Bool.decide_and, hold]
    · have hnew (name : Text) :
          name ∉ names t ++ [key b] ↔ name ∉ names t ∧ name ≠ key b := by
        simp
      simp only [hb, ↓reduceIte, not_false_eq_true, decide_true, ← Bool.decide_and, hnew,
        List.append_assoc, List.singleton_append]

theorem names_foldl_set (entries : List (Text × α)) (t : Named α) :
    names (entries.foldl (fun t e => set e.1 e.2 t) t) =
      names t ++ (Template.distinct (entries.map Prod.fst)).filter (· ∉ names t) :=
  names_foldl (fun t e => names_set e.1 e.2 t) entries t

end Named

/-! ## 4. What becomes of plain data -/

namespace Data

/-- Plain data and its value. -/
structure Becomes (d : Data) (v : Value) : Prop where
  plain : d.isPlain = true
  value : Value.ofData d = .ok v

/-- An entry and the name with the value that is made of it. -/
structure EntryBecomes (e : Data × Data) (p : Text × Value) : Prop where
  name : e.1.asText? = .ok p.1
  datum : e.2.Becomes p.2

theorem forall₂_of_ofItems {ds : List Data} {vs : List Value} (hplain : itemsPlain ds = true)
    (h : Value.ofItems ds = .ok vs) : List.Forall₂ Becomes ds vs := by
  induction ds generalizing vs with
  | nil =>
    cases h
    exact .nil
  | cons d ds ih =>
    rw [itemsPlain, Bool.and_eq_true] at hplain
    obtain ⟨v, hv, hrest⟩ := bind_eq_ok.mp h
    obtain ⟨vs', hvs, hcons⟩ := bind_eq_ok.mp hrest
    cases hcons
    exact .cons ⟨hplain.1, hv⟩ (ih hplain.2 hvs)

/-- The fields of a mapping are set entry by entry. -/
theorem exists_of_ofEntries {entries : List (Data × Data)} {before fields : Named Value}
    (hplain : entriesPlain entries = true) (h : Value.ofEntries before entries = .ok fields) :
    ∃ ps, List.Forall₂ EntryBecomes entries ps ∧
      fields = ps.foldl (fun t p => Named.set p.1 p.2 t) before := by
  induction entries generalizing before with
  | nil =>
    cases h
    exact ⟨[], .nil, rfl⟩
  | cons e entries ih =>
    rw [entriesPlain, Bool.and_eq_true] at hplain
    obtain ⟨name, hname, hrest⟩ := bind_eq_ok.mp h
    obtain ⟨v, hv, hrest⟩ := bind_eq_ok.mp hrest
    obtain ⟨ps, hps, rfl⟩ := ih hplain.2 hrest
    exact ⟨(name, v) :: ps, .cons ⟨mapError_eq_ok.mp hname, hplain.1, hv⟩ hps, rfl⟩

/-- A context takes the entries like a mapping does, if it takes them. -/
theorem addEntries_eq_ok_iff {entries : List (Data × Data)} {before values : Named Value} :
    Context.addEntries before entries = .ok values ↔
      Value.ofEntries before entries = .ok values := by
  induction entries generalizing before with
  | nil => exact Iff.rfl
  | cons e entries ih =>
    rw [Context.addEntries, Value.ofEntries]
    simp only [bind_eq_ok, ih]
    constructor
    · rintro ⟨v, hv, name, hname, hrest⟩
      exact ⟨name, hname, v, hv, hrest⟩
    · rintro ⟨name, hname, v, hv, hrest⟩
      exact ⟨v, hv, name, hname, hrest⟩

theorem EntryBecomes.text_eq {e : Data × Data} {p : Text × Value} (h : EntryBecomes e p) :
    e.1.isWritable = true ∧ e.1.asText = p.1 := by
  have hname := h.name
  unfold asText? at hname
  split at hname
  · next hwritable => exact ⟨hwritable, Except.ok.inj hname⟩
  · cases hname

/-- The entry is found under the name that is made of its key, and under no other. -/
theorem EntryBecomes.isNamed {e : Data × Data} {p : Text × Value} (h : EntryBecomes e p)
    (name : Text) : e.1.isNamed name = decide (p.1 = name) := by
  obtain ⟨hwritable, htext⟩ := h.text_eq
  rw [Data.isNamed, hwritable, htext, Bool.true_and]

/-- A name finds the value of the datum that it finds in the entries. -/
theorem rel_find? {entries : List (Data × Data)} {ps : List (Text × Value)} (name : Text)
    (h : List.Forall₂ EntryBecomes entries ps) :
    Option.Rel Becomes (lastNamed? name entries)
      (Named.find? name (ps.foldl (fun t p => Named.set p.1 p.2 t) [])) := by
  have hreverse := List.forall₂_reverse_iff.mpr h
  rw [Named.find?_foldl_set, Named.find?, Option.or_none, lastNamed?]
  generalize entries.reverse = es, ps.reverse = qs at hreverse
  clear h
  induction hreverse with
  | nil => exact .none
  | @cons e p es qs hep _ ih =>
    have hnamed : isNamed name e.1 = decide (p.1 = name) := hep.isNamed name
    rw [List.find?_cons, List.find?_cons, hnamed]
    by_cases hname : p.1 = name
    · simpa [hname] using Option.Rel.some hep.datum
    · simpa [hname] using ih

theorem sortedNames_eq {entries : List (Data × Data)} {ps : List (Text × Value)}
    (h : List.Forall₂ EntryBecomes entries ps) :
    Named.names (ps.foldl (fun t p => Named.set p.1 p.2 t) []) =
      Template.distinct (entries.map fun e => e.1.asText) := by
  have htexts : ps.map Prod.fst = entries.map fun e => e.1.asText := by
    induction h with
    | nil => rfl
    | cons hep _ ih => rw [List.map_cons, List.map_cons, ih, hep.text_eq.2]
  rw [Named.names_foldl_set, htexts]
  simp [Named.names]

/-! ## 5. Step by step -/

/-- An index selects the value of the item that it selects in the list. -/
theorem agree_itemAt {items : List Data} {vs : List Value} (h : List.Forall₂ Becomes items vs)
    (n : Int) (offset : Nat) (style : Option Text) :
    Agree (fun w e => Becomes e w) ((Value.sequence vs style).select (.index n offset))
      (itemAt items n) := by
  have hlength : items.length = vs.length := h.length_eq
  rw [itemAt, Value.select, ← hlength]
  cases n with
  | ofNat k =>
    by_cases hk : k < items.length
    · have hk' : k < vs.length := hlength ▸ hk
      rw [dif_pos ⟨Int.natCast_nonneg k, Int.ofNat_lt.mpr hk⟩, itemAt?,
        List.getElem?_eq_getElem hk']
      exact .ok (h.get hk hk')
    · rw [dif_neg fun hin => hk (Int.ofNat_lt.mp hin.2), itemAt?,
        List.getElem?_eq_none (hlength ▸ Nat.le_of_not_lt hk)]
      exact .error _
  | negSucc k =>
    rw [dif_neg fun hin => absurd hin.1 (by omega)]
    exact .error _

theorem agree_fieldAt {entries : List (Data × Data)} {ps : List (Text × Value)}
    (h : List.Forall₂ EntryBecomes entries ps) (name : Text) (offset : Nat) :
    Agree (fun w e => Becomes e w)
      ((Value.mapping (ps.foldl (fun t p => Named.set p.1 p.2 t) [])).select (.field name offset))
      (fieldAt entries name) := by
  have hfind := rel_find? name h
  simp only [Value.select, fieldAt]
  generalize lastNamed? name entries = d?, Named.find? name _ = v? at hfind
  cases hfind with
  | none => exact .error _
  | some h => exact .ok h

/-- **An accessor** leads from the value of a datum to the value of the datum that it leads to. -/
theorem agree_step {d : Data} {v : Value} (h : Becomes d v) (a : Accessor) :
    Agree (fun w e => Becomes e w) (v.select a) (d.step a) := by
  obtain ⟨hplain, hv⟩ := h
  cases d with
  | list items =>
    obtain ⟨vs, hvs, hpure⟩ := bind_eq_ok.mp hv
    cases hpure
    cases a with
    | index n offset => exact agree_itemAt (forall₂_of_ofItems hplain hvs) n offset none
    | field name offset => exact .error _
  | tuple items =>
    obtain ⟨vs, hvs, hpure⟩ := bind_eq_ok.mp hv
    cases hpure
    cases a with
    | index n offset => exact agree_itemAt (forall₂_of_ofItems hplain hvs) n offset none
    | field name offset => exact .error _
  | mapping entries =>
    obtain ⟨fields, hfields, hpure⟩ := bind_eq_ok.mp hv
    cases hpure
    obtain ⟨ps, hps, rfl⟩ := exists_of_ofEntries hplain hfields
    cases a with
    | index n offset => exact .error _
    | field name offset => exact agree_fieldAt hps name offset
  | bytes octets => cases hplain
  | set items => cases hplain
  | value v => cases hplain
  | _ =>
    -- The value is a scalar, and so is the datum: no accessor leads anywhere.
    cases hv
    cases a <;> exact .error _

/-- **So do accessors in a row**, up to the first that leads nowhere. -/
theorem agree_walk {d : Data} {v : Value} (h : Becomes d v) (as : List Accessor) :
    Agree (fun w e => Becomes e w) (v.follow as) (d.walk as) := by
  induction as generalizing d v with
  | nil => exact .ok h
  | cons a as ih =>
    have hfollow : v.follow (a :: as) = v.select a >>= fun w => w.follow as := by
      rw [Value.follow]
      cases v.select a <;> rfl
    rw [hfollow, walk]
    exact (agree_step h a).bind fun w e hwe => ih hwe

/-! ## 6. Which data becomes a context -/

/-- An outcome that is refused if a key has no text, and only then. -/
def NeedsKeys {α : Type} (writable : Bool) (r : Except DataFault α) : Prop :=
  if writable then ∃ a, r = .ok a else r = .error (.number .tooLongToWrite)

theorem needsKeys_ok {α : Type} (a : α) : NeedsKeys true (.ok a : Except DataFault α) := ⟨a, rfl⟩

theorem NeedsKeys.of_ok {α : Type} {w : Bool} {a : α}
    (h : NeedsKeys w (.ok a : Except DataFault α)) : w = true := by
  cases w with
  | false => cases h
  | true => rfl

theorem NeedsKeys.of_error {α : Type} {w : Bool} {f : DataFault}
    (h : NeedsKeys w (.error f : Except DataFault α)) :
    w = false ∧ f = .number .tooLongToWrite := by
  cases w with
  | false =>
    cases h
    exact ⟨rfl, rfl⟩
  | true =>
    obtain ⟨a, ⟨⟩⟩ := h

theorem NeedsKeys.bind {α β : Type} {w w' : Bool} {r : Except DataFault α}
    {k : α → Except DataFault β} (h : NeedsKeys w r) (hk : ∀ a, NeedsKeys w' (k a)) :
    NeedsKeys (w && w') (r >>= k) := by
  cases w with
  | false =>
    rw [show r = _ from h]
    rfl
  | true =>
    obtain ⟨a, rfl⟩ := h
    exact hk a

theorem needsKeys_asText? (key : Data) :
    NeedsKeys key.isWritable (key.asText?.mapError DataFault.number) := by
  unfold asText?
  cases key.isWritable with
  | false => rfl
  | true => exact needsKeys_ok _

mutual

/-- **Plain data has a value** if and only if all keys in it have texts. -/
theorem needsKeys_ofData : ∀ d : Data, d.isPlain = true → NeedsKeys d.keysWritable (Value.ofData d)
  | .list items, h | .tuple items, h => by
    rw [keysWritable, ← Bool.and_true (itemKeysWritable items)]
    exact (needsKeys_ofItems items h).bind fun vs => needsKeys_ok _
  | .mapping entries, h => by
    rw [keysWritable, ← Bool.and_true (entryKeysWritable entries)]
    exact (needsKeys_ofEntries entries h []).bind fun fields => needsKeys_ok _
  | .absent, _ | .truth _, _ | .integer _, _ | .real _, _ | .text _, _ | .path _, _
  | .entry .., _ | .date _, _ | .clock _, _ | .moment _, _ => needsKeys_ok _

theorem needsKeys_ofItems : ∀ ds : List Data, itemsPlain ds = true →
    NeedsKeys (itemKeysWritable ds) (Value.ofItems ds)
  | [], _ => needsKeys_ok _
  | d :: ds, h => by
    have ⟨hd, hds⟩ := (Bool.and_eq_true _ _).mp h
    rw [itemKeysWritable, ← Bool.and_true (itemKeysWritable ds)]
    exact (needsKeys_ofData d hd).bind fun v =>
      (needsKeys_ofItems ds hds).bind fun vs => needsKeys_ok _

theorem needsKeys_ofEntries : ∀ entries : List (Data × Data), entriesPlain entries = true →
    ∀ before, NeedsKeys (entryKeysWritable entries) (Value.ofEntries before entries)
  | [], _, _ => needsKeys_ok _
  | (key, d) :: entries, h, before => by
    have ⟨hd, hentries⟩ := (Bool.and_eq_true _ _).mp h
    rw [entryKeysWritable, Bool.and_assoc]
    exact (needsKeys_asText? key).bind fun name =>
      (needsKeys_ofData d hd).bind fun v => needsKeys_ofEntries entries hentries _

end

theorem needsKeys_addEntries {entries : List (Data × Data)} (h : entriesPlain entries = true)
    (before : Named Value) :
    NeedsKeys (entryKeysWritable entries) (Context.addEntries before entries) := by
  induction entries generalizing before with
  | nil => exact needsKeys_ok _
  | cons e entries ih =>
    have ⟨hd, hentries⟩ := (Bool.and_eq_true _ _).mp h
    rw [entryKeysWritable, Bool.and_comm e.1.isWritable, Bool.and_assoc]
    exact (needsKeys_ofData e.2 hd).bind fun v =>
      (needsKeys_asText? e.1).bind fun name => ih hentries _

end Data

/-! ## 7. Contexts -/

namespace Context

theorem evaluate_eq_mapError (c : Context) (p : Path) (source : Text) (offset : Int) :
    c.evaluate p source offset = (c.lookUp p).mapError fun fault =>
      ⟨offset, if source.isEmpty then p.text else source, .reference fault⟩ := by
  rw [evaluate]
  cases c.lookUp p <;> rfl

/-- A path denotes the value of the datum that it leads to, or fails for the same reason. -/
theorem agree_lookUp {entries : List (Data × Data)} {ps : List (Text × Value)} (p : Path)
    (h : List.Forall₂ Data.EntryBecomes entries ps) :
    Agree (fun v d => Data.Becomes d v)
      (lookUp ⟨ps.foldl (fun t p => Named.set p.1 p.2 t) []⟩ p) (Data.reach entries p) := by
  have hfind := Data.rel_find? p.base h
  rw [lookUp, find?, sortedNames, Data.sortedNames_eq h, Data.reach]
  generalize Data.lastNamed? p.base entries = d?, Named.find? p.base _ = v? at hfind
  cases hfind with
  | none => exact .error _
  | some hbase => exact Data.agree_walk hbase p.accessors

/-- **Conversion commutes with navigation.**  A context cannot be made of plain data if and only if
a key in it, at any depth, has no text.  Otherwise a path denotes in the context the value of the
datum that it leads to in the data; and where it leads nowhere there, the context reports why. -/
theorem conversion_commutes {entries : List (Data × Data)} (h : Data.entriesPlain entries = true) :
    match Context.ofEntries entries with
    | .error f => Data.entryKeysWritable entries = false ∧ f = .number .tooLongToWrite
    | .ok c => Data.entryKeysWritable entries = true ∧ ∀ (p : Path) (source : Text) (offset : Int),
      Agree (fun v d => Value.ofData d = .ok v) (c.evaluate p source offset)
        ((Data.reach entries p).mapError fun fault =>
          ⟨offset, if source.isEmpty then p.text else source, .reference fault⟩) := by
  have hneeds := Data.needsKeys_addEntries h []
  cases hvalues : addEntries [] entries with
  | error f =>
    rw [hvalues] at hneeds
    rw [ofEntries, hvalues]
    exact hneeds.of_error
  | ok values =>
    rw [hvalues] at hneeds
    rw [ofEntries, hvalues]
    refine ⟨hneeds.of_ok, fun p source offset => ?_⟩
    obtain ⟨ps, hps, rfl⟩ := Data.exists_of_ofEntries h (Data.addEntries_eq_ok_iff.mp hvalues)
    rw [evaluate_eq_mapError]
    exact ((agree_lookUp p hps).mono fun v d h => h.value).mapError _

/-- The truth value and the text `"True"` are different keys with one text, and the last entry
counts, also inside a list. -/
theorem conversion_commutes_same_text :
    let entries : List (Data × Data) := [(.text "a".toList, .list [.mapping
      [(.truth true, .text "x".toList), (.text "True".toList, .integer 5)]])]
    let p : Path := ⟨"a".toList, [.index 0 1, .field "True".toList 4], none⟩
    Data.reach entries p = .ok (.integer 5) ∧
      match ofEntries entries with
      | .error _ => False
      | .ok c => ∀ source offset, c.evaluate p source offset = .ok (.scalar (.integer 5) none) := by
  intro entries p
  have hreach : Data.reach entries p = .ok (.integer 5) := rfl
  refine ⟨hreach, ?_⟩
  have hplain : Data.entriesPlain entries = true := rfl
  have hcommutes := conversion_commutes hplain
  split at hcommutes
  · next hmade =>
    cases hcommutes.1
  · next c hmade =>
    intro source offset
    have hagree := hcommutes.2 p source offset
    rw [hreach] at hagree
    generalize c.evaluate p source offset = r at hagree
    cases hagree with
    | ok h =>
      cases h
      rfl

/-- A key that shows a number of too many digits is in the way of a path that does not come near
it. -/
theorem unreachable_beside_long_key :
    let entries : List (Data × Data) :=
      [(.integer (Int.ofNat (Nat.pow 16 3600)), .text "y".toList),
        (.text "a".toList, .text "x".toList)]
    Data.entriesPlain entries = true ∧
      Data.reach entries ⟨"a".toList, [], none⟩ = .ok (.text "x".toList) ∧
      ofEntries entries = .error (.number .tooLongToWrite) := by
  intro entries
  refine ⟨rfl, rfl, ?_⟩
  have hlong : Data.isWritable (.integer (Int.ofNat (Nat.pow 16 3600))) = false := by
    decide +kernel
  have htext : Data.asText? (.integer (Int.ofNat (Nat.pow 16 3600))) = .error .tooLongToWrite :=
    Data.asText?_eq_error_iff.mpr ⟨hlong, rfl⟩
  rw [ofEntries, addEntries, htext]
  rfl

end Context

end Phrasing
