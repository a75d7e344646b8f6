/-
# Which faults of a configuration are reported

Whatever is wrong with a configuration should come back as an error that names the configuration.
It does so for mistakes in a value or a type, as long as options are read.  Two of the other sorts
of mistakes can be made: a limit without end has no integral part, and some data cannot be asked
whether it is blank, or is a width that no text has.  Keys and styles are read outside that care,
so that a number of too many digits in them gets away as well.

`Unreported` lists these four ways, each behind what has to be in order for it to be reached, and
`faults_reported_iff` says that there are no others.
-/
import Phrasing.Configuration.Basic
import Phrasing.Proofs.Outcome

namespace Phrasing

/-! ## 1. Single settings -/

/-- A mistake that is not reported as one of a configuration. -/
def Mistake.Strays (m : Mistake) : Prop := m ≠ .value ∧ m ≠ .type

theorem NumberFault.strays_iff {f : NumberFault} : f.mistake.Strays ↔ f = .infiniteNumber := by
  cases f <;> simp [Mistake.Strays, mistake]

theorem IndentFault.strays_iff {f : IndentFault} :
    f.mistake.Strays ↔ f = .tooWide ∨ ∃ typeName, f = .notAText typeName := by
  cases f <;> simp [Mistake.Strays, mistake]

/-- Reading a text never leaves the finite numbers. -/
theorem Number.readAs_ne_infinite {literal t : Text} :
    readAs literal t ≠ .error .infiniteNumber := by
  intro h
  unfold readAs at h
  dsimp only at h
  split at h
  · split at h
    · cases h
    · split at h <;> cases h
  · cases h

/-- Only infinities are out of range as whole numbers. -/
theorem Data.toInteger_eq_infinite_iff {d : Data} :
    d.toInteger = .error .infiniteNumber ↔ ∃ negative, d = .real (.infinite negative) := by
  constructor
  · intro h
    cases d with
    | real x =>
      cases x with
      | infinite negative => exact ⟨negative, rfl⟩
      | _ => cases h
    | text t => exact absurd h Number.readAs_ne_infinite
    | bytes octets => exact absurd h Number.readAs_ne_infinite
    | _ => cases h
  · rintro ⟨negative, rfl⟩
    rfl

namespace Indent

/-- Data that cannot be asked whether it is an indent: it is neither a text, nor a number of spaces
that a text can have.  Byte strings and truth values are refused before they are asked. -/
def Unfit : Data → Prop
  | .integer n => widthLimit < n
  | .truth _ | .text _ | .bytes _ => False
  | _ => True

theorem ofData_strays_iff {d : Data} :
    FailsBy (fun f => f.mistake.Strays) (ofData d) ↔ Unfit d := by
  cases d with
  | integer n =>
    rw [ofData, Unfit]
    split
    · rw [failsBy_error, IndentFault.strays_iff]
      simp
      omega
    · split
      · rw [failsBy_error, IndentFault.strays_iff]
        simp
        omega
      · refine iff_of_false (failsBy_ok _) ?_
        omega
  | text t =>
    rw [ofData, Unfit]
    split <;> simp [IndentFault.strays_iff]
  | _ => simp [ofData, IndentFault.strays_iff, Unfit]

end Indent

namespace Enumeration

theorem limit_eq_ok {e e' : Enumeration} {n : Int} (h : e.limit n = .ok e') :
    1 ≤ n ∧ e'.maxItems = some n.toNat := by
  unfold limit at h
  split at h
  · next hn =>
    cases h
    exact ⟨hn, rfl⟩
  · cases h

theorem exists_limit_iff {e : Enumeration} {n : Int} : (∃ e', e.limit n = .ok e') ↔ 1 ≤ n := by
  unfold limit
  split <;> simp [*]

theorem limit_not_strays {e : Enumeration} {n : Int} :
    ¬ FailsBy (fun f => f.mistake.Strays) (e.limit n) := by
  unfold limit
  split
  · exact failsBy_ok _
  · rw [failsBy_error]
    simp [Mistake.Strays, EnumerationFault.mistake]

variable {entries : List (Data × Data)}

/-- Rules are refused for their limit only. -/
theorem exists_ofEntries_iff :
    (∃ e, ofEntries entries = .ok e) ↔
      ∀ d, Data.pick? entries limitKeys = some d → ∃ n, d.toInteger = .ok n ∧ 1 ≤ n := by
  unfold ofEntries
  cases Data.pick? entries limitKeys with
  | none => simp
  | some d =>
    simp only [bind_eq_ok, mapError_eq_ok, Option.some.injEq, forall_eq']
    rw [exists_comm]
    simp only [exists_and_left, exists_limit_iff]

theorem ofEntries_strays_iff :
    FailsBy (fun f => f.mistake.Strays) (ofEntries entries) ↔
      ∃ negative, Data.pick? entries limitKeys = some (.real (.infinite negative)) := by
  unfold ofEntries
  cases Data.pick? entries limitKeys with
  | none => simp
  | some d =>
    simp only [failsBy_bind, limit_not_strays, and_false, exists_false, or_false,
      failsBy_mapError, Option.some.injEq]
    change FailsBy (fun f => f.mistake.Strays) d.toInteger ↔ _
    rw [← Data.toInteger_eq_infinite_iff]
    simp only [FailsBy, NumberFault.strays_iff, exists_eq_right]

/-- The limit is the whole number that is given, and at least one. -/
theorem maxItems_of_ofEntries {e : Enumeration} (h : ofEntries entries = .ok e) :
    match Data.pick? entries limitKeys with
    | none => e.maxItems = none
    | some d => ∃ n, d.toInteger = .ok n ∧ 1 ≤ n ∧ e.maxItems = some n.toNat := by
  unfold ofEntries at h
  cases hpick : Data.pick? entries limitKeys with
  | none =>
    rw [hpick] at h
    cases h
    rfl
  | some d =>
    simp only [hpick, bind_eq_ok, mapError_eq_ok] at h
    obtain ⟨n, hn, hlimit⟩ := h
    exact ⟨n, hn, limit_eq_ok hlimit⟩

end Enumeration

/-! ## 2. All settings -/

namespace Options

variable {entries : List (Data × Data)}

/-- The data that the limit is given as. -/
def limitData? (entries : List (Data × Data)) : Option Data :=
  (section? "collapse" entries).bind fun inner => Data.pick? inner Enumeration.limitKeys

/-- The data that the indent is given as. -/
def indentData? (entries : List (Data × Data)) : Option Data :=
  (section? "compose" entries).bind fun inner => Data.pick? inner ["indent"]

/-- The data for the capability, if there is any, names one. -/
def CapabilityFits (entries : List (Data × Data)) : Prop :=
  ∀ d, Data.pick? entries capabilityKeys = some d →
    d.isWritable = true ∧ (Capability.ofData? d).isSome = true

/-- The data for the limit, if there is any, stands for a whole number above zero. -/
def LimitFits (entries : List (Data × Data)) : Prop :=
  ∀ d, limitData? entries = some d → ∃ n, d.toInteger = .ok n ∧ 1 ≤ n

/-- The data for the indent, if there is any, describes one. -/
def IndentFits (entries : List (Data × Data)) : Prop :=
  ∀ d, indentData? entries = some d → ∃ i, Indent.ofData d = .ok i

/-- The words can be written. -/
def WordsFit (entries : List (Data × Data)) : Prop :=
  ∀ inner, section? "formats" entries = some inner → Wording.isWritable inner = true

/-- All settings can be read. -/
structure Fit (entries : List (Data × Data)) : Prop where
  capability : CapabilityFits entries
  limit : LimitFits entries
  indent : IndentFits entries
  words : WordsFit entries

theorem exists_readSection_iff {α : Type} {key : String}
    {read : List (Data × Data) → Except OptionFault α} {otherwise : α} :
    (∃ a, readSection key read otherwise entries = .ok a) ↔
      ∀ inner, section? key entries = some inner → ∃ a, read inner = .ok a := by
  unfold readSection
  cases section? key entries <;> simp

theorem failsBy_readSection {α : Type} {P : OptionFault → Prop} {key : String}
    {read : List (Data × Data) → Except OptionFault α} {otherwise : α} :
    FailsBy P (readSection key read otherwise entries) ↔
      ∃ inner, section? key entries = some inner ∧ FailsBy P (read inner) := by
  unfold readSection
  cases section? key entries <;> simp

theorem exists_capabilityOf_iff :
    (∃ c, capabilityOf entries = .ok c) ↔ CapabilityFits entries := by
  unfold capabilityOf CapabilityFits readCapability
  cases Data.pick? entries capabilityKeys with
  | none => simp
  | some d =>
    simp only [Option.some.injEq, forall_eq']
    by_cases hd : d.isWritable = true
    · cases Capability.ofData? d <;> simp [hd]
    · simp [hd]

theorem capabilityOf_not_strays :
    ¬ FailsBy (fun f => f.mistake.Strays) (capabilityOf entries) := by
  unfold capabilityOf readCapability
  split
  · split
    · split <;> simp [Mistake.Strays, OptionFault.mistake]
    · simp [Mistake.Strays, OptionFault.mistake, NumberFault.mistake]
  · exact failsBy_ok _

theorem exists_enumeration_iff :
    (∃ e, readSection "collapse" readEnumeration standard.enumeration entries = .ok e) ↔
      LimitFits entries := by
  unfold LimitFits limitData?
  simp only [exists_readSection_iff, readEnumeration, mapError_eq_ok,
    Enumeration.exists_ofEntries_iff, Option.bind_eq_some_iff]
  exact ⟨fun h d ⟨inner, hinner, hd⟩ => h inner hinner d hd,
    fun h inner hinner d hd => h d ⟨inner, hinner, hd⟩⟩

theorem enumeration_strays_iff :
    FailsBy (fun f => f.mistake.Strays)
        (readSection "collapse" readEnumeration standard.enumeration entries) ↔
      ∃ negative, limitData? entries = some (.real (.infinite negative)) := by
  unfold limitData?
  simp only [failsBy_readSection, readEnumeration, failsBy_mapError, OptionFault.mistake,
    Enumeration.ofEntries_strays_iff, Option.bind_eq_some_iff]
  exact ⟨fun ⟨inner, hinner, negative, h⟩ => ⟨negative, inner, hinner, h⟩,
    fun ⟨negative, inner, hinner, h⟩ => ⟨inner, hinner, negative, h⟩⟩

theorem exists_indent_iff :
    (∃ i, readSection "compose" readAssembly standard.indent entries = .ok i) ↔
      IndentFits entries := by
  have hread (inner : List (Data × Data)) : (∃ i, readAssembly inner = .ok i) ↔
      ∀ d, Data.pick? inner ["indent"] = some d → ∃ i, Indent.ofData d = .ok i := by
    unfold readAssembly
    cases Data.pick? inner ["indent"] <;> simp [readIndent, mapError_eq_ok]
  unfold IndentFits indentData?
  simp only [exists_readSection_iff, hread, Option.bind_eq_some_iff]
  exact ⟨fun h d ⟨inner, hinner, hd⟩ => h inner hinner d hd,
    fun h inner hinner d hd => h d ⟨inner, hinner, hd⟩⟩

theorem indent_strays_iff :
    FailsBy (fun f => f.mistake.Strays)
        (readSection "compose" readAssembly standard.indent entries) ↔
      ∃ d, indentData? entries = some d ∧ Indent.Unfit d := by
  have hread (inner : List (Data × Data)) :
      FailsBy (fun f => f.mistake.Strays) (readAssembly inner) ↔
        ∃ d, Data.pick? inner ["indent"] = some d ∧ Indent.Unfit d := by
    unfold readAssembly
    cases Data.pick? inner ["indent"] <;>
      simp [readIndent, failsBy_mapError, OptionFault.mistake, Indent.ofData_strays_iff]
  unfold indentData?
  simp only [failsBy_readSection, hread, Option.bind_eq_some_iff]
  exact ⟨fun ⟨inner, hinner, d, h, hd⟩ => ⟨d, ⟨inner, hinner, h⟩, hd⟩,
    fun ⟨d, ⟨inner, hinner, h⟩, hd⟩ => ⟨inner, hinner, d, h, hd⟩⟩

theorem exists_wording_iff :
    (∃ w, readSection "formats" readWording standard.wording entries = .ok w) ↔
      WordsFit entries := by
  have hread (inner : List (Data × Data)) :
      (∃ w, readWording inner = .ok w) ↔ Wording.isWritable inner = true := by
    unfold readWording
    split <;> simp [*]
  simp only [WordsFit, exists_readSection_iff, hread]

theorem wording_not_strays :
    ¬ FailsBy (fun f => f.mistake.Strays)
      (readSection "formats" readWording standard.wording entries) := by
  rw [failsBy_readSection]
  rintro ⟨inner, -, h⟩
  unfold readWording at h
  split at h
  · exact failsBy_ok _ h
  · rw [failsBy_error] at h
    exact h.1 rfl

/-- **Settings can be read** if each of them can. -/
theorem exists_ofEntries_iff : (∃ o, ofEntries entries = .ok o) ↔ Fit entries := by
  constructor
  · rintro ⟨o, ho⟩
    simp only [ofEntries, bind_eq_ok] at ho
    obtain ⟨c, hc, e, he, i, hi, w, hw, -⟩ := ho
    exact ⟨exists_capabilityOf_iff.mp ⟨c, hc⟩, exists_enumeration_iff.mp ⟨e, he⟩,
      exists_indent_iff.mp ⟨i, hi⟩, exists_wording_iff.mp ⟨w, hw⟩⟩
  · intro h
    obtain ⟨c, hc⟩ := exists_capabilityOf_iff.mpr h.capability
    obtain ⟨e, he⟩ := exists_enumeration_iff.mpr h.limit
    obtain ⟨i, hi⟩ := exists_indent_iff.mpr h.indent
    obtain ⟨w, hw⟩ := exists_wording_iff.mpr h.words
    simp only [ofEntries, bind_eq_ok]
    exact ⟨_, c, hc, e, he, i, hi, w, hw, rfl⟩

/-- **A mistake in settings gets away** in two ways: a limit without end, or an indent that is not
fit to be asked. -/
theorem ofEntries_strays_iff :
    FailsBy (fun f => f.mistake.Strays) (ofEntries entries) ↔
      CapabilityFits entries ∧
        ((∃ negative, limitData? entries = some (.real (.infinite negative))) ∨
          LimitFits entries ∧ ∃ d, indentData? entries = some d ∧ Indent.Unfit d) := by
  simp only [ofEntries, failsBy_bind, capabilityOf_not_strays, false_or, enumeration_strays_iff,
    indent_strays_iff, wording_not_strays, failsBy_pure, and_false, exists_false, or_false,
    exists_and_right, exists_capabilityOf_iff, exists_enumeration_iff]

/-- The limit is the whole number that is given for it. -/
theorem maxItems_of_ofEntries {o : Options} (h : ofEntries entries = .ok o) :
    match limitData? entries with
    | none => o.enumeration.maxItems = none
    | some d => ∃ n, d.toInteger = .ok n ∧ 1 ≤ n ∧ o.enumeration.maxItems = some n.toNat := by
  simp only [ofEntries, bind_eq_ok] at h
  obtain ⟨_, -, e, he, _, -, _, -, h⟩ := h
  cases h
  unfold readSection at he
  unfold limitData?
  cases hsection : section? "collapse" entries with
  | none =>
    rw [hsection] at he
    cases he
    rfl
  | some inner =>
    simp only [hsection, readEnumeration, mapError_eq_ok] at he
    exact Enumeration.maxItems_of_ofEntries he

end Options

/-! ## 3. Keys and styles -/

/-- A fault that is not reported as one of the configuration. -/
def ConfigurationFault.Strays : ConfigurationFault → Prop
  | .option f => f.mistake.Strays
  | .number _ => True
  | _ => False

theorem ConfigurationError.isReported_eq_false_iff {e : ConfigurationError} :
    e.isReported = false ↔ e.fault.Strays := by
  obtain ⟨origin, fault⟩ := e
  cases fault <;> simp [isReported, ConfigurationFault.Strays, Mistake.Strays]

namespace Configuration

variable {entries : List (Data × Data)}

/-- All keys are known, and those for mappings stand for mappings. -/
structure InForm (entries : List (Data × Data)) : Prop where
  known : ∀ entry ∈ entries, isKnown entry.1 = true
  mappings : ∀ key ∈ mappingKeys, ∀ d, Data.field? key.toList entries = some d → isMapping d = true

theorem exists_writtenText_iff {d : Data} : (∃ t, writtenText d = .ok t) ↔ d.isWritable = true := by
  simp only [writtenText, mapError_eq_ok, Data.exists_asText?_iff]

theorem writtenText_strays_iff {d : Data} :
    FailsBy ConfigurationFault.Strays (writtenText d) ↔ d.isWritable = false := by
  rw [writtenText, failsBy_mapError]
  simp [FailsBy, Data.asText?_eq_error_iff, ConfigurationFault.Strays]

theorem mapM_writtenText_strays_iff {es : List (Data × Data)} :
    FailsBy ConfigurationFault.Strays (es.mapM fun entry => writtenText entry.1) ↔
      ∃ entry ∈ es, entry.1.isWritable = false := by
  induction es with
  | nil => simp
  | cons entry es ih =>
    simp only [List.mapM_cons, failsBy_bind, writtenText_strays_iff, ih, failsBy_pure, and_false,
      exists_false, or_false, exists_and_right, exists_writtenText_iff, List.mem_cons,
      exists_eq_or_imp]
    cases entry.1.isWritable <;> simp

theorem checkKeys_eq_ok_iff :
    checkKeys entries = .ok () ↔ ∀ entry ∈ entries, isKnown entry.1 = true := by
  have hfilter : (entries.filter fun entry => !isKnown entry.1) = [] ↔
      ∀ entry ∈ entries, isKnown entry.1 = true := by
    simp [List.filter_eq_nil_iff]
  unfold checkKeys
  split
  · next h => exact iff_of_true rfl (hfilter.mp h)
  · next h =>
    refine iff_of_false (fun hok => ?_) (mt hfilter.mpr h)
    obtain ⟨_, -, hthrow⟩ := bind_eq_ok.mp hok
    cases hthrow

theorem checkKeys_strays_iff :
    FailsBy ConfigurationFault.Strays (checkKeys entries) ↔
      ∃ entry ∈ entries, isKnown entry.1 = false ∧ entry.1.isWritable = false := by
  have hfilter : (∃ entry ∈ entries.filter fun entry => !isKnown entry.1,
      entry.1.isWritable = false) ↔
        ∃ entry ∈ entries, isKnown entry.1 = false ∧ entry.1.isWritable = false := by
    simp only [List.mem_filter, Bool.not_eq_true', and_assoc]
  rw [← hfilter]
  unfold checkKeys
  split
  · next h => simp [h]
  · rw [failsBy_bind, mapM_writtenText_strays_iff, or_iff_left]
    rintro ⟨names, -, hthrow⟩
    exact failsBy_error.mp hthrow

theorem checkMappings_eq_ok_iff :
    checkMappings entries = .ok () ↔
      ∀ key ∈ mappingKeys, ∀ d, Data.field? key.toList entries = some d → isMapping d = true := by
  unfold checkMappings
  dsimp only
  split
  · next key hkey =>
    refine iff_of_false (by simp) fun h => ?_
    have hbad := List.find?_some hkey
    cases hd : Data.field? key.toList entries with
    | none => simp [hd] at hbad
    | some d => simp [hd, h key (List.mem_of_find?_eq_some hkey) d hd] at hbad
  · next hnone =>
    refine iff_of_true rfl fun key hkey d hd => ?_
    simpa [hd] using List.find?_eq_none.mp hnone key hkey

theorem checkMappings_not_strays :
    ¬ FailsBy ConfigurationFault.Strays (checkMappings entries) := by
  unfold checkMappings
  dsimp only
  split <;> simp [ConfigurationFault.Strays]

/-- The data that is written in a rendition; `none` if the data describes no rendition. -/
def renditionParts? : Option Data → Option (List Data)
  | none | some .absent => some []
  | some (.list [on, off]) | some (.tuple [on, off]) => some [on, off]
  | some _ => none

/-- The data that is written in a style; `none` if the data describes no style. -/
def styleParts? : Data → Option (List Data)
  | .text t => if (splitWrapper? t).isSome then some [] else none
  | .mapping entries =>
    (renditionParts? (Data.field? "sgr".toList entries)).map fun parts =>
      parts ++ (Data.field? "prefix".toList entries).toList ++
        (Data.field? "suffix".toList entries).toList
  | _ => none

/-- An entry describes a style. -/
def StyleFits (entry : Data × Data) : Prop :=
  entry.1.isWritable = true ∧
    ∃ parts, styleParts? entry.2 = some parts ∧ Data.itemsWritable parts = true

/-- An entry describes a style, but for a number of too many digits in its name or in what is
written. -/
def StyleOverflows (entry : Data × Data) : Prop :=
  entry.1.isWritable = false ∨
    ∃ parts, styleParts? entry.2 = some parts ∧ Data.itemsWritable parts = false

theorem exists_entryText_iff {key : String} :
    (∃ t, entryText key entries = .ok t) ↔
      Data.itemsWritable (Data.field? key.toList entries).toList = true := by
  unfold entryText
  cases Data.field? key.toList entries <;> simp [exists_writtenText_iff, Data.itemsWritable]

theorem entryText_strays_iff {key : String} :
    FailsBy ConfigurationFault.Strays (entryText key entries) ↔
      Data.itemsWritable (Data.field? key.toList entries).toList = false := by
  unfold entryText
  cases Data.field? key.toList entries <;> simp [writtenText_strays_iff, Data.itemsWritable]

theorem exists_readRendition_iff {name : Text} {d : Option Data} :
    (∃ r, readRendition name d = .ok r) ↔
      ∃ parts, renditionParts? d = some parts ∧ Data.itemsWritable parts = true := by
  have hpair (on off : Data) :
      (∃ r, (do return some (← writtenText on, ← writtenText off)) = .ok r) ↔
        Data.itemsWritable [on, off] = true := by
    simp only [exists_bind_eq_ok, exists_and_right, exists_writtenText_iff, Data.itemsWritable,
      Bool.and_true, Bool.and_eq_true, pure, Except.pure, Except.ok.injEq, exists_eq', and_true]
  unfold readRendition renditionParts?
  split
  · exact iff_of_true ⟨_, rfl⟩ ⟨_, rfl, rfl⟩
  · exact iff_of_true ⟨_, rfl⟩ ⟨_, rfl, rfl⟩
  · next on off => exact (hpair on off).trans (by simp)
  · next on off => exact (hpair on off).trans (by simp)
  · simp

theorem readRendition_strays_iff {name : Text} {d : Option Data} :
    FailsBy ConfigurationFault.Strays (readRendition name d) ↔
      ∃ parts, renditionParts? d = some parts ∧ Data.itemsWritable parts = false := by
  have hpair (on off : Data) :
      FailsBy ConfigurationFault.Strays (do return some (← writtenText on, ← writtenText off)) ↔
        Data.itemsWritable [on, off] = false := by
    simp only [failsBy_bind, failsBy_pure, and_false, exists_false, or_false, exists_and_right,
      exists_writtenText_iff, writtenText_strays_iff, Data.itemsWritable, Bool.and_true]
    cases on.isWritable <;> simp
  unfold readRendition renditionParts?
  split
  · simp [Data.itemsWritable]
  · simp [Data.itemsWritable]
  · next on off => exact (hpair on off).trans (by simp)
  · next on off => exact (hpair on off).trans (by simp)
  · simp [ConfigurationFault.Strays]

theorem exists_readStyle_iff {name : Text} {d : Data} :
    (∃ m, readStyle name d = .ok m) ↔
      ∃ parts, styleParts? d = some parts ∧ Data.itemsWritable parts = true := by
  cases d with
  | text t =>
    rw [readStyle, styleParts?]
    cases splitWrapper? t <;> simp [Data.itemsWritable]
  | mapping entries =>
    rw [readStyle, styleParts?]
    simp only [exists_bind_eq_ok, exists_and_right, exists_readRendition_iff, exists_entryText_iff,
      pure, Except.pure, Except.ok.injEq, exists_eq', and_true]
    cases renditionParts? (Data.field? "sgr".toList entries) with
    | none => simp
    | some parts => simp [Data.itemsWritable_append]
  | _ => simp [readStyle, styleParts?]

theorem readStyle_strays_iff {name : Text} {d : Data} :
    FailsBy ConfigurationFault.Strays (readStyle name d) ↔
      ∃ parts, styleParts? d = some parts ∧ Data.itemsWritable parts = false := by
  cases d with
  | text t =>
    rw [readStyle, styleParts?]
    cases splitWrapper? t <;> simp [Data.itemsWritable, ConfigurationFault.Strays]
  | mapping entries =>
    rw [readStyle, styleParts?]
    simp only [failsBy_bind, failsBy_pure, and_false, exists_false, or_false, exists_and_right,
      readRendition_strays_iff, exists_readRendition_iff, entryText_strays_iff,
      exists_entryText_iff]
    cases renditionParts? (Data.field? "sgr".toList entries) with
    | none => simp
    | some parts =>
      simp only [Data.itemsWritable_append, Option.some.injEq, exists_eq_left', Option.map_some]
      cases Data.itemsWritable parts <;>
        cases Data.itemsWritable (Data.field? "prefix".toList entries).toList <;> simp
  | _ => simp [readStyle, styleParts?, ConfigurationFault.Strays]

/-- The first entry that does not fit overflows. -/
def StylesOverflow (entries : List (Data × Data)) : Prop :=
  ∃ front entry back, entries = front ++ entry :: back ∧ (∀ e ∈ front, StyleFits e) ∧
    StyleOverflows entry

theorem stylesOverflow_cons {entry : Data × Data} :
    StylesOverflow (entry :: entries) ↔
      StyleOverflows entry ∨ StyleFits entry ∧ StylesOverflow entries := by
  constructor
  · rintro ⟨front, entry', back, heq, hfront, hoverflows⟩
    cases front with
    | nil =>
      cases heq
      exact .inl hoverflows
    | cons e front =>
      obtain ⟨rfl, rfl⟩ := List.cons.inj heq
      obtain ⟨he, hfront⟩ := List.forall_mem_cons.mp hfront
      exact .inr ⟨he, front, entry', back, rfl, hfront, hoverflows⟩
  · rintro (hoverflows | ⟨hfits, front, entry', back, rfl, hfront, hoverflows⟩)
    · exact ⟨[], entry, entries, rfl, List.forall_mem_nil _, hoverflows⟩
    · exact ⟨entry :: front, entry', back, rfl, List.forall_mem_cons.mpr ⟨hfits, hfront⟩,
        hoverflows⟩

theorem readStyles_strays_iff {before : Named Markers} :
    FailsBy ConfigurationFault.Strays (readStyles before entries) ↔ StylesOverflow entries := by
  induction entries generalizing before with
  | nil =>
    refine iff_of_false (failsBy_ok _) ?_
    rintro ⟨front, entry, back, heq, -⟩
    exact absurd heq (by simp)
  | cons entry entries ih =>
    obtain ⟨key, d⟩ := entry
    simp only [readStyles, failsBy_bind, ih, writtenText_strays_iff, readStyle_strays_iff,
      exists_and_right, exists_writtenText_iff, exists_readStyle_iff, stylesOverflow_cons,
      StyleOverflows, StyleFits]
    cases key.isWritable <;> simp

/-! ## 4. Whole configurations -/

/-- A fault in the entries of a configuration is reached that is not reported as one.  What is read
before it is in order. -/
inductive Unreported (entries : List (Data × Data)) : Prop
  /-- A key that is not known shows a number of too many digits. -/
  | key {entry : Data × Data} (mem : entry ∈ entries) (unknown : isKnown entry.1 = false)
      (overflows : entry.1.isWritable = false)
  /-- The limit of an enumeration is infinite. -/
  | limit (form : InForm entries) (capability : Options.CapabilityFits entries) {negative : Bool}
      (infinite : Options.limitData? entries = some (.real (.infinite negative)))
  /-- The indent is neither a text nor a number of spaces that a text can have. -/
  | indent (form : InForm entries) (capability : Options.CapabilityFits entries)
      (limit : Options.LimitFits entries) {d : Data} (given : Options.indentData? entries = some d)
      (unfit : Indent.Unfit d)
  /-- A style shows a number of too many digits. -/
  | style (form : InForm entries) (options : Options.Fit entries)
      (overflow : StylesOverflow ((Options.section? "styles" entries).getD []))

/-- Keys that are in order leave options and styles to be read. -/
theorem readEntries_of_inForm (h : InForm entries) :
    readEntries entries = do
      let options ← (Options.ofEntries entries).mapError .option
      let styles ← readStyles [] ((Options.section? "styles" entries).getD [])
      return ⟨options, styles⟩ := by
  rw [readEntries, checkKeys_eq_ok_iff.mpr h.known, checkMappings_eq_ok_iff.mpr h.mappings]
  rfl

theorem options_stray_iff :
    FailsBy ConfigurationFault.Strays ((Options.ofEntries entries).mapError .option) ↔
      Options.CapabilityFits entries ∧
        ((∃ negative, Options.limitData? entries = some (.real (.infinite negative))) ∨
          Options.LimitFits entries ∧
            ∃ d, Options.indentData? entries = some d ∧ Indent.Unfit d) :=
  failsBy_mapError.trans Options.ofEntries_strays_iff

theorem unreported_of_readEntries (h : FailsBy ConfigurationFault.Strays (readEntries entries)) :
    Unreported entries := by
  rw [readEntries, failsBy_bind, checkKeys_strays_iff] at h
  rcases h with ⟨entry, hmem, hunknown, hoverflows⟩ | ⟨⟨⟩, hkeys, h⟩
  · exact .key hmem hunknown hoverflows
  rw [failsBy_bind, or_iff_right checkMappings_not_strays] at h
  obtain ⟨⟨⟩, hmappings, h⟩ := h
  have hform : InForm entries :=
    ⟨checkKeys_eq_ok_iff.mp hkeys, checkMappings_eq_ok_iff.mp hmappings⟩
  rw [failsBy_bind, options_stray_iff] at h
  rcases h with ⟨hcapability, ⟨negative, hlimit⟩ | ⟨hlimit, d, hd, hunfit⟩⟩ | ⟨o, ho, h⟩
  · exact .limit hform hcapability hlimit
  · exact .indent hform hcapability hlimit hd hunfit
  · rw [failsBy_bind, readStyles_strays_iff] at h
    refine .style hform ?_ (h.resolve_right ?_)
    · exact Options.exists_ofEntries_iff.mp ⟨o, mapError_eq_ok.mp ho⟩
    · rintro ⟨styles, -, hpure⟩
      exact failsBy_pure _ hpure

theorem readEntries_of_unreported (h : Unreported entries) :
    FailsBy ConfigurationFault.Strays (readEntries entries) := by
  cases h with
  | key mem unknown overflows =>
    rw [readEntries, failsBy_bind, checkKeys_strays_iff]
    exact .inl ⟨_, mem, unknown, overflows⟩
  | limit form capability infinite =>
    rw [readEntries_of_inForm form, failsBy_bind, options_stray_iff]
    exact .inl ⟨capability, .inl ⟨_, infinite⟩⟩
  | indent form capability limit given unfit =>
    rw [readEntries_of_inForm form, failsBy_bind, options_stray_iff]
    exact .inl ⟨capability, .inr ⟨limit, _, given, unfit⟩⟩
  | style form options overflow =>
    obtain ⟨o, ho⟩ := Options.exists_ofEntries_iff.mpr options
    rw [readEntries_of_inForm form, failsBy_bind]
    refine .inr ⟨o, mapError_eq_ok.mpr ho, ?_⟩
    rw [failsBy_bind, readStyles_strays_iff]
    exact .inl overflow

/-- **Faults of a configuration are reported**, but for those that `Unreported` lists.  What is
accepted has no such fault either; its limit, if it has one, is the whole number that was given for
it, and its indent is made of spaces and tabs. -/
theorem faults_reported_iff (origin : Text) (entries : List (Data × Data)) :
    match ofEntries origin entries with
    | .ok c =>
      ¬ Unreported entries ∧
      (match Options.limitData? entries with
        | none => c.options.enumeration.maxItems = none
        | some d => ∃ n, d.toInteger = .ok n ∧ 1 ≤ n ∧
            c.options.enumeration.maxItems = some n.toNat) ∧
      ∀ ch ∈ c.options.indent.text, ch = ' ' ∨ ch = '\t'
    | .error e => e.isReported = false ↔ Unreported entries := by
  unfold ofEntries
  cases hread : readEntries entries with
  | error f =>
    refine ConfigurationError.isReported_eq_false_iff.trans ?_
    constructor
    · intro hstrays
      exact unreported_of_readEntries ⟨f, hread, hstrays⟩
    · intro hunreported
      have h := readEntries_of_unreported hunreported
      rwa [hread, failsBy_error] at h
  | ok c =>
    refine ⟨fun hunreported => ?_, ?_, fun ch hch => ?_⟩
    · have h := readEntries_of_unreported hunreported
      rw [hread] at h
      exact failsBy_ok _ h
    · simp only [readEntries, bind_eq_ok, mapError_eq_ok] at hread
      obtain ⟨⟨⟩, -, ⟨⟩, -, o, ho, styles, -, hc⟩ := hread
      cases hc
      exact Options.maxItems_of_ofEntries ho
    · have hblank := List.all_eq_true.mp c.options.indent.blank ch hch
      simpa [isIndentChar] using hblank

/-- Neither an infinity nor an undefined number can be the limit, but only the second is
reported. -/
theorem infinite_limit_unreported :
    (∃ e, ofEntries "<config>".toList [(.text "collapse".toList, .mapping
        [(.text "max_items".toList, .real (.infinite false))])] = .error e ∧
      e.fault = .option (.enumeration (.number .infiniteNumber)) ∧ e.isReported = false) ∧
    ∃ e, ofEntries "<config>".toList [(.text "collapse".toList, .mapping
        [(.text "max_items".toList, .real .undefined)])] = .error e ∧ e.isReported = true :=
  ⟨⟨_, rfl, rfl, rfl⟩, ⟨_, rfl, rfl⟩⟩

end Configuration

end Phrasing
