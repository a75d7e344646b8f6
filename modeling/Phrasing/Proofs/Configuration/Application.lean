/-
# Applying a configuration

The styles of a configuration are registered one after the other, in the registry that is to be
used.  A name without ink is taken when a configuration is read, but not when a style is registered:
the styles in front of such a name are in the registry then, and the others are not.

`apply_up_to_blank` says what a registry is after that.  The styles in front of the first name
without ink (`inkedFront`) are what their names are resolved to, and every other name is resolved as
before.
-/
import Mathlib.Data.List.TakeWhile
import Phrasing.Proofs.Configuration.Faults
import Phrasing.Proofs.Style.History

namespace Phrasing

/-! ## 1. Registries with styles installed -/

namespace Registry

/-- One registry is the other with some styles in it.  These are found under their names, and the
other names are as before. -/
structure Installed (styles : Named Markers) (r r' : Registry) : Prop where
  fallback_eq : r'.fallback = r.fallback
  find? : ∀ name, Named.find? name r'.styles =
    ((Named.find? name styles).map Style.markers).or (Named.find? name r.styles)
  warned : ∀ name, Named.find? name styles = none → (name ∈ r'.warned ↔ name ∈ r.warned)

variable {styles : Named Markers} {r r' : Registry} {name : Text}

theorem installed_nil (r : Registry) : Installed [] r r where
  fallback_eq := rfl
  find? _ := rfl
  warned _ _ := Iff.rfl

/-- What a name is resolved to, and the notice of it, depend on what is known of the name. -/
theorem resolve?_eq_of_known (hfind : Named.find? name r.styles = Named.find? name r'.styles)
    (hfallback : r.fallback = r'.fallback) (hwarned : name ∈ r.warned ↔ name ∈ r'.warned)
    (capability : Capability) (strict : Bool) :
    (r.resolve? capability strict name).1 = (r'.resolve? capability strict name).1 ∧
      (r.resolve? capability strict name).2.2 = (r'.resolve? capability strict name).2.2 := by
  by_cases hcapability : capability = .none
  · rw [hcapability]
    exact ⟨rfl, rfl⟩
  rw [resolve?_fst r hcapability, resolve?_fst r' hcapability, hfind, hfallback]
  refine ⟨rfl, ?_⟩
  by_cases hback : capability ≠ .none ∧ strict = false ∧ r.fallback.isSome ∧
      Named.find? name r.styles = none
  · obtain ⟨-, rfl, hsome, hnone⟩ := hback
    obtain ⟨f, hf⟩ := Option.isSome_iff_exists.mp hsome
    rw [resolve?_of_fallback hcapability hnone hf,
      resolve?_of_fallback hcapability (hfind ▸ hnone) (hfallback ▸ hf)]
    by_cases hmem : name ∈ r.warned
    · rw [if_pos hmem, if_pos (hwarned.mp hmem)]
    · rw [if_neg hmem, if_neg (mt hwarned.mpr hmem)]
  · rw [resolve?_quiet hback, resolve?_quiet (hfind ▸ hfallback ▸ hback)]

namespace Installed

/-- A style that is registered first, under a name that none of the others has. -/
theorem cons {m : Markers} (hnew : Named.find? name styles = none)
    (h : Installed styles
      ⟨Named.set name (.markers m) r.styles, r.fallback, r.warned.filter (· ≠ name)⟩ r') :
    Installed ((name, m) :: styles) r r' where
  fallback_eq := h.fallback_eq
  find? key := by
    rw [h.find?, Named.find?_set, Named.find?]
    by_cases hkey : name = key
    · subst hkey
      simp [hnew]
    · simp [hkey]
  warned key hkey := by
    rw [Named.find?] at hkey
    by_cases hname : name = key
    · rw [if_pos hname] at hkey
      cases hkey
    · rw [if_neg hname] at hkey
      rw [h.warned key hkey, List.mem_filter]
      simp [Ne.symm hname]

theorem mem_names_iff (h : Installed styles r r') :
    name ∈ r'.names ↔ name ∈ r.names ∨ name ∈ Named.names styles := by
  simp only [names, (Text.sort_perm _).mem_iff, ← Named.find?_isSome_iff, h.find?,
    Option.isSome_or, Option.isSome_map, Bool.or_eq_true]
  exact or_comm

/-- A style that is installed is what its name is resolved to. -/
theorem resolve?_of_find? (h : Installed styles r r') {m : Markers}
    (hfind : Named.find? name styles = some m) (capability : Capability) (strict : Bool) :
    r'.resolve? capability strict name =
      (some ((Style.markers m).apply capability), r', []) := by
  have hstyle : Named.find? name r'.styles = some (.markers m) := by
    rw [h.find?, hfind]
    rfl
  have hquiet : (r'.resolve? capability strict name).2 = (r', []) :=
    resolve?_quiet fun hback => by simp [hstyle] at hback
  exact Prod.ext (Registry.resolve?_of_find? hstyle capability strict) hquiet

/-- Every other name is resolved as before. -/
theorem resolve?_of_not (h : Installed styles r r') (hfind : Named.find? name styles = none)
    (capability : Capability) (strict : Bool) :
    (r'.resolve? capability strict name).1 = (r.resolve? capability strict name).1 ∧
      (r'.resolve? capability strict name).2.2 = (r.resolve? capability strict name).2.2 := by
  refine resolve?_eq_of_known ?_ h.fallback_eq (h.warned name hfind) capability strict
  rw [h.find?, hfind]
  rfl

end Installed

end Registry

/-! ## 2. Registering in a row -/

namespace Configuration

/-- Whether a style has a name with ink. -/
def isInked (entry : Text × Markers) : Bool := !Text.isAllBlank entry.1

/-- The styles in front of the first whose name has no ink. -/
def inkedFront (styles : Named Markers) : Named Markers := styles.takeWhile isInked

theorem find?_eq_none_iff {styles : Named Markers} {name : Text} :
    Named.find? name styles = none ↔ name ∉ Named.names styles := by
  rw [← Named.find?_isSome_iff, Bool.not_eq_true, Option.isSome_eq_false_iff,
    Option.isNone_iff_eq_none]

/-- **Styles are registered** up to the first name without ink. -/
theorem installed_apply (options : Options) {styles : Named Markers}
    (hnodup : (Named.names styles).Nodup) (r : Registry) :
    (apply ⟨options, styles⟩ r).1 = (if styles.all isInked then .ok () else .error .blankName) ∧
      Registry.Installed (inkedFront styles) r (apply ⟨options, styles⟩ r).2.1 := by
  induction styles generalizing r with
  | nil => exact ⟨rfl, Registry.installed_nil r⟩
  | cons entry styles ih =>
    obtain ⟨name, m⟩ := entry
    obtain ⟨hnew, hnodup⟩ := List.nodup_cons.mp hnodup
    cases hname : Text.isAllBlank name with
    | true =>
      have hregister : r.register name (some (.markers m)) = .error .blankName := by
        rw [Registry.register, if_pos hname]
      have happly : apply ⟨options, (name, m) :: styles⟩ r = (.error .blankName, r, []) := by
        rw [apply, List.map_cons, Registry.registerAll, hregister]
      have hfirst : isInked (name, m) = false := by rw [isInked, hname, Bool.not_true]
      rw [happly, inkedFront, List.takeWhile_cons_of_neg (by simp [hfirst]), List.all_cons, hfirst,
        Bool.false_and]
      exact ⟨rfl, Registry.installed_nil r⟩
    | false =>
      have hregister := Registry.register_of_inked (r := r) hname (.markers m)
      generalize hr' : Registry.mk (Named.set name (.markers m) r.styles) r.fallback
        (r.warned.filter (· ≠ name)) = r' at hregister
      have happly : (apply ⟨options, (name, m) :: styles⟩ r).1 =
            (apply ⟨options, styles⟩ r').1 ∧
          (apply ⟨options, (name, m) :: styles⟩ r).2.1 = (apply ⟨options, styles⟩ r').2.1 := by
        simp only [apply, List.map_cons, Registry.registerAll, hregister, and_self]
      have hfirst : isInked (name, m) = true := by rw [isInked, hname, Bool.not_false]
      obtain ⟨houtcome, hinstalled⟩ := ih hnodup r'
      rw [happly.1, happly.2, houtcome, inkedFront, List.takeWhile_cons_of_pos hfirst,
        List.all_cons, hfirst, Bool.true_and]
      refine ⟨rfl, ?_⟩
      subst hr'
      refine hinstalled.cons (find?_eq_none_iff.mpr fun hmem => hnew ?_)
      exact ((List.takeWhile_prefix isInked).sublist.map Prod.fst).subset hmem

/-! ## 3. The names of styles -/

/-- Styles have the texts of their keys for names, each once. -/
theorem names_of_readStyles {entries : List (Data × Data)} {before styles : Named Markers}
    (h : readStyles before entries = .ok styles) :
    ((Named.names before).Nodup → (Named.names styles).Nodup) ∧
      ∀ name, name ∈ Named.names styles ↔
        name ∈ Named.names before ∨ ∃ e ∈ entries, e.1.asText = name := by
  induction entries generalizing before with
  | nil =>
    cases h
    exact ⟨id, fun name => by simp⟩
  | cons e entries ih =>
    obtain ⟨t, ht, hrest⟩ := bind_eq_ok.mp h
    obtain ⟨m, -, hrest⟩ := bind_eq_ok.mp hrest
    obtain ⟨hnodup, hnames⟩ := ih hrest
    have htext : e.1.asText = t := by
      have ht := mapError_eq_ok.mp ht
      unfold Data.asText? at ht
      split at ht
      · exact Except.ok.inj ht
      · cases ht
    refine ⟨fun hbefore => hnodup (Named.nodup_names_set t m hbefore), fun name => ?_⟩
    rw [hnames, Named.names_set]
    by_cases hmem : t ∈ Named.names before
    · rw [if_pos hmem]
      simp only [List.mem_cons, exists_eq_or_imp, htext]
      constructor
      · exact fun hname => hname.imp_right .inr
      · rintro (hname | rfl | hname)
        · exact .inl hname
        · exact .inl hmem
        · exact .inr hname
    · rw [if_neg hmem]
      simp only [List.mem_append, List.mem_cons, List.not_mem_nil, or_false, exists_eq_or_imp,
        htext, or_assoc, eq_comm (a := name) (b := t)]

variable {origin : Text} {entries : List (Data × Data)} {c : Configuration}

/-- The entries that describe styles. -/
def styleEntries (entries : List (Data × Data)) : List (Data × Data) :=
  (Options.section? "styles" entries).getD []

theorem readStyles_of_ofEntries (h : ofEntries origin entries = .ok c) :
    readStyles [] (styleEntries entries) = .ok c.styles := by
  have hread := mapError_eq_ok.mp h
  simp only [readEntries, bind_eq_ok] at hread
  obtain ⟨-, -, -, -, options, -, styles, hstyles, hc⟩ := hread
  cases hc
  exact hstyles

/-- All styles have names with ink if the texts of all keys have. -/
theorem all_isInked_iff {styles : Named Markers}
    (hnames : ∀ name, name ∈ Named.names styles ↔ ∃ e ∈ entries, e.1.asText = name) :
    styles.all isInked = true ↔ ∀ e ∈ entries, Text.isAllBlank e.1.asText = false := by
  constructor
  · intro hall e he
    obtain ⟨entry, hentry, hname⟩ := List.mem_map.mp ((hnames e.1.asText).mpr ⟨e, he, rfl⟩)
    simpa [isInked, hname] using List.all_eq_true.mp hall entry hentry
  · intro hall
    refine List.all_eq_true.mpr fun entry hentry => ?_
    obtain ⟨e, he, hname⟩ := (hnames entry.1).mp (List.mem_map_of_mem hentry)
    simpa [isInked, hname] using hall e he

/-! ## 4. Applying -/

/-- **A configuration is applied up to the first name without ink.**  If all its styles have names
with ink, they all come into the registry; otherwise it fails, with the styles in front of that name
in the registry.  What has come in is what its name is resolved to, without a notice.  All other
names are there or not, are resolved and are warned of, as before. -/
theorem apply_up_to_blank (h : ofEntries origin entries = .ok c) (r : Registry) :
    let r' := (c.apply r).2.1
    (∀ name, name ∈ Named.names c.styles ↔ ∃ e ∈ styleEntries entries, e.1.asText = name) ∧
    ((c.apply r).1 = .ok () ∧ inkedFront c.styles = c.styles ∧
        (∀ e ∈ styleEntries entries, Text.isAllBlank e.1.asText = false) ∨
      (c.apply r).1 = .error .blankName ∧ inkedFront c.styles ≠ c.styles ∧
        (∃ e ∈ styleEntries entries, Text.isAllBlank e.1.asText = true)) ∧
    (∀ name, name ∈ r'.names ↔ name ∈ r.names ∨ name ∈ Named.names (inkedFront c.styles)) ∧
    ∀ capability strict name,
      match Named.find? name (inkedFront c.styles) with
      | some m => r'.resolve? capability strict name =
          (some ((Style.markers m).apply capability), r', [])
      | none => (r'.resolve? capability strict name).1 = (r.resolve? capability strict name).1 ∧
          (r'.resolve? capability strict name).2.2 = (r.resolve? capability strict name).2.2 := by
  intro r'
  obtain ⟨hnodup, hnames⟩ := names_of_readStyles (readStyles_of_ofEntries h)
  have hnames : ∀ name, name ∈ Named.names c.styles ↔
      ∃ e ∈ styleEntries entries, e.1.asText = name := fun name => by
    simpa [Named.names] using hnames name
  obtain ⟨houtcome, hinstalled⟩ := installed_apply c.options (hnodup List.nodup_nil) r
  have hinked := all_isInked_iff hnames
  refine ⟨hnames, ?_, fun name => hinstalled.mem_names_iff, fun capability strict name => ?_⟩
  · by_cases hall : c.styles.all isInked = true
    · refine .inl ⟨houtcome.trans (if_pos hall), ?_, hinked.mp hall⟩
      exact List.takeWhile_eq_self_iff.mpr (List.all_eq_true.mp hall)
    · refine .inr ⟨houtcome.trans (if_neg hall), ?_, ?_⟩
      · exact fun heq => hall (List.all_eq_true.mpr (List.takeWhile_eq_self_iff.mp heq))
      · by_contra hnone
        refine hall (hinked.mpr fun e he => ?_)
        exact Bool.eq_false_iff.mpr fun hblank => hnone ⟨e, he, hblank⟩
  · cases hfind : Named.find? name (inkedFront c.styles) with
    | some m => exact hinstalled.resolve?_of_find? hfind capability strict
    | none => exact hinstalled.resolve?_of_not hfind capability strict

/-- Three styles, of which the second has no ink in its name. -/
def blankBetween : List (Data × Data) :=
  [(.text "styles".toList, .mapping [(.text "loud".toList, .text "<\x7b\x7d>".toList),
    (.text " ".toList, .text "(\x7b\x7d)".toList),
    (.text "soft".toList, .text "[\x7b\x7d]".toList)])]

/-- Only the first of the three styles comes into the registry. -/
theorem apply_up_to_blank_between :
    ∃ c, ofEntries "<config>".toList blankBetween = .ok c ∧
      (c.apply Registry.initial).1 = .error .blankName ∧
      ∀ name, name ∈ (c.apply Registry.initial).2.1.names ↔
        name ∈ Registry.initial.names ∨ name = "loud".toList := by
  let styles : Named Markers := [("loud".toList, ⟨['<'], ['>'], none, false⟩),
    (" ".toList, ⟨['('], [')'], none, false⟩), ("soft".toList, ⟨['['], [']'], none, false⟩)]
  have hread : ofEntries "<config>".toList blankBetween = .ok ⟨Options.standard, styles⟩ := rfl
  have hfront : Named.names (inkedFront styles) = ["loud".toList] := rfl
  obtain ⟨-, houtcome, hnames, -⟩ := apply_up_to_blank hread Registry.initial
  refine ⟨_, hread, ?_, fun name => ?_⟩
  · rcases houtcome with ⟨-, -, hinked⟩ | ⟨hfails, -, -⟩
    · have hblank := hinked (.text " ".toList, .text "(\x7b\x7d)".toList) (.tail _ (.head _))
      cases hblank
    · exact hfails
  · have hname := hnames name
    rwa [hfront, List.mem_singleton] at hname

/-- **A configuration that is accepted can fail to be applied**, and leave the registry changed. -/
theorem blank_name_accepted :
    ∃ c, ofEntries "<config>".toList blankBetween = .ok c ∧
      (c.apply Registry.initial).1 = .error .blankName ∧
      Registry.initial.contains "loud".toList = false ∧
      (c.apply Registry.initial).2.1.contains "loud".toList = true :=
  ⟨_, rfl, rfl, rfl, rfl⟩

end Configuration

end Phrasing
