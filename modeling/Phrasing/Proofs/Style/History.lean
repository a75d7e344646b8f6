/-
# What a registry remembers

A registry keeps the styles that have names, and the names it has warned about.  Registering a
name touches both, taking it out only the first, resolving it only the second.  All the same, what
a registry does at any moment follows from the calls before it (`history`).

Both things it keeps are of one form: something happened, and nothing that undoes it came after
(`Since`).  A style stands for a name since the name was registered with it, until it is registered
again or taken out.  A name has had its warning since the fallback stood in for it, until it is
registered; taking it out does not bring the warning back.
-/
import Phrasing.Proofs.Rendering.Steps

namespace Phrasing

/-! ## 1. Since -/

section Since

variable {α : Type} {event : List α → α → Prop} {undone : α → Prop} {past : List α}

/-- Something happened, and nothing that undoes it came after.  Whether it happened may depend on
what was before. -/
def Since (event : List α → α → Prop) (undone : α → Prop) (past : List α) : Prop :=
  ∃ before a later, past = before ++ a :: later ∧ event before a ∧ ∀ b ∈ later, ¬ undone b

theorem not_since_nil : ¬ Since event undone [] := by
  rintro ⟨before, a, later, h, -⟩
  exact absurd h (by simp)

/-- One more thing: either it is what happened, or it does not undo what happened before. -/
theorem since_concat {a : α} :
    Since event undone (past ++ [a]) ↔ event past a ∨ ¬ undone a ∧ Since event undone past := by
  constructor
  · rintro ⟨before, b, later, h, hevent, hlater⟩
    rcases List.eq_nil_or_concat later with rfl | ⟨later, c, rfl⟩
    · obtain ⟨rfl, rfl⟩ := List.append_singleton_inj.mp h
      exact .inl hevent
    · rw [List.concat_eq_append, ← List.cons_append, ← List.append_assoc] at h
      obtain ⟨rfl, rfl⟩ := List.append_singleton_inj.mp h
      simp only [List.concat_eq_append, List.forall_mem_append, List.forall_mem_singleton] at hlater
      exact .inr ⟨hlater.2, before, b, later, rfl, hevent, hlater.1⟩
  · rintro (hevent | ⟨ha, before, b, later, rfl, hevent, hlater⟩)
    · exact ⟨past, a, [], rfl, hevent, List.forall_mem_nil _⟩
    · refine ⟨before, b, later ++ [a], by simp, hevent, ?_⟩
      simpa only [List.forall_mem_append, List.forall_mem_singleton] using ⟨hlater, ha⟩

end Since

namespace Registry

/-! ## 2. Calls -/

/-- What can be asked of a registry.  Something that is no style is registered as `none`. -/
inductive Call where
  | register (name : Text) (style : Option Style)
  | unregister (name : Text)
  | resolve (capability : Capability) (strict : Bool) (name : Text)
  | apply (capability : Capability) (strict : Bool) (name t : Text)

/-- The registry after a call. -/
def serve (r : Registry) : Call → Registry
  | .register name style =>
    match r.register name style with
    | .ok (r', _) => r'
    | .error _ => r
  | .unregister name => r.unregister name
  | .resolve capability strict name => (r.resolve? capability strict name).2.1
  | .apply capability strict name t => (r.styled? capability strict name t).2.1

/-- A fresh registry, stocked with the standard styles or not, after some calls. -/
def after (fallback : Option (Text → Text)) (stocked : Bool) (calls : List Call) : Registry :=
  calls.foldl serve (if stocked then standard fallback else bare fallback)

/-- The calls that a fresh registry counts as made. -/
def opening (stocked : Bool) : List Call :=
  if stocked then standardStyles.map fun (name, m) => .register name.toList (some (.markers m))
  else []

/-- The stock of a fresh registry is registered first. -/
theorem after_eq_foldl (fallback : Option (Text → Text)) (stocked : Bool) (calls : List Call) :
    after fallback stocked calls = (opening stocked ++ calls).foldl serve (bare fallback) := by
  rw [List.foldl_append]
  cases stocked <;> rfl

/-- The call gives the name a style. -/
def Call.Registers (name : Text) : Call → Prop
  | .register key (some _) => key = name ∧ Text.isAllBlank key = false
  | _ => False

/-- The call decides which style the name has, if any. -/
def Call.Settles (name : Text) : Call → Prop
  | .unregister key => key = name
  | c => c.Registers name

/-- The style stands for the name: the name was registered with it last, and not taken out
after. -/
def Stands (past : List Call) (name : Text) (s : Style) : Prop :=
  Since (fun _ c => c = .register name (some s) ∧ Text.isAllBlank name = false)
    (Call.Settles name) past

/-- The call resolves the name, and the fallback stands in for it. -/
def Call.FallsBack (fallback : Option (Text → Text)) (past : List Call) (name : Text) :
    Call → Prop
  | .resolve capability strict key | .apply capability strict key _ =>
    key = name ∧ capability ≠ .none ∧ strict = false ∧ fallback.isSome ∧ ∀ s, ¬ Stands past name s
  | _ => False

/-- The fallback has stood in for the name since it was registered last. -/
def HasWarned (fallback : Option (Text → Text)) (past : List Call) (name : Text) : Prop :=
  Since (fun before c => c.FallsBack fallback before name) (Call.Registers name) past

theorem Call.settles_of_registers {name : Text} {c : Call} (h : c.Registers name) :
    c.Settles name := by
  cases c with
  | register key style => exact h
  | unregister key => exact absurd h id
  | resolve capability strict key => exact absurd h id
  | apply capability strict key t => exact absurd h id

variable {fallback : Option (Text → Text)} {past : List Call} {name : Text}

theorem stands_concat {c : Call} {s : Style} :
    Stands (past ++ [c]) name s ↔
      (c = .register name (some s) ∧ Text.isAllBlank name = false) ∨
        ¬ c.Settles name ∧ Stands past name s := since_concat

theorem hasWarned_concat {c : Call} :
    HasWarned fallback (past ++ [c]) name ↔
      c.FallsBack fallback past name ∨ ¬ c.Registers name ∧ HasWarned fallback past name :=
  since_concat

/-! ## 3. What a call does -/

variable {r : Registry}

/-- A name is refused if it has no ink, and what is no style is refused under any name. -/
theorem register_eq_error_iff {style : Option Style} :
    (∃ f, r.register name style = .error f) ↔ Text.isAllBlank name = true ∨ style = none := by
  unfold register
  by_cases hname : Text.isAllBlank name = true
  · simp [hname]
  · cases style with
    | none => simp [hname]
    | some s => simp [hname]

theorem register_of_inked (hname : Text.isAllBlank name = false) (s : Style) :
    r.register name (some s) =
      .ok (⟨Named.set name s r.styles, r.fallback, r.warned.filter (· ≠ name)⟩,
        if r.contains name then [.styleReplaced name] else []) := by
  rw [register, if_neg (by simp [hname])]

/-- The fallback stands in for a name, and the name is noted unless it was before. -/
theorem resolve?_of_fallback {capability : Capability} {f : Text → Text}
    (hcapability : capability ≠ .none) (hfind : Named.find? name r.styles = none)
    (hfallback : r.fallback = some f) :
    r.resolve? capability false name =
      if name ∈ r.warned then (some f, r, [])
      else (some f, { r with warned := name :: r.warned }, [.styleUnknown name]) := by
  rw [resolve?.eq_2 r capability false name hcapability, hfind]
  simp only [Bool.false_eq_true, ↓reduceIte, hfallback, List.contains_eq_mem, decide_eq_true_eq]

/-- Otherwise resolving a name leaves no trace. -/
theorem resolve?_quiet {capability : Capability} {strict : Bool}
    (h : ¬ (capability ≠ .none ∧ strict = false ∧ r.fallback.isSome ∧
      Named.find? name r.styles = none)) :
    (r.resolve? capability strict name).2 = (r, []) := by
  by_cases hcapability : capability = .none
  · rw [hcapability]
    rfl
  rw [resolve?.eq_2 r capability strict name hcapability]
  cases hfind : Named.find? name r.styles with
  | some s => rfl
  | none =>
    cases strict with
    | true => rfl
    | false =>
      cases hfallback : r.fallback with
      | none => rfl
      | some f => exact absurd ⟨hcapability, rfl, by rw [hfallback]; rfl, hfind⟩ h

/-! ## 4. The record -/

/-- What a registry keeps is what its history says. -/
structure Recorded (fallback : Option (Text → Text)) (past : List Call) (r : Registry) :
    Prop where
  fallback_eq : r.fallback = fallback
  nodup : (Named.names r.styles).Nodup
  styles : ∀ name s, Named.find? name r.styles = some s ↔ Stands past name s
  warned : ∀ name, name ∈ r.warned ↔ HasWarned fallback past name

theorem recorded_bare (fallback : Option (Text → Text)) : Recorded fallback [] (bare fallback) where
  fallback_eq := rfl
  nodup := List.nodup_nil
  styles _ _ := iff_of_false (Option.some_ne_none _).symm not_since_nil
  warned _ := iff_of_false List.not_mem_nil not_since_nil

namespace Recorded

theorem find?_eq_none (h : Recorded fallback past r) :
    Named.find? name r.styles = none ↔ ∀ s, ¬ Stands past name s := by
  simp only [← h.styles, Option.eq_none_iff_forall_ne_some]

theorem contains_iff (h : Recorded fallback past r) :
    r.contains name = true ↔ ∃ s, Stands past name s := by
  simp only [contains, Named.contains, Option.isSome_iff_exists, h.styles]

/-- A call that neither settles a name nor falls back changes nothing. -/
theorem idle (h : Recorded fallback past r) {c : Call} (hsettles : ∀ name, ¬ c.Settles name)
    (hback : ∀ name, ¬ c.FallsBack fallback past name) : Recorded fallback (past ++ [c]) r where
  fallback_eq := h.fallback_eq
  nodup := h.nodup
  styles name s := by
    rw [h.styles, stands_concat]
    constructor
    · exact fun hstands => .inr ⟨hsettles name, hstands⟩
    · rintro (⟨rfl, hname⟩ | ⟨-, hstands⟩)
      · exact absurd ⟨rfl, hname⟩ (hsettles name)
      · exact hstands
  warned name := by
    have hregisters : ¬ c.Registers name := fun hc =>
      hsettles name (Call.settles_of_registers hc)
    rw [h.warned, hasWarned_concat]
    exact ⟨fun hw => .inr ⟨hregisters, hw⟩, fun hw => (hw.resolve_left (hback name)).2⟩

theorem register (h : Recorded fallback past r) (name : Text) (style : Option Style) :
    Recorded fallback (past ++ [.register name style]) (r.serve (.register name style)) := by
  by_cases hrefused : Text.isAllBlank name = true ∨ style = none
  · obtain ⟨f, hf⟩ := register_eq_error_iff (r := r).mpr hrefused
    simp only [serve, hf]
    refine h.idle (fun key hkey => ?_) (fun key hkey => hkey)
    cases style with
    | none => exact hkey
    | some s => simp [hkey.2] at hrefused
  · obtain ⟨hname, hstyle⟩ := not_or.mp hrefused
    obtain ⟨s, rfl⟩ := Option.ne_none_iff_exists'.mp hstyle
    have hname : Text.isAllBlank name = false := by simpa using hname
    simp only [serve, register_of_inked hname]
    refine ⟨h.fallback_eq, ?_, fun key t => ?_, fun key => ?_⟩
    · exact Named.nodup_names_set name s h.nodup
    · rw [Named.find?_set, stands_concat]
      by_cases hkey : name = key
      · subst hkey
        simp [Call.Settles, Call.Registers, hname]
      · simp [Call.Settles, Call.Registers, hkey, h.styles]
    · rw [List.mem_filter, h.warned, hasWarned_concat]
      simp [Call.FallsBack, Call.Registers, hname, and_comm, ne_comm]

theorem unregister (h : Recorded fallback past r) (name : Text) :
    Recorded fallback (past ++ [.unregister name]) (r.serve (.unregister name)) where
  fallback_eq := h.fallback_eq
  nodup := (List.filter_sublist.map Prod.fst).nodup h.nodup
  styles key s := by
    rw [serve, Registry.unregister, Named.find?_remove, stands_concat, ← h.styles]
    simp [Call.Settles]
  warned key := by
    rw [hasWarned_concat, ← h.warned]
    simp [Call.FallsBack, Call.Registers, serve, Registry.unregister]

/-- A call that resolves a name, whatever it does with the style. -/
theorem resolve (h : Recorded fallback past r) (capability : Capability) (strict : Bool)
    (name : Text) {c : Call} (hsettles : ∀ key, ¬ c.Settles key)
    (hc : ∀ key, c.FallsBack fallback past key ↔
      Call.FallsBack fallback past key (.resolve capability strict name)) :
    Recorded fallback (past ++ [c]) (r.serve (.resolve capability strict name)) := by
  have hback : Call.FallsBack fallback past name (.resolve capability strict name) ↔
      capability ≠ .none ∧ strict = false ∧ r.fallback.isSome ∧
        Named.find? name r.styles = none := by
    rw [h.fallback_eq, h.find?_eq_none]
    simp [Call.FallsBack]
  by_cases hfalls : Call.FallsBack fallback past name (.resolve capability strict name)
  · obtain ⟨hcapability, rfl, hsome, hfind⟩ := hback.mp hfalls
    obtain ⟨f, hf⟩ := Option.isSome_iff_exists.mp hsome
    have hwarned (key : Text) :
        key ∈ (r.serve (.resolve capability false name)).warned ↔
          key = name ∨ key ∈ r.warned := by
      rw [serve, resolve?_of_fallback hcapability hfind hf]
      split
      · next hmem => exact ⟨.inr, fun hkey => hkey.elim (fun heq => heq ▸ hmem) id⟩
      · exact List.mem_cons
    obtain ⟨hstyles, hfallback⟩ := r.resolve?_keeps capability false name
    refine ⟨hfallback.trans h.fallback_eq, hstyles ▸ h.nodup, fun key s => ?_, fun key => ?_⟩
    · rw [serve, hstyles, h.styles, stands_concat]
      constructor
      · exact fun hstands => .inr ⟨hsettles key, hstands⟩
      · rintro (⟨rfl, hname⟩ | ⟨-, hstands⟩)
        · exact absurd ⟨rfl, hname⟩ (hsettles key)
        · exact hstands
    · have hregisters : ¬ c.Registers key := fun hreg =>
        hsettles key (Call.settles_of_registers hreg)
      rw [hwarned, h.warned, hasWarned_concat, hc]
      exact or_congr ⟨fun heq => heq ▸ hfalls, fun hkey => hkey.1.symm⟩
        ⟨fun hw => ⟨hregisters, hw⟩, fun hw => hw.2⟩
  · rw [serve, resolve?_quiet (mt hback.mpr hfalls)]
    refine h.idle hsettles (fun key hkey => ?_)
    have hkey := (hc key).mp hkey
    obtain rfl := hkey.1
    exact hfalls hkey

/-- **A call keeps the record.** -/
theorem serve (h : Recorded fallback past r) (c : Call) :
    Recorded fallback (past ++ [c]) (r.serve c) := by
  cases c with
  | register name style => exact h.register name style
  | unregister name => exact h.unregister name
  | resolve capability strict name =>
    exact h.resolve capability strict name (fun _ hkey => hkey) (fun _ => Iff.rfl)
  | apply capability strict name t =>
    exact h.resolve capability strict name (fun _ hkey => hkey) (fun _ => Iff.rfl)

end Recorded

/-- **So do all calls.** -/
theorem recorded_foldl (h : Recorded fallback past r) (calls : List Call) :
    Recorded fallback (past ++ calls) (calls.foldl serve r) := by
  induction calls generalizing past r with
  | nil => rwa [List.append_nil]
  | cons c calls ih =>
    rw [List.append_cons]
    exact ih (h.serve c)

theorem recorded_after (fallback : Option (Text → Text)) (stocked : Bool) (calls : List Call) :
    Recorded fallback (opening stocked ++ calls) (after fallback stocked calls) := by
  rw [after_eq_foldl]
  exact recorded_foldl (recorded_bare fallback) _

/-! ## 5. What a registry answers -/

/-- The notice is given, and no other, in one case only. -/
def Gives (notices : List Notice) (notice : Notice) (case : Prop) : Prop :=
  case ∧ notices = [notice] ∨ ¬ case ∧ notices = []

namespace Recorded

/-- The names are those a style stands for, each once, in order. -/
theorem names_spec (h : Recorded fallback past r) :
    (r.names.Pairwise fun a b => Text.le a b = true ∧ a ≠ b) ∧
      ∀ name, name ∈ r.names ↔ ∃ s, Stands past name s := by
  constructor
  · exact (Text.pairwise_sort _).and ((Text.sort_perm _).nodup_iff.mpr h.nodup)
  · intro name
    rw [names, (Text.sort_perm _).mem_iff, ← Named.find?_isSome_iff, ← h.contains_iff]
    rfl

/-- A style is taken under any name with ink, with a notice if the name has one. -/
theorem register_spec (h : Recorded fallback past r) (name : Text) (style : Option Style) :
    match r.register name style with
    | .ok (_, notices) =>
      Text.isAllBlank name = false ∧ style ≠ none ∧
        Gives notices (.styleReplaced name) (∃ s, Stands past name s)
    | .error _ =>
      (Text.isAllBlank name = true ∨ style = none) ∧ r.serve (.register name style) = r := by
  by_cases hrefused : Text.isAllBlank name = true ∨ style = none
  · obtain ⟨f, hf⟩ := register_eq_error_iff (r := r).mpr hrefused
    simp only [Registry.serve, hf]
    exact ⟨hrefused, trivial⟩
  · obtain ⟨hname, hstyle⟩ := not_or.mp hrefused
    obtain ⟨s, rfl⟩ := Option.ne_none_iff_exists'.mp hstyle
    have hname : Text.isAllBlank name = false := by simpa using hname
    rw [register_of_inked hname]
    refine ⟨hname, hstyle, ?_⟩
    by_cases hcontains : r.contains name = true
    · exact .inl ⟨h.contains_iff.mp hcontains, if_pos hcontains⟩
    · exact .inr ⟨mt h.contains_iff.mpr hcontains, if_neg hcontains⟩

/-- A name is resolved to the style that stands for it, else to the fallback. -/
theorem resolve?_function (h : Recorded fallback past r) (capability : Capability)
    (strict : Bool) (name : Text) :
    let f := (r.resolve? capability strict name).1
    (capability = .none → f = some id) ∧
      (capability ≠ .none → ∀ s, Stands past name s → f = some (s.apply capability)) ∧
      (capability ≠ .none → (∀ s, ¬ Stands past name s) →
        f = if strict then none else fallback) := by
  refine ⟨?_, fun hcapability s hs => ?_, fun hcapability hs => ?_⟩
  · rintro rfl
    rfl
  · rw [r.resolve?_fst hcapability, (h.styles name s).mpr hs]
  · rw [r.resolve?_fst hcapability, h.find?_eq_none.mpr hs, ← h.fallback_eq]

/-- The notice comes with the first use of the fallback. -/
theorem resolve?_notices (h : Recorded fallback past r) (capability : Capability)
    (strict : Bool) (name : Text) :
    Gives (r.resolve? capability strict name).2.2 (.styleUnknown name)
      (Call.FallsBack fallback past name (.resolve capability strict name) ∧
        ¬ HasWarned fallback past name) := by
  by_cases hfalls : capability ≠ .none ∧ strict = false ∧ r.fallback.isSome ∧
      Named.find? name r.styles = none
  · obtain ⟨hcapability, rfl, hsome, hfind⟩ := hfalls
    obtain ⟨f, hf⟩ := Option.isSome_iff_exists.mp hsome
    rw [resolve?_of_fallback hcapability hfind hf]
    by_cases hwarned : name ∈ r.warned
    · rw [if_pos hwarned]
      exact .inr ⟨fun hcase => hcase.2 ((h.warned name).mp hwarned), rfl⟩
    · rw [if_neg hwarned]
      refine .inl ⟨⟨⟨rfl, hcapability, rfl, h.fallback_eq ▸ hsome, ?_⟩, ?_⟩, rfl⟩
      · exact h.find?_eq_none.mp hfind
      · exact mt (h.warned name).mpr hwarned
  · rw [resolve?_quiet hfalls]
    refine .inr ⟨fun ⟨⟨_, hcapability, hstrict, hsome, hstands⟩, _⟩ => hfalls ?_, rfl⟩
    exact ⟨hcapability, hstrict, h.fallback_eq ▸ hsome, h.find?_eq_none.mpr hstands⟩

end Recorded

/-- **A registry is a map that remembers its warnings.**  After any calls on a fresh registry, its
names are those that were last registered and not taken out, in order and each once.  A name
without ink is refused, and so is what is no style; this changes nothing.  A name is resolved, and
a text put in its style, by the style it was registered with last.  That a style is replaced is
noted exactly if the name has one; that a style is unknown is noted exactly if the fallback stands
in for it and has not done so since the name was last registered. -/
theorem history (fallback : Option (Text → Text)) (stocked : Bool) (calls : List Call) :
    let r := after fallback stocked calls
    let past := opening stocked ++ calls
    ((r.names.Pairwise fun a b => Text.le a b = true ∧ a ≠ b) ∧
      ∀ name, name ∈ r.names ↔ ∃ s, Stands past name s) ∧
    (∀ name style,
      match r.register name style with
      | .ok (_, notices) =>
        Text.isAllBlank name = false ∧ style ≠ none ∧
          Gives notices (.styleReplaced name) (∃ s, Stands past name s)
      | .error _ =>
        (Text.isAllBlank name = true ∨ style = none) ∧ r.serve (.register name style) = r) ∧
    ∀ capability strict name,
      let (f, r', notices) := r.resolve? capability strict name
      (capability = .none → f = some id) ∧
      (capability ≠ .none → ∀ s, Stands past name s → f = some (s.apply capability)) ∧
      (capability ≠ .none → (∀ s, ¬ Stands past name s) →
        f = if strict then none else fallback) ∧
      Gives notices (.styleUnknown name)
        (Call.FallsBack fallback past name (.resolve capability strict name) ∧
          ¬ HasWarned fallback past name) ∧
      ∀ t, r.styled? capability strict name t = (f.map fun f => f t, r', notices) := by
  intro r past
  have h : Recorded fallback past r := recorded_after fallback stocked calls
  refine ⟨h.names_spec, h.register_spec, fun capability strict name => ?_⟩
  obtain ⟨hnone, hstands, hfalls⟩ := h.resolve?_function capability strict name
  exact ⟨hnone, hstands, hfalls, h.resolve?_notices capability strict name, fun t => rfl⟩

end Registry

end Phrasing
