/-
# What a template needs to know

A template looks at its context through the names that it reports, and through nothing else.  Two
contexts that agree on these are told apart by one thing only: where a name is missing from both,
the message offers the names that are there (`Indistinct`).

* `mem_distinct` and `pairwise_distinct`: what the report lists, and in which order.
* `indistinct_segments`: the lockstep of two renderings, from one expression (`indistinct_evaluate`)
  to all segments.
* `segments_failsWith`: a reference stays unresolved only for a name that is missing.
-/
import Mathlib.Data.List.Basic
import Phrasing.Proofs.Rendering.Steps

namespace Phrasing

/-! ## 1. The names of a template -/

namespace Template

theorem mem_distinct {t : Text} {ts : List Text} : t ∈ distinct ts ↔ t ∈ ts := by
  induction ts with
  | nil => exact Iff.rfl
  | cons u ts ih =>
    rw [distinct, List.mem_cons, List.mem_cons, List.mem_filter, ih]
    by_cases h : t = u
    · simp [h]
    · simp [h]

/-- The texts stand in the order in which they first appeared, and so each of them once. -/
theorem pairwise_distinct (ts : List Text) :
    (distinct ts).Pairwise fun t u => ts.idxOf t < ts.idxOf u := by
  induction ts with
  | nil => exact .nil
  | cons a ts ih =>
    have hrest {t : Text} (h : t ∈ (distinct ts).filter (· ≠ a)) :
        (a :: ts).idxOf t = ts.idxOf t + 1 := by
      have hne : t ≠ a := by simpa using (List.mem_filter.mp h).2
      exact List.idxOf_cons_ne ts hne.symm
    rw [distinct]
    refine List.pairwise_cons.mpr ⟨fun t ht => ?_, ?_⟩
    · rw [List.idxOf_cons_self, hrest ht]
      exact Nat.succ_pos _
    · refine (ih.filter _).imp_of_mem fun {t u} ht hu hlt => ?_
      rw [hrest ht, hrest hu]
      exact Nat.succ_lt_succ hlt

theorem mem_names {t : Template} {name : Text} :
    name ∈ t.names ↔ ∃ path ∈ t.paths, path.base = name := by
  rw [names, mem_distinct, List.mem_map]

end Template

namespace Rendering

variable {α β : Type} {c c' : Context}

/-! ## 2. Outcomes in two contexts -/

/-- Outcomes that are the same, but for the names that are offered where one is not resolved. -/
inductive Indistinct : (r r' : Except Failure α × Workbench) → Prop where
  | same (r : Except Failure α × Workbench) : Indistinct r r
  | unresolved (offset : Int) (source name : Text) (available available' : List Text)
    (bench : Workbench) :
    Indistinct (.error (.template ⟨offset, source, .reference (.unresolved name available)⟩), bench)
      (.error (.template ⟨offset, source, .reference (.unresolved name available')⟩), bench)

/-- Steps in a row have indistinct outcomes, if each of them has. -/
theorem indistinct_bind {m m' : Rendering α} {k k' : α → Rendering β} {bench : Workbench}
    (hm : Indistinct (perform m bench) (perform m' bench))
    (hk : ∀ a bench, Indistinct (perform (k a) bench) (perform (k' a) bench)) :
    Indistinct (perform (m >>= k) bench) (perform (m' >>= k') bench) := by
  rw [perform_bind, perform_bind]
  generalize perform m bench = r, perform m' bench = r' at hm ⊢
  cases hm with
  | same r =>
    obtain ⟨result, after⟩ := r
    cases result with
    | ok a => exact hk a after
    | error f => exact .same _
  | unresolved offset source name available available' after =>
    exact .unresolved offset source name available available' after

/-- Contexts that agree on the first name of a path answer alike. -/
theorem indistinct_evaluate {path : Path} (h : c.find? path.base = c'.find? path.base)
    (place : Place) (bench : Workbench) :
    Indistinct (perform (evaluate c path place) bench) (perform (evaluate c' path place) bench) := by
  unfold evaluate Context.evaluate Context.lookUp
  rw [← h]
  cases c.find? path.base with
  | none => exact .unresolved _ _ _ _ _ bench
  | some v => exact .same _

/-- **Two renderings in lockstep**: segments cannot tell apart contexts that agree on the first names
of their paths. -/
theorem indistinct_segments (o : Options) {ss : List Segment}
    (h : ∀ path ∈ ss.filterMap Segment.path?, c.find? path.base = c'.find? path.base)
    (bench : Workbench) :
    Indistinct (perform (segments o c ss) bench) (perform (segments o c' ss) bench) := by
  induction ss generalizing bench with
  | nil => exact .same _
  | cons s ss ih =>
    have hrest (t : Text) (bench : Workbench) :
        Indistinct (perform (do return t ++ (← segments o c ss)) bench)
          (perform (do return t ++ (← segments o c' ss)) bench) := by
      refine indistinct_bind (ih ?_ bench) fun ts after => .same _
      intro path hpath
      refine h path ?_
      cases s with
      | literal => exact hpath
      | expression => exact List.mem_cons_of_mem _ hpath
    rw [segments, segments]
    refine indistinct_bind ?_ hrest
    cases s with
    | literal text offset => exact .same _
    | expression source path position =>
      exact indistinct_bind (indistinct_evaluate (h path List.mem_cons_self) _ bench)
        fun v after => .same _

/-! ## 3. Unresolved references -/

/-- A failure to resolve a name blames one that is missing: the first name of one of the paths. -/
def BlamesMissing (c : Context) (paths : List Path) (f : Failure) : Prop :=
  ∀ offset source name available,
    f = .template ⟨offset, source, .reference (.unresolved name available)⟩ →
      (∃ path ∈ paths, path.base = name) ∧ c.find? name = none

theorem evaluate_failsWith (c : Context) (path : Path) (place : Place) :
    FailsWith (BlamesMissing c [path]) (evaluate c path place) := by
  unfold evaluate Context.evaluate Context.lookUp
  cases hfind : c.find? path.base with
  | none =>
    refine failsWith_throw ?_
    rintro offset source name available ⟨⟩
    exact ⟨⟨path, List.mem_singleton_self path, rfl⟩, hfind⟩
  | some v =>
    cases hfollow : v.follow path.accessors with
    | ok w =>
      simp only [hfollow]
      exact failsWith_pure w
    | error fault =>
      simp only [hfollow]
      refine failsWith_throw ?_
      rintro offset source name available ⟨⟩
      cases Value.ofAccessor_of_follow hfollow

/-- A value leaves no name unresolved. -/
theorem value_blamesMissing (o : Options) (c : Context) (place : Place) (requested : Option Text)
    (v : Value) : FailsWith (BlamesMissing c []) (value o place requested v) := by
  intro bench f hf
  rintro offset source name available rfl
  rcases value_failsWith o place requested v bench _ hf with hf | ⟨style, hf⟩
  · cases hf
  · cases hf

theorem BlamesMissing.mono {paths paths' : List Path} {f : Failure}
    (h : BlamesMissing c paths f) (hpaths : paths ⊆ paths') : BlamesMissing c paths' f := by
  intro offset source name available hf
  obtain ⟨⟨path, hpath, hbase⟩, hmissing⟩ := h offset source name available hf
  exact ⟨⟨path, hpaths hpath, hbase⟩, hmissing⟩

/-- **Only a missing name stays unresolved.** -/
theorem segments_failsWith (o : Options) (c : Context) (ss : List Segment) :
    FailsWith (BlamesMissing c (ss.filterMap Segment.path?)) (segments o c ss) := by
  induction ss with
  | nil => exact failsWith_pure []
  | cons s ss ih =>
    have hrest {t : Text} : FailsWith (BlamesMissing c ((s :: ss).filterMap Segment.path?))
        (do return t ++ (← segments o c ss)) := by
      refine FailsWith.bind (fun bench f hf => (ih bench f hf).mono ?_) fun ts => failsWith_pure _
      exact ((List.sublist_cons_self s ss).filterMap _).subset
    refine FailsWith.bind ?_ fun t => hrest
    cases s with
    | literal text offset => exact failsWith_pure text
    | expression source path position =>
      refine FailsWith.bind (fun bench f hf => ?_) fun v bench f hf => ?_
      · refine (evaluate_failsWith c path _ bench f hf).mono ?_
        exact List.cons_subset.mpr ⟨List.mem_cons_self, List.nil_subset _⟩
      · exact (value_blamesMissing o c _ path.style v bench f hf).mono (List.nil_subset _)

/-! ## 4. Templates -/

/-- **A template depends on the names that it reports, and on nothing else of its context.**

* In contexts that agree on these names, it has the same text, or fails in the same way, and leaves
  the same workbench; only the names offered for one that is missing from both can differ.
* Where a reference is unresolved, its name is one of these and is missing from the context.  So none
  is if all of them are there.
* The names are those that the expressions start from, each once, in the order in which they first
  appear. -/
theorem depends_on_names (o : Options) (t : Template) :
    (∀ c c' bench, (∀ name ∈ t.names, c.find? name = c'.find? name) →
      Indistinct (perform (template o c t) bench) (perform (template o c' t) bench)) ∧
    (∀ c bench offset source name available,
      (perform (template o c t) bench).1 =
        .error (.template ⟨offset, source, .reference (.unresolved name available)⟩) →
      name ∈ t.names ∧ c.find? name = none) ∧
    (∀ name, name ∈ t.names ↔ ∃ path ∈ t.paths, path.base = name) ∧
    t.names.Pairwise fun name name' =>
      (t.paths.map Path.base).idxOf name < (t.paths.map Path.base).idxOf name' := by
  refine ⟨?_, ?_, fun name => Template.mem_names, Template.pairwise_distinct _⟩
  · intro c c' bench h
    rw [template_eq, template_eq]
    refine indistinct_segments o (fun path hpath => h path.base ?_) bench
    exact Template.mem_names.mpr ⟨path, hpath, rfl⟩
  · intro c bench offset source name available h
    rw [template_eq] at h
    obtain ⟨hpath, hmissing⟩ :=
      segments_failsWith o c t.segments bench _ h offset source name available rfl
    exact ⟨Template.mem_names.mpr hpath, hmissing⟩

end Rendering

end Phrasing
