/-
# Nothing but the counts shows that templates are kept

A session keeps the templates that were read, and it goes on with one registry.  Neither shows in
what it answers: every request is answered as if its template were read for it, with the standard
styles and those registered since the registry was last reset (`answers_afresh`).

`Tracks` says what a session has to do with the requests so far.  Its cache holds what reading the
sources gives; hits, evictions and failures keep it so.  Its registry has the styles of one in
which nothing was ever rendered; rendering leaves marks there, but only those that no answer
depends on.
-/
import Phrasing.Proofs.Style.History
import Phrasing.Proofs.Template.Faults

namespace Phrasing

theorem TemplateCache.Fresh.request {c : TemplateCache} (h : c.Fresh) (source : Text)
    (delimiters : List Text) : (c.request source delimiters).2.Fresh := by
  unfold TemplateCache.request
  split
  · exact h
  · exact h.get _

namespace Session

/-! ## 1. Requests -/

/-- What can be asked of a session. -/
inductive Request where
  | render (o : Options) (own : Option Registry) (source : Text) (d : Data)
      (explicit : List (Data × Data))
  | parse (source : Text) (d : Delimiters)
  | template (source : Text) (delimiters : List Text)
  | check (source : Text) (delimiters : List Text)
  | registerStyle (name : Text) (style : Option Style)
  | resetRegistry
  | clearCache

/-- What a session gives. -/
inductive Answer where
  | done
  | text (t : Text)
  | template (t : Template)
  | report (r : TemplateReport)

/-- The step that a request asks for. -/
def answer : Request → Step Answer
  | .render o own source d explicit => Answer.text <$> render o own source d explicit
  | .parse source d => Answer.template <$> parse source d
  | .template source delimiters => Answer.template <$> request source delimiters
  | .check source delimiters => Answer.report <$> check source delimiters
  | .registerStyle name style => (fun _ => Answer.done) <$> registerStyle name style
  | .resetRegistry => (fun _ => Answer.done) <$> resetRegistry
  | .clearCache => (fun _ => Answer.done) <$> clearCache

/-- The session after a request. -/
def serve (s : Session) (rq : Request) : Session := ((answer rq).run s).2

/-- The session after some requests. -/
def after (past : List Request) : Session := past.foldl serve start

/-! ## 2. Answers without a cache -/

/-- The template with a source, read for the occasion. -/
def readAfresh (source : Text) (delimiters : List Text) : Except Failure Template :=
  match Delimiters.ofTexts delimiters with
  | .error f => .error (.delimiters f)
  | .ok d => (Template.parse d source).mapError .ofParse

/-- The report of what became of reading a source. -/
def reportOf (source : Text) : Except Failure Template → Except Failure TemplateReport
  | .ok t => .ok (TemplateReport.of t)
  | .error (.template e) => .ok ⟨reportVersion, false, source, [], [], some (ErrorReport.of e)⟩
  | .error f => .error f

/-- The text of a template that is read for the occasion, with the styles of a registry. -/
def renderAfresh (o : Options) (r : Registry) (source : Text) (d : Data)
    (explicit : List (Data × Data)) : Except Failure Text :=
  match Template.parse .braces source with
  | .error f => .error (.ofParse f)
  | .ok t =>
    (Rendering.perform (do Rendering.template o (← Rendering.contextOf d explicit) t) ⟨r, []⟩).1

/-- The answer to a request, with the styles of a registry. -/
def afresh (r : Registry) : Request → Except Failure Answer
  | .render o own source d explicit =>
    (renderAfresh o (own.getD r) source d explicit).map .text
  | .parse source d => ((Template.parse d source).mapError .ofParse).map .template
  | .template source delimiters => (readAfresh source delimiters).map .template
  | .check source delimiters => (reportOf source (readAfresh source delimiters)).map .report
  | .registerStyle name style =>
    ((r.register name style).map fun _ => .done).mapError .registration
  | .resetRegistry | .clearCache => .ok .done

/-- The request goes back to the initial registry. -/
def Request.isReset : Request → Bool
  | .resetRegistry => true
  | _ => false

/-- The style that a request registers. -/
def Request.registration? : Request → Option Registry.Call
  | .registerStyle name style => some (.register name style)
  | _ => none

/-- The styles registered since the registry was last reset. -/
def registrations (past : List Request) : List Registry.Call :=
  (past.rtakeWhile fun rq => !rq.isReset).filterMap Request.registration?

/-- The standard styles, and those registered since the registry was last reset. -/
def stylesAfter (past : List Request) : Registry := .after (some id) true (registrations past)

variable {past : List Request}

theorem stylesAfter_reset {rq : Request} (h : rq.isReset = true) :
    stylesAfter (past ++ [rq]) = Registry.initial := by
  rw [stylesAfter, registrations, List.rtakeWhile_concat_neg _ _ _ (by simp [h])]
  rfl

theorem stylesAfter_concat {rq : Request} (h : rq.isReset = false) :
    stylesAfter (past ++ [rq]) =
      rq.registration?.toList.foldl Registry.serve (stylesAfter past) := by
  have hregistrations :
      registrations (past ++ [rq]) = registrations past ++ rq.registration?.toList := by
    rw [registrations, List.rtakeWhile_concat_pos _ _ _ (by simp [h]), List.filterMap_append,
      registrations, List.filterMap_cons]
    cases rq.registration? <;> rfl
  rw [stylesAfter, hregistrations, Registry.after, List.foldl_append]
  rfl

/-! ## 3. Running steps -/

variable {s : Session}

@[simp] theorem run_map {α β : Type} (f : α → β) (x : Step α) (s : Session) :
    (f <$> x).run s = ((x.run s).1.map f, (x.run s).2) := by
  rw [map_eq_pure_bind, run_bind]
  match x.run s with
  | (.ok a, s') => rfl
  | (.error e, s') => rfl

theorem run_request (hs : s.cache.Fresh) (source : Text) (delimiters : List Text) :
    (request source delimiters).run s =
      (readAfresh source delimiters,
        { s with cache := (s.cache.request source delimiters).2 }) := by
  rw [request, run_get_bind, TemplateCache.request, readAfresh]
  cases Delimiters.ofTexts delimiters with
  | error f => rfl
  | ok d =>
    dsimp only
    rw [← TemplateCache.get_fst hs ⟨source, d⟩]
    obtain ⟨result, cache⟩ := s.cache.get ⟨source, d⟩
    cases result <;> rfl

/-- **A report is that of reading the source**, and the session does not notice. -/
theorem run_check (source : Text) (delimiters : List Text) (s : Session) :
    (check source delimiters).run s = (reportOf source (readAfresh source delimiters), s) := by
  rw [check, readAfresh]
  match Delimiters.ofTexts delimiters with
  | .error f => rfl
  | .ok d =>
    dsimp only
    rw [TemplateReport.check]
    match Template.parse d source with
    | .ok t => rfl
    | .error (.error e) => rfl
    | .error (.number f) => rfl

theorem run_perform {α : Type} (own : Option Registry) (step : Rendering α) (s : Session) :
    (perform own step).run s =
      ((Rendering.perform step ⟨own.getD s.registry, s.notices⟩).1,
        { s with
          registry := if own.isSome then s.registry else
            (Rendering.perform step ⟨own.getD s.registry, s.notices⟩).2.registry
          notices := (Rendering.perform step ⟨own.getD s.registry, s.notices⟩).2.notices }) := by
  have hrun : step.run ⟨own.getD s.registry, s.notices⟩ =
      Rendering.perform step ⟨own.getD s.registry, s.notices⟩ := rfl
  rw [perform, run_get_bind, hrun]
  match Rendering.perform step ⟨own.getD s.registry, s.notices⟩ with
  | (.ok a, bench) => rfl
  | (.error f, bench) => rfl

/-- What is rendered depends on the styles and the fallback of the registry alone, and both are
left as they are. -/
theorem steady_render (o : Options) (d : Data) (explicit : List (Data × Data)) (t : Template) :
    Rendering.Steady (do Rendering.template o (← Rendering.contextOf d explicit) t) := by
  have hclosed := Rendering.closed_steady o
  exact hclosed.bind (hclosed.contextOf d explicit) fun c => hclosed.template c t

theorem run_render (hs : s.cache.Fresh) (o : Options) (own : Option Registry) (source : Text)
    (d : Data) (explicit : List (Data × Data)) :
    (render o own source d explicit).run s =
      let s' := { s with cache := (s.cache.get ⟨source, .braces⟩).2 }
      match Template.parse .braces source with
      | .error f => (.error (.ofParse f), s')
      | .ok t =>
        (perform own do Rendering.template o (← Rendering.contextOf d explicit) t).run s' := by
  rw [render, run_bind, run_parse hs]
  match Template.parse .braces source with
  | .ok t => rfl
  | .error f => rfl

theorem run_registerStyle (name : Text) (style : Option Style) (s : Session) :
    ∃ notices, (registerStyle name style).run s =
      (((s.registry.register name style).map fun _ => ()).mapError .registration,
        { s with registry := s.registry.serve (.register name style), notices := notices }) := by
  rw [registerStyle, run_get_bind, Registry.serve]
  cases s.registry.register name style with
  | ok after => exact ⟨_, rfl⟩
  | error f => exact ⟨_, rfl⟩

/-! ## 4. What a session has to do with the requests so far -/

/-- Whether a style is taken does not depend on the registry. -/
theorem map_register {α : Type} (r r' : Registry) (name : Text) (style : Option Style) (a : α) :
    (r.register name style).map (fun _ => a) = (r'.register name style).map fun _ => a := by
  unfold Registry.register
  by_cases hname : Text.isAllBlank name = true
  · rw [if_pos hname, if_pos hname]
  · rw [if_neg hname, if_neg hname]
    cases style <;> rfl

/-- Alike registries stay alike when a style is registered in both. -/
theorem alike_register {r r' : Registry} {notices notices' : List Notice}
    (h : Workbench.Alike ⟨r, notices⟩ ⟨r', notices'⟩) (name : Text) (style : Option Style)
    (more more' : List Notice) :
    Workbench.Alike ⟨r.serve (.register name style), more⟩
      ⟨r'.serve (.register name style), more'⟩ := by
  have hset (s : Style) : Named.set name s r.styles = Named.set name s r'.styles :=
    congrArg (Named.set name s) h.styles
  unfold Registry.serve Registry.register
  by_cases hname : Text.isAllBlank name = true
  · simp only [if_pos hname]
    exact ⟨h.styles, h.fallback⟩
  · simp only [if_neg hname]
    cases style with
    | none => exact ⟨h.styles, h.fallback⟩
    | some s => exact ⟨hset s, h.fallback⟩

/-- The templates kept are those that reading gives, and the styles are those registered. -/
structure Tracks (past : List Request) (s : Session) : Prop where
  fresh : s.cache.Fresh
  alike : Workbench.Alike ⟨s.registry, s.notices⟩ ⟨stylesAfter past, []⟩

theorem tracks_start : Tracks [] start := ⟨TemplateCache.fresh_empty _, rfl, rfl⟩

namespace Tracks

/-- A request that registers nothing has to keep the styles. -/
theorem keep (h : Tracks past s) {rq : Request} (hreset : rq.isReset = false)
    (hregistration : rq.registration? = none) {s' : Session} (hfresh : s'.cache.Fresh)
    (halike : Workbench.Alike ⟨s'.registry, s'.notices⟩ ⟨s.registry, s.notices⟩) :
    Tracks (past ++ [rq]) s' := by
  refine ⟨hfresh, ?_⟩
  rw [stylesAfter_concat hreset, hregistration]
  exact halike.trans h.alike

/-- A request that may be noticed by the cache only. -/
theorem keep_cache (h : Tracks past s) {rq : Request} (hreset : rq.isReset = false)
    (hregistration : rq.registration? = none) {c : TemplateCache} (hfresh : c.Fresh) :
    Tracks (past ++ [rq]) { s with cache := c } :=
  h.keep hreset hregistration hfresh ⟨rfl, rfl⟩

/-- The workbench of a text has the styles it would have without a session. -/
theorem alike_bench (h : Tracks past s) (own : Option Registry) :
    Workbench.Alike ⟨own.getD s.registry, s.notices⟩ ⟨own.getD (stylesAfter past), []⟩ := by
  cases own with
  | none => exact h.alike
  | some r => exact ⟨rfl, rfl⟩

theorem render (h : Tracks past s) (o : Options) (own : Option Registry) (source : Text) (d : Data)
    (explicit : List (Data × Data)) :
    ((Session.render o own source d explicit).run s).1 =
        renderAfresh o (own.getD (stylesAfter past)) source d explicit ∧
      Tracks (past ++ [.render o own source d explicit])
        ((Session.render o own source d explicit).run s).2 := by
  have hget := h.fresh.get ⟨source, .braces⟩
  rw [run_render h.fresh, renderAfresh]
  cases Template.parse .braces source with
  | error f => exact ⟨rfl, h.keep_cache rfl rfl hget⟩
  | ok t =>
    have hsteady := steady_render o d explicit t
    dsimp only
    rw [run_perform]
    refine ⟨hsteady.result _ _ (h.alike_bench own), h.keep rfl rfl hget ?_⟩
    cases own with
    | none => exact hsteady.keeps _
    | some r => exact ⟨rfl, rfl⟩

theorem registerStyle (h : Tracks past s) (name : Text) (style : Option Style) :
    ((Session.registerStyle name style).run s).1 =
        (((stylesAfter past).register name style).map fun _ => ()).mapError .registration ∧
      Tracks (past ++ [.registerStyle name style])
        ((Session.registerStyle name style).run s).2 := by
  obtain ⟨notices, hrun⟩ := run_registerStyle name style s
  rw [hrun]
  refine ⟨by rw [map_register], h.fresh, ?_⟩
  rw [stylesAfter_concat rfl]
  exact alike_register h.alike name style _ _

/-- **A request is answered as it would be without a session**, and the session goes on. -/
theorem serve (h : Tracks past s) (rq : Request) :
    ((answer rq).run s).1 = afresh (stylesAfter past) rq ∧ Tracks (past ++ [rq]) (s.serve rq) := by
  unfold Session.serve
  cases rq with
  | render o own source d explicit =>
    obtain ⟨hresult, htracks⟩ := h.render o own source d explicit
    rw [answer, run_map, hresult]
    exact ⟨rfl, htracks⟩
  | parse source d =>
    rw [answer, run_map, run_parse h.fresh]
    exact ⟨rfl, h.keep_cache rfl rfl (h.fresh.get _)⟩
  | template source delimiters =>
    rw [answer, run_map, run_request h.fresh]
    exact ⟨rfl, h.keep_cache rfl rfl (h.fresh.request _ _)⟩
  | check source delimiters =>
    rw [answer, run_map, run_check]
    exact ⟨rfl, h.keep rfl rfl h.fresh ⟨rfl, rfl⟩⟩
  | registerStyle name style =>
    obtain ⟨hresult, htracks⟩ := h.registerStyle name style
    rw [answer, run_map, hresult]
    refine ⟨?_, htracks⟩
    rw [afresh]
    cases (stylesAfter past).register name style <;> rfl
  | resetRegistry =>
    refine ⟨rfl, h.fresh, ?_⟩
    rw [stylesAfter_reset rfl]
    exact ⟨rfl, rfl⟩
  | clearCache => exact ⟨rfl, h.keep_cache rfl rfl (TemplateCache.fresh_empty _)⟩

end Tracks

/-- **The invariant holds after all requests.** -/
theorem tracks_after (past : List Request) : Tracks past (after past) := by
  have hfoldl (requests : List Request) {past : List Request} {s : Session} (h : Tracks past s) :
      Tracks (past ++ requests) (requests.foldl Session.serve s) := by
    induction requests generalizing past s with
    | nil => rwa [List.append_nil]
    | cons rq requests ih =>
      rw [List.append_cons]
      exact ih (h.serve rq).2
  exact hfoldl past tracks_start

/-- **Only the counts show that templates are kept.**  After any requests, a session answers as if
the template were read for the request, with the standard styles and those registered since the
registry was last reset.  The report of a source says what the session would answer when asked for
its template, and leaves the session as it was. -/
theorem answers_afresh (past : List Request) :
    (∀ rq, ((answer rq).run (after past)).1 = afresh (stylesAfter past) rq) ∧
      ∀ source delimiters,
        (check source delimiters).run (after past) =
          (reportOf source ((request source delimiters).run (after past)).1, after past) := by
  have h := tracks_after past
  refine ⟨fun rq => (h.serve rq).1, fun source delimiters => ?_⟩
  rw [run_check, run_request h.fresh]

end Session

end Phrasing
