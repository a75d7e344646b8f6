/-
# Sessions

A session keeps what one rendering leaves to the next: the registry of styles, and the templates
that were read.
-/
import Phrasing.Rendering
import Phrasing.Report.Basic
import Phrasing.Template.Cache

namespace Phrasing

/-- The failure of a cache to give a template. -/
def Failure.ofCache : CacheFault → Failure
  | .delimiters f => delimiters f
  | .template f => ofParse f

/-! ## 1. Results -/

/-- What an attempt to render leaves: a text, or the error in the template that was in its way. -/
abbrev RenderResult := Except TemplateError Text

/-- Why a result has no text. -/
structure MissingText where
  error : TemplateError
deriving DecidableEq, Repr

/-- How a missing text is worded. -/
def MissingText.message (f : MissingText) : String := s!"Render failed: {f.error.message}"

/-- It is a mistake in the value to ask a result for a text that it does not have. -/
def MissingText.mistake (_ : MissingText) : Mistake := .value

namespace RenderResult

/-- The error of a result, if it has one. -/
def error? : RenderResult → Option TemplateError
  | .ok _ => none
  | .error e => some e

/-- Whether a result is without an error. -/
def isOk (r : RenderResult) : Bool := r.error?.isNone

/-- The text of a result. -/
def text : RenderResult → Except MissingText Text
  | .ok t => .ok t
  | .error e => .error ⟨e⟩

end RenderResult

/-! ## 2. Steps -/

/-- What lasts from one rendering to the next, and the notices given so far. -/
structure Session where
  registry : Registry
  cache : TemplateCache
  notices : List Notice

namespace Session

/-- The session at its start. -/
def start : Session := ⟨Registry.initial, TemplateCache.empty TemplateCache.standardLimit, []⟩

/-- A step in a session. -/
abbrev Step := ExceptT Failure (StateM Session)

/-- A template by its source and delimiters, from the cache if it is there. -/
def parse (source : Text) (d : Delimiters) : Step Template := do
  let s ← get
  let (result, cache) := s.cache.get ⟨source, d⟩
  set { s with cache := cache }
  match result with
  | .ok t => return t
  | .error f => throw (.ofParse f)

/-- A template by its source, from the cache if it is there; its delimiters are given as texts. -/
def request (source : Text) (delimiters : List Text) : Step Template := do
  let s ← get
  let (result, cache) := s.cache.request source delimiters
  set { s with cache := cache }
  match result with
  | .ok t => return t
  | .error f => throw (.ofCache f)

/-- The report of a source, which is read for it; its delimiters are given as texts. -/
def check (source : Text) (delimiters : List Text) : Step TemplateReport :=
  match Delimiters.ofTexts delimiters with
  | .error f => throw (.delimiters f)
  | .ok d =>
    match TemplateReport.check d source with
    | .ok r => pure r
    | .error f => throw (.number f)

/-- A step of rendering, with the registry of the session or with one of its own. -/
def perform {α : Type} (own : Option Registry) (step : Rendering α) : Step α := do
  let s ← get
  let (result, bench) := step.run ⟨own.getD s.registry, s.notices⟩
  set { s with
    registry := if own.isSome then s.registry else bench.registry
    notices := bench.notices }
  match result with
  | .ok a => return a
  | .error f => throw f

/-- Renders a template from its source, in the context of some data and explicit values. -/
def render (o : Options) (own : Option Registry) (source : Text) (d : Data)
    (explicit : List (Data × Data)) : Step Text := do
  let t ← parse source .braces
  perform own do
    let c ← Rendering.contextOf d explicit
    Rendering.template o c t

/-- A step whose errors in templates are results.  Any other failure is still one. -/
def attempt {α : Type} (step : Step α) : Step (Except TemplateError α) :=
  tryCatch (return .ok (← step)) fun
    | .template e => return .error e
    | f => throw f

/-- Registers a style. -/
def registerStyle (name : Text) (style : Option Style) : Step Unit := do
  let s ← get
  match s.registry.register name style with
  | .ok (registry, notices) => set { s with registry := registry, notices := s.notices ++ notices }
  | .error f => throw (.registration f)

/-- Goes back to the initial registry. -/
def resetRegistry : Step Unit := modify fun s => { s with registry := Registry.initial }

/-- Forgets all templates. -/
def clearCache : Step Unit := modify fun s => { s with cache := s.cache.clear }

end Session

end Phrasing
