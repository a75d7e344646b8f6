/-
# Commands

The command line asks for one of four things: to render a template, to check one, to enumerate
texts, or to show samples of the styles.
-/
import Phrasing.Command.Options
import Phrasing.Number.Integer
import Phrasing.Style.Capability

namespace Phrasing.Command

/-- The capability to render for: a given one, or that of the output. -/
inductive CapabilityChoice where
  | given (c : Capability)
  | detected
deriving DecidableEq, Repr

/-- What is asked for when a template is rendered. -/
structure RenderRequest where
  template : Text
  context : Option Text
  settings : List Text
  capability : Option CapabilityChoice
  configuration : Option Text
  strict : Bool
deriving DecidableEq, Repr

/-- What is asked for when texts are enumerated. -/
structure EnumerationRequest where
  items : List Text
  separator : Option Text
  lastSeparator : Option Text
  oxfordComma : Bool
  maxItems : Option Int
  sort : Bool
deriving DecidableEq, Repr

/-- What a command line asks for. -/
inductive Request where
  | render (r : RenderRequest)
  | check (template : Text)
  | enumerate (r : EnumerationRequest)
  | styles (capability : Capability) (configuration : Option Text)
deriving DecidableEq, Repr

/-- A request, and whether traces of the work are to be shown. -/
structure Invocation where
  verbose : Bool
  request : Request
deriving DecidableEq, Repr

/-! ## 1. Options -/

/-- The option that shows help. -/
def helpSpec : OptionSpec := ⟨"help", ["-h", "--help"], .stop⟩

/-- The option that shows the version. -/
def versionSpec : OptionSpec := ⟨"version", ["-v", "--version"], .stop⟩

/-- The options in front of a command. -/
def frontSpecs : List OptionSpec :=
  [helpSpec, versionSpec, ⟨"verbose", ["--verbose"], .flag⟩]

/-- An option that can have any value. -/
def anySpec (name spelling : String) : OptionSpec := ⟨name, [spelling], .value fun _ => true⟩

/-- A choice among words. -/
def choiceSpec (name spelling : String) (words : List String) : OptionSpec :=
  ⟨name, [spelling], .value fun t => words.any (·.toList = t)⟩

/-- Whether a text is a whole number. -/
def isWholeNumber (t : Text) : Bool :=
  match Number.read t with
  | .ok _ => true
  | .error _ => false

/-- The options of rendering. -/
def renderSpecs : List OptionSpec :=
  [helpSpec, anySpec "context" "--context", anySpec "set" "--set",
    choiceSpec "capability" "--capability" ["none", "ascii", "markup", "auto"],
    anySpec "config" "--config", ⟨"strict", ["--strict-styles"], .flag⟩]

/-- The options of checking. -/
def checkSpecs : List OptionSpec := [helpSpec]

/-- The options of enumerating. -/
def enumerateSpecs : List OptionSpec :=
  [helpSpec, anySpec "separator" "--sep", anySpec "last_separator" "--last-sep",
    ⟨"oxford", ["--oxford"], .flag⟩, ⟨"max_items", ["--max-items"], .value isWholeNumber⟩,
    ⟨"sort", ["--sort"], .flag⟩]

/-- The options of showing styles. -/
def stylesSpecs : List OptionSpec :=
  [helpSpec, choiceSpec "capability" "--capability" ["none", "ascii", "markup"],
    anySpec "config" "--config"]

/-! ## 2. Requests -/

/-- A capability by its own name, or the wish to detect it. -/
def choiceOf (t : Text) : CapabilityChoice :=
  match Capability.ofText? t with
  | some c => .given c
  | none => .detected

/-- The request that a reading of the words behind `render` makes. -/
def renderRequest (r : Reading) (template : Text) : Request :=
  .render
    { template := template
      context := r.value? "context"
      settings := r.values "set"
      capability := (r.value? "capability").map choiceOf
      configuration := r.value? "config"
      strict := r.has "strict" }

/-- The request that a reading of the words behind `collapse` makes. -/
def enumerateRequest (r : Reading) : Request :=
  .enumerate
    { items := r.plain
      separator := r.value? "separator"
      lastSeparator := r.value? "last_separator"
      oxfordComma := r.has "oxford"
      maxItems := (r.value? "max_items") >>= fun t => (Number.read t).toOption
      sort := r.has "sort" }

/-- The request that a reading of the words behind `styles` makes. -/
def stylesRequest (r : Reading) : Request :=
  .styles (((r.value? "capability") >>= Capability.ofText?).getD .ascii) (r.value? "config")

/-- The only plain word that was read. -/
def onePlain (r : Reading) : Except Stop Text :=
  match r.plain with
  | [t] => .ok t
  | _ => .error .misuse

/-- What the words behind the name of a command ask for, and whether there are too many. -/
def readRequest (name : Text) (ts : List Text) : Except Stop (Request × Bool) :=
  if name = "render".toList then do
    let r ← read renderSpecs .one ts
    return (renderRequest r (← onePlain r), r.excess)
  else if name = "check".toList then do
    let r ← read checkSpecs .one ts
    return (.check (← onePlain r), r.excess)
  else if name = "collapse".toList then do
    let r ← read enumerateSpecs .many ts
    return (enumerateRequest r, r.excess)
  else if name = "styles".toList then do
    let r ← read stylesSpecs .zero ts
    return (stylesRequest r, r.excess)
  else .error .misuse

/-- Reads the words in front of a command and then the command; `verbose` and `excess` tell what
was met so far. -/
def readFront (verbose excess : Bool) : List Word → List Text → Except Stop Invocation
  | .option spec spelling value :: ws, _ :: ts => do
    let (entry, _) ← readOption frontSpecs spec spelling value none
    readFront (verbose || entry.1 = "verbose") excess ws ts
  | .unknown :: ws, _ :: ts => readFront verbose true ws ts
  | .plain name :: _, _ :: ts => do
    let (request, more) ← readRequest name ts
    if excess || more then throw .misuse else return ⟨verbose, request⟩
  | _, _ => .error .misuse

/-- What a command line asks for. -/
def Invocation.ofArguments (ts : List Text) : Except Stop Invocation := do
  readFront false false (← wordsOf frontSpecs ts) ts

end Phrasing.Command
