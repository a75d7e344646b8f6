/-
# Carrying out commands

Rendering goes through the configuration, its styles, the capability, the context and the
template, in this order; the first fault on the way is the one that counts.  Values of the
context come from a file and from settings on the command line, which win; a name that is set
several times stands for the list of its values.
-/
import Phrasing.Command.Basic
import Phrasing.Command.World
import Phrasing.Report.Basic

namespace Phrasing.Command

/-- A step of a command, with the session it goes on in. -/
abbrev Work := ExceptT Fault (StateM Session)

/-! ## 1. Input -/

/-- Leaves a notice. -/
def report (n : Notice) : Work Unit :=
  modify fun s => { s with notices := s.notices ++ [n] }

/-- Goes on if there is no fault. -/
def orFault {α ε : Type} (wrap : ε → Fault) : Except ε α → Work α
  | .ok a => pure a
  | .error e => throw (wrap e)

/-- The text in bytes, whose lines may end in any way. -/
def textOf (octets : List UInt8) : Work Text := orFault .notText (Configuration.readText octets)

/-- A text without the line feeds at its end. -/
def trimLines (t : Text) : Text := Text.dropEndWhile (· == '\n') t

/-- The template that an argument names: the standard input, a file, or its own text. -/
def readTemplate (w : World) (argument : Text) : Work Text :=
  match argument with
  | ['-'] => return trimLines w.input
  | '@' :: place => do
    let location := Location.normal place
    match w.file? location with
    | none => throw (.templateMissing location)
    | some octets => return trimLines (← textOf octets)
  | t => return t

mutual

/-- A JSON value as data. -/
def dataOfJson : Json → Data
  | .null => .absent
  | .truth b => .truth b
  | .integer n => .integer n
  | .real x => .real x
  | .string t => .text t
  | .array items => .list (dataOfItems items)
  | .object members => .mapping (dataOfMembers members)

/-- JSON values as data. -/
def dataOfItems : List Json → List Data
  | [] => []
  | j :: js => dataOfJson j :: dataOfItems js

/-- The members of an object as the entries of a mapping. -/
def dataOfMembers : List (Text × Json) → List (Data × Data)
  | [] => []
  | (name, j) :: members => (.text name, dataOfJson j) :: dataOfMembers members

end

/-- The data in a file of context values: JSON or YAML, by the ending of its location. -/
def contextData (location t : Text) : Work Data :=
  if Location.endsIn ".json" location then
    return dataOfJson (← orFault .contextJson (Json.read t))
  else do
    let d ← orFault (.contextDocument location) (Yaml.read t)
    return if d.isTrue then d else .mapping []

/-- The entries in a file of context values. -/
def contextFile (w : World) (place : Text) : Work (List (Data × Data)) := do
  let location := Location.normal place
  match w.file? location with
  | none => throw (.contextMissing location)
  | some octets =>
    match ← contextData location (← textOf octets) with
    | .mapping entries => return entries
    | _ => throw (.contextNotAMapping location)

/-! ## 2. Settings -/

/-- The name and the value of a setting. -/
def splitSetting (t : Text) : Except Fault (Text × Text) :=
  match Text.cutAt? '=' t with
  | some (name, value) => .ok (Text.trim name, value)
  | none => .error (.setting t)

/-- The values of a name with one more. -/
def addSetting (settings : Named (List Text)) (name value : Text) : Named (List Text) :=
  Named.set name (((Named.find? name settings).getD []) ++ [value]) settings

/-- The values of every name that is set, in order. -/
def groupSettings (ts : List Text) : Except Fault (Named (List Text)) := do
  let pairs ← ts.mapM splitSetting
  return pairs.foldl (fun settings (name, value) => addSetting settings name value) []

/-- The values of a name as data: one value itself, or a list of several. -/
def settingData : List Text → Data
  | [t] => .text t
  | ts => .list (ts.map .text)

/-- The context of entries and settings; settings win. -/
def contextOf (entries : List (Data × Data)) (settings : Named (List Text)) :
    Except DataFault Context :=
  Context.ofEntries
    (settings.foldl (fun es (name, values) => Data.setEntry (.text name) (settingData values) es)
      entries)

/-! ## 3. Commands -/

/-- The configuration in the file at some location. -/
def loadConfiguration (location : Text) (file : Option (List UInt8)) : Work Configuration := do
  let c ← orFault .configuration (Configuration.ofFile location file)
  report (.configLoaded location c.styles.length)
  return c

/-- The configuration that was asked for, or the one in the working directory, if there is
one. -/
def findConfiguration (w : World) : Option Text → Work Configuration
  | some (c :: place) =>
    let location := Location.normal (c :: place)
    loadConfiguration location (w.file? location)
  | _ =>
    match w.file? Configuration.fileName with
    | none => return Configuration.standard
    | some octets =>
      loadConfiguration (w.directory ++ '/' :: Configuration.fileName) (some octets)

/-- Registers the styles of a configuration. -/
def applyConfiguration (c : Configuration) : Work Unit := do
  let s ← get
  let (result, registry, notices) := c.apply s.registry
  set { s with registry := registry, notices := s.notices ++ notices }
  orFault (.failure ∘ .registration) result

/-- The options of a configuration under the wishes of the command line. -/
def optionsFor (w : World) (r : RenderRequest) (o : Options) : Work Options := do
  let capability ←
    match r.capability with
    | none => pure o.capability
    | some (.given c) => pure c
    | some .detected =>
      orFault (.failure ∘ .option ∘ .capability) (Capability.detect w.environment w.output)
  return { o with capability := capability, strict := o.strict || r.strict }

/-- Reads a template and leaves traces of that. -/
def parseTemplate (t : Text) : Work Unit :=
  match Token.tokenize .braces t with
  | .error _ => return
  | .ok tokens => do
    report (.tokenized tokens.length)
    match Segment.ofTokens tokens with
    | .error _ => return
    | .ok segments => report (.parsed segments.length)

/-- A text that ends its last line. -/
def endLine (t : Text) : Text := if t.getLast? = some '\n' then t else t ++ ['\n']

/-- Renders a template. -/
def render (w : World) (r : RenderRequest) : Work (Nat × Text) := do
  let configuration ← findConfiguration w r.configuration
  applyConfiguration configuration
  let options ← optionsFor w r configuration.options
  let entries ←
    match r.context with
    | some (c :: place) => contextFile w (c :: place)
    | _ => pure []
  let settings ← (groupSettings r.settings : Except Fault (Named (List Text)))
  let context ← orFault .contextValue (contextOf entries settings)
  let source ← readTemplate w r.template
  parseTemplate source
  let s ← get
  let step : Rendering Text := do
    Rendering.template options context (← Rendering.parse source)
  let (result, bench) := step.run ⟨s.registry, s.notices⟩
  set { s with registry := bench.registry, notices := bench.notices }
  return (0, endLine (← orFault .failure result))

/-- Checks a template. -/
def check (w : World) (template : Text) : Work (Nat × Text) := do
  let source ← readTemplate w template
  parseTemplate source
  let r ← orFault (.failure ∘ .number) (TemplateReport.check .braces source)
  return (if r.ok then 0 else 2, r.toJson.text)

/-- Enumerates texts. -/
def enumerate (r : EnumerationRequest) : Work (Nat × Text) := do
  let e : Enumeration :=
    { Enumeration.standard with
      separator := (r.separator.map Data.text).getD Enumeration.standard.separator
      lastSeparator := (r.lastSeparator.map Data.text).getD Enumeration.standard.lastSeparator
      oxfordComma := r.oxfordComma
      sort := r.sort }
  let wrap := Fault.failure ∘ Failure.option ∘ OptionFault.enumeration
  let e ←
    match r.maxItems with
    | none => pure e
    | some n => orFault wrap (e.limit n)
  return (0, (← orFault wrap (e.write r.items)) ++ ['\n'])

/-- Shows samples of the styles. -/
def styles (w : World) (capability : Capability) (configuration : Option Text) :
    Work (Nat × Text) := do
  match configuration with
  | some (c :: place) =>
    let location := Location.normal (c :: place)
    applyConfiguration (← loadConfiguration location (w.file? location))
  | _ => pure ()
  let r := StylesReport.of (← get).registry capability "text".toList
  return (0, r.toJson.text)

/-- Does what is asked for: the exit code and the text for the output. -/
def perform (w : World) : Request → Work (Nat × Text)
  | .render r => render w r
  | .check template => check w template
  | .enumerate r => enumerate r
  | .styles capability configuration => styles w capability configuration

/-! ## 4. The whole program -/

/-- The name and the version of the program. -/
def versionText : String := "msgc 0.3.0"

/-- The setting of the environment that shows traces. -/
def debugSetting : Text := "MSGC_DEBUG".toList

/-- The notices that are shown, as lines. -/
def logText (verbose : Bool) (notices : List Notice) : Text :=
  (notices.filter fun n => verbose || n.level = .warning).flatMap fun n => n.line.toList ++ ['\n']

/-- What a command line does. -/
def run (w : World) (arguments : List Text) : Outcome :=
  match Invocation.ofArguments arguments with
  | .error .misuse => .misuse
  | .error (.asked name) => if name = "version" then .version else .help
  | .ok i =>
    let debug := ((Named.find? debugSetting w.environment).getD []) ≠ []
    let (result, s) := (perform w i.request).run { Session.start with registry := Registry.initial }
    let log := logText (i.verbose || debug) s.notices
    match result with
    | .ok (exit, output) => .finished exit output log
    | .error f =>
      if f.isOfUser then .finished 2 [] (log ++ Text.trimEnd f.message.toList ++ ['\n'])
      else .broken f

end Phrasing.Command
