/-
# Reports

What programs are told about templates and styles, as JSON: whether a template can be read, the
segments it consists of or the error in it, and samples of the styles of a registry.

Members that have no value are left out.
-/
import Phrasing.Json.Basic
import Phrasing.Style.Registry
import Phrasing.Template.Basic

namespace Phrasing

/-- The version of the form that reports have. -/
def reportVersion : Int := 1

/-- An error in a template. -/
structure ErrorReport where
  kind : Text
  offset : Int
  source : Text
  message : Text
  line : Option Int
  column : Option Int
deriving DecidableEq, Repr

/-- Whether a segment is literal text. -/
inductive SegmentSort where
  | literal
  | expression
deriving DecidableEq, Repr

/-- A segment of a template. -/
structure SegmentReport where
  sort : SegmentSort
  offset : Int
  text : Option Text
  source : Option Text
  base : Option Text
  accessors : List Text
  style : Option Text
deriving DecidableEq, Repr

/-- A template: its names and segments, or the error in it. -/
structure TemplateReport where
  version : Int
  ok : Bool
  template : Text
  names : List Text
  segments : List SegmentReport
  error : Option ErrorReport
deriving DecidableEq, Repr

/-- A style with a sample. -/
structure StyleReport where
  name : Text
  sample : Text
deriving DecidableEq, Repr

/-- The styles of a registry. -/
structure StylesReport where
  version : Int
  capability : Text
  styles : List StyleReport
deriving DecidableEq, Repr

/-! ## 1. As JSON -/

/-- An error as JSON. -/
def ErrorReport.toJson (r : ErrorReport) : Json :=
  .object (Json.member "kind" (.string r.kind) ++ Json.member "offset" (.integer r.offset) ++
    Json.member "sourceText" (.string r.source) ++ Json.member "message" (.string r.message) ++
    Json.optional "line" (r.line.map .integer) ++ Json.optional "column" (r.column.map .integer))

/-- The name of a sort of segments. -/
def SegmentSort.name : SegmentSort → String
  | literal => "literal"
  | expression => "expression"

/-- A segment as JSON. -/
def SegmentReport.toJson (r : SegmentReport) : Json :=
  .object (Json.member "type" (.word r.sort.name) ++ Json.member "offset" (.integer r.offset) ++
    Json.optional "text" (r.text.map .string) ++
    Json.optional "sourceText" (r.source.map .string) ++
    Json.optional "base" (r.base.map .string) ++
    Json.member "accessors" (.strings r.accessors) ++ Json.optional "style" (r.style.map .string))

/-- A template as JSON. -/
def TemplateReport.toJson (r : TemplateReport) : Json :=
  .object (Json.member "protocol" (.integer r.version) ++ Json.member "ok" (.truth r.ok) ++
    Json.member "template" (.string r.template) ++ Json.member "names" (.strings r.names) ++
    Json.member "segments" (.array (r.segments.map SegmentReport.toJson)) ++
    Json.optional "error" (r.error.map ErrorReport.toJson))

/-- A style as JSON. -/
def StyleReport.toJson (r : StyleReport) : Json :=
  .object (Json.member "name" (.string r.name) ++ Json.member "sample" (.string r.sample))

/-- The styles of a registry as JSON. -/
def StylesReport.toJson (r : StylesReport) : Json :=
  .object (Json.member "protocol" (.integer r.version) ++
    Json.member "capability" (.string r.capability) ++
    Json.member "styles" (.array (r.styles.map StyleReport.toJson)))

/-- A style by its markers and renditions as JSON. -/
def Markers.toJson (m : Markers) : Json :=
  let rendition :=
    match m.rendition with
    | none => []
    | some (on, off) =>
      Json.member "sgr" (.strings [on, off]) ++ Json.member "keep_markers" (.truth m.keep)
  .object (Json.member "prefix" (.string m.before) ++ Json.member "suffix" (.string m.after) ++
    rendition)

/-! ## 2. Making reports -/

/-- The report of an error. -/
def ErrorReport.of (e : TemplateError) : ErrorReport :=
  { kind := e.kind.toList
    offset := e.offset
    source := e.source
    message := e.describe.toList
    line := e.lineAndColumn?.map Prod.fst
    column := e.lineAndColumn?.map Prod.snd }

/-- The report of a segment. -/
def SegmentReport.of : Segment → SegmentReport
  | .literal t offset => ⟨.literal, offset, some t, none, none, [], none⟩
  | .expression source path position =>
    ⟨.expression, position.offset, none, some source, some path.base,
      path.accessors.map Accessor.text, path.style⟩

/-- The report of a template that can be read. -/
def TemplateReport.of (t : Template) : TemplateReport :=
  ⟨reportVersion, true, t.source, t.names, t.segments.map SegmentReport.of, none⟩

/-- The report of a source of a template.  Numbers of too many digits are not reported. -/
def TemplateReport.check (d : Delimiters) (source : Text) :
    Except NumberFault TemplateReport :=
  match Template.parse d source with
  | .ok t => .ok (TemplateReport.of t)
  | .error (.error e) =>
    .ok ⟨reportVersion, false, source, [], [], some (ErrorReport.of e)⟩
  | .error (.number f) => .error f

/-- The report of the styles of a registry, with `sample` written in each of them. -/
def StylesReport.of (r : Registry) (capability : Capability) (sample : Text) : StylesReport :=
  ⟨reportVersion, capability.name.toList,
    r.names.filterMap fun name =>
      (Named.find? name r.styles).map fun s => ⟨name, s.apply capability sample⟩⟩

end Phrasing
