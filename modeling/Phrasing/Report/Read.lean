/-
# Reading reports

Data is read as a report if it is a mapping with everything that the report needs.  Other keys
do not matter, and a name of two words can be spelled with a capital or an underscore.  Numbers
and truth values may be given in words, and whole numbers with a fraction of nothing.
-/
import Phrasing.Data.Literal
import Phrasing.Report.Basic
import Phrasing.Text.Caseless

namespace Phrasing

namespace Data

/-- A whole number in words: a sign, digits with single underscores between them, and possibly
a point with zeros after it. -/
def numberWord? (t : Text) : Option Int :=
  let (negative, body) := Number.readSign (Text.trim t)
  let (whole, fraction) :=
    match Text.cutAt? '.' body with
    | some (whole, fraction) => (whole, some fraction)
    | none => (body, none)
  let wellFormed := body.all (fun c => Text.isAsciiDigit c || c == '_' || c == '.') &&
    (fraction.all fun ds => !ds.isEmpty && ds.all (· == '0'))
  match whole.head? >>= Text.digitValue?, Number.readDigits whole with
  | some _, some (ds, []) =>
    if wellFormed && ds.length ≤ Number.digitLimit then some (Number.signed negative ds) else none
  | _, _ => none

/-- Data as a whole number. -/
def wholeNumber? : Data → Option Int
  | integer n => some n
  | truth b => some (if b then 1 else 0)
  | real x => if x.isWhole then x.truncate? else none
  | text t => numberWord? t
  | _ => none

/-- The words for yes. -/
def yesWords : List String := ["1", "on", "t", "true", "y", "yes"]

/-- The words for no. -/
def noWords : List String := ["0", "off", "f", "false", "n", "no"]

/-- Data as a truth value. -/
def truthValue? : Data → Option Bool
  | truth b => some b
  | integer n => if n = 1 then some true else if n = 0 then some false else none
  | real x => if x.sameInt 1 then some true else if x.sameInt 0 then some false else none
  | text t =>
    let word := Text.lowerWord t
    if yesWords.any (·.toList = word) then some true
    else if noWords.any (·.toList = word) then some false
    else none
  | _ => none

/-- Data as a text. -/
def plainText? : Data → Option Text
  | text t => some t
  | _ => none

/-- Data as a list. -/
def list? : Data → Option (List Data)
  | list items | tuple items | set items => some items
  | _ => none

/-- Data as the entries of a mapping. -/
def entries? : Data → Option (List (Data × Data))
  | mapping entries => some entries
  | _ => none

/-- What must be there under one of some keys. -/
def required {α : Type} (read : Data → Option α) (keys : List String)
    (entries : List (Data × Data)) : Option α :=
  (keys.findSome? fun key => field? key.toList entries) >>= read

/-- What may be there under one of some keys, or be absent. -/
def optional {α : Type} (read : Data → Option α) (keys : List String)
    (entries : List (Data × Data)) : Option (Option α) :=
  match keys.findSome? fun key => field? key.toList entries with
  | none | some absent => some none
  | some d => (read d).map some

/-- What is there under a key, or stands in for it. -/
def defaulted {α : Type} (read : Data → Option α) (key : String) (otherwise : α)
    (entries : List (Data × Data)) : Option α :=
  match field? key.toList entries with
  | none => some otherwise
  | some d => read d

/-- Data as a list of something. -/
def listOf {α : Type} (read : Data → Option α) (d : Data) : Option (List α) :=
  d.list? >>= List.mapM read

end Data

/-- The two spellings of the key of a source. -/
def sourceKeys : List String := ["sourceText", "source_text"]

/-- Data as the report of an error. -/
def ErrorReport.ofData? (d : Data) : Option ErrorReport := do
  let es ← d.entries?
  return ⟨← Data.required Data.plainText? ["kind"] es,
    ← Data.required Data.wholeNumber? ["offset"] es,
    ← Data.required Data.plainText? sourceKeys es,
    ← Data.required Data.plainText? ["message"] es,
    ← Data.optional Data.wholeNumber? ["line"] es,
    ← Data.optional Data.wholeNumber? ["column"] es⟩

/-- Data as a sort of segments. -/
def SegmentSort.ofData? (d : Data) : Option SegmentSort := do
  let t ← d.plainText?
  if t = "literal".toList then some literal
  else if t = "expression".toList then some expression
  else none

/-- Data as the report of a segment. -/
def SegmentReport.ofData? (d : Data) : Option SegmentReport := do
  let es ← d.entries?
  return ⟨← Data.required SegmentSort.ofData? ["type"] es,
    ← Data.required Data.wholeNumber? ["offset"] es,
    ← Data.optional Data.plainText? ["text"] es,
    ← Data.optional Data.plainText? sourceKeys es,
    ← Data.optional Data.plainText? ["base"] es,
    ← Data.defaulted (Data.listOf Data.plainText?) "accessors" [] es,
    ← Data.optional Data.plainText? ["style"] es⟩

/-- Data as the report of a template. -/
def TemplateReport.ofData? (d : Data) : Option TemplateReport := do
  let es ← d.entries?
  return ⟨← Data.defaulted Data.wholeNumber? "protocol" reportVersion es,
    ← Data.required Data.truthValue? ["ok"] es,
    ← Data.required Data.plainText? ["template"] es,
    ← Data.defaulted (Data.listOf Data.plainText?) "names" [] es,
    ← Data.defaulted (Data.listOf SegmentReport.ofData?) "segments" [] es,
    ← Data.optional ErrorReport.ofData? ["error"] es⟩

/-- Data as the report of a style. -/
def StyleReport.ofData? (d : Data) : Option StyleReport := do
  let es ← d.entries?
  return ⟨← Data.required Data.plainText? ["name"] es,
    ← Data.required Data.plainText? ["sample"] es⟩

/-- Data as the report of the styles of a registry. -/
def StylesReport.ofData? (d : Data) : Option StylesReport := do
  let es ← d.entries?
  return ⟨← Data.defaulted Data.wholeNumber? "protocol" reportVersion es,
    ← Data.required Data.plainText? ["capability"] es,
    ← Data.defaulted (Data.listOf StyleReport.ofData?) "styles" [] es⟩

end Phrasing
