/-
# Data as text

Data has two written forms.  `literal` shows what it is: texts are quoted, numbers of the
binary format differ from integers, and the kind of a container shows in its brackets.
`asText` is the form in which data becomes part of a text: a text, a path or a date stands for
itself, and everything else is written as a literal.  Neither form exists of data that shows a
whole number of too many digits; `asText?` refuses it.
-/
import Phrasing.Data.Basic

namespace Phrasing

/-- An optional text as a literal. -/
def optionLiteral : Option Text → String
  | none => "None"
  | some t => Text.quoted t

namespace Data

/-- One byte between quotes of the kind `quote`. -/
def escapeByte (quote : Char) (o : UInt8) : Text :=
  let c := Char.ofNat o.toNat
  if c = quote ∨ c = '\\' then ['\\', c]
  else if c = '\n' then ['\\', 'n']
  else if c = '\r' then ['\\', 'r']
  else if c = '\t' then ['\\', 't']
  else if 32 ≤ o.toNat ∧ o.toNat < 127 then [c]
  else '\\' :: 'x' :: Text.hexDigits 2 o.toNat

/-- A byte string between quotes. -/
def bytesLiteral (octets : List UInt8) : String :=
  let q := Text.quoteFor (octets.map fun o => Char.ofNat o.toNat)
  Text.string ('b' :: q :: octets.flatMap (escapeByte q) ++ [q])

end Data

namespace Scalar

/-- The literal of a scalar's content. -/
def literal : Scalar → String
  | absent => "None"
  | truth b => if b then "True" else "False"
  | integer n => Text.string (Number.decimal n)
  | real x => Text.string (x.text Binary64.exactLayout)
  | text t => Text.quoted t
  | bytes octets => Data.bytesLiteral octets

end Scalar

namespace Value

mutual

/-- A value by its kind and parts. -/
def literal : Value → String
  | scalar content style => s!"Scalar(value={content.literal}, style={optionLiteral style})"
  | sequence items style =>
    let comma := match items with
      | [_] => ","
      | _ => ""
    s!"Sequence(items=({itemLiterals items}{comma}), style={optionLiteral style})"
  | mapping fields => s!"Mapping(fields=mappingproxy(\x7b{fieldLiterals fields}\x7d))"

/-- The literals of items, with commas between them. -/
def itemLiterals : List Value → String
  | [] => ""
  | [v] => literal v
  | v :: vs => s!"{literal v}, {itemLiterals vs}"

/-- The literals of fields, with commas between them. -/
def fieldLiterals : List (Text × Value) → String
  | [] => ""
  | [(name, v)] => s!"{Text.quoted name}: {literal v}"
  | (name, v) :: fields => s!"{Text.quoted name}: {literal v}, {fieldLiterals fields}"

end

end Value

namespace Date

/-- A date by its numbers. -/
def literal (d : Date) : String := s!"datetime.date({d.year}, {d.month}, {d.day})"

end Date

namespace Clock

/-- The numbers of a time of day, without the fraction or the seconds if they are zero. -/
def literalParts (c : Clock) : String :=
  if c.microsecond ≠ 0 then s!"{c.hour}, {c.minute}, {c.second}, {c.microsecond}"
  else if c.second ≠ 0 then s!"{c.hour}, {c.minute}, {c.second}"
  else s!"{c.hour}, {c.minute}"

/-- A time of day by its numbers. -/
def literal (c : Clock) : String := s!"datetime.time({c.literalParts})"

end Clock

namespace Moment

/-- A distance from universal time, as a length of time. -/
def zoneLiteral (minutes : Int) : String :=
  if minutes = 0 then "datetime.timezone.utc"
  else if 0 < minutes then
    s!"datetime.timezone(datetime.timedelta(seconds={minutes * 60}))"
  else
    s!"datetime.timezone(datetime.timedelta(days=-1, seconds={86400 + minutes * 60}))"

/-- A moment by its numbers. -/
def literal (m : Moment) : String :=
  let zone := match m.zone with
    | none => ""
    | some minutes => s!", tzinfo={zoneLiteral minutes}"
  s!"datetime.datetime({m.date.year}, {m.date.month}, {m.date.day}, {m.clock.literalParts}{zone})"

end Moment

namespace Data

mutual

/-- Data by its kind and parts. -/
def literal : Data → String
  | absent => "None"
  | truth b => if b then "True" else "False"
  | integer n => Text.string (Number.decimal n)
  | real x => Text.string (x.text Binary64.exactLayout)
  | text t => Text.quoted t
  | path t => s!"PurePosixPath({Text.quoted t})"
  | entry name _ => s!"<DirEntry {bytesLiteral name}>"
  | date d => d.literal
  | clock c => c.literal
  | moment m => m.literal
  | list items => s!"[{itemLiterals items}]"
  | tuple items =>
    let comma := match items with
      | [_] => ","
      | _ => ""
    s!"({itemLiterals items}{comma})"
  | mapping entries => s!"\x7b{entryLiterals entries}\x7d"
  | bytes octets => bytesLiteral octets
  | set [] => "set()"
  | set items => s!"\x7b{itemLiterals items}\x7d"
  | value v => v.literal

/-- The literals of items, with commas between them. -/
def itemLiterals : List Data → String
  | [] => ""
  | [d] => literal d
  | d :: ds => s!"{literal d}, {itemLiterals ds}"

/-- The literals of entries, with commas between them. -/
def entryLiterals : List (Data × Data) → String
  | [] => ""
  | [(key, d)] => s!"{literal key}: {literal d}"
  | (key, d) :: entries => s!"{literal key}: {literal d}, {entryLiterals entries}"

end

/-- Data as part of a text. -/
def asText : Data → Text
  | text t => t
  | path t => t
  | date d => d.text
  | clock c => c.text
  | moment m => m.text ' '
  | d => d.literal.toList

/-- Data as part of a message. -/
def string (d : Data) : String := Text.string d.asText

end Data

/-! ## Numbers of too many digits -/

/-- Whether a scalar can be written. -/
def Scalar.isWritable : Scalar → Bool
  | integer n => Number.isWritable n
  | _ => true

namespace Value

mutual

/-- Whether all numbers in a value can be written. -/
def isWritable : Value → Bool
  | scalar content _ => content.isWritable
  | sequence items _ => itemsWritable items
  | mapping fields => fieldsWritable fields

/-- Whether all numbers in items can be written. -/
def itemsWritable : List Value → Bool
  | [] => true
  | v :: vs => v.isWritable && itemsWritable vs

/-- Whether all numbers in fields can be written. -/
def fieldsWritable : List (Text × Value) → Bool
  | [] => true
  | (_, v) :: fields => v.isWritable && fieldsWritable fields

end

end Value

namespace Data

mutual

/-- Whether all numbers in data can be written. -/
def isWritable : Data → Bool
  | integer n => Number.isWritable n
  | list items | tuple items | set items => itemsWritable items
  | mapping entries => entriesWritable entries
  | value v => v.isWritable
  | _ => true

/-- Whether all numbers in items can be written. -/
def itemsWritable : List Data → Bool
  | [] => true
  | d :: ds => d.isWritable && itemsWritable ds

/-- Whether all numbers in entries can be written. -/
def entriesWritable : List (Data × Data) → Bool
  | [] => true
  | (key, d) :: entries => key.isWritable && d.isWritable && entriesWritable entries

end

/-- Data as part of a text, unless it shows a number of too many digits. -/
def asText? (d : Data) : Except NumberFault Text :=
  if d.isWritable then .ok d.asText else .error .tooLongToWrite

theorem exists_asText?_iff {d : Data} : (∃ t, d.asText? = .ok t) ↔ d.isWritable = true := by
  unfold asText?
  split <;> simp [*]

theorem asText?_eq_error_iff {d : Data} {f : NumberFault} :
    d.asText? = .error f ↔ d.isWritable = false ∧ f = .tooLongToWrite := by
  unfold asText?
  split <;> simp [*, eq_comm]

theorem itemsWritable_append (ds ds' : List Data) :
    itemsWritable (ds ++ ds') = (itemsWritable ds && itemsWritable ds') := by
  induction ds with
  | nil => rfl
  | cons d ds ih => rw [List.cons_append, itemsWritable, itemsWritable, ih, Bool.and_assoc]

end Data

end Phrasing
