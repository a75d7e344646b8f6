/-
# From data to values

Scalars keep their content; paths, dates and times become the texts that stand for them, or the byte
string in the case of a path that is given in bytes; lists
and tuples become sequences; mappings become mappings whose field names are the texts of the
keys, a later entry replacing an earlier one with the same text.  Byte strings and sets have no
value, and keys with numbers of too many digits no text.
-/
import Phrasing.Data.Literal

namespace Phrasing

namespace Value

mutual

/-- The value of some data. -/
def ofData : Data → Except DataFault Value
  | .value v => .ok v
  | .absent => .ok (scalar .absent none)
  | .truth b => .ok (scalar (.truth b) none)
  | .integer n => .ok (scalar (.integer n) none)
  | .real x => .ok (scalar (.real x) none)
  | .text t => .ok (scalar (.text t) none)
  | .path t => .ok (scalar (.text t) none)
  | .entry _ location => .ok (scalar (.bytes location) none)
  | .date d => .ok (scalar (.text d.text) none)
  | .clock c => .ok (scalar (.text c.text) none)
  | .moment m => .ok (scalar (.text (m.text 'T')) none)
  | .list items => return sequence (← ofItems items) none
  | .tuple items => return sequence (← ofItems items) none
  | .mapping entries => return mapping (← ofEntries [] entries)
  | .bytes _ => .error (.notAValue "bytes")
  | .set _ => .error (.notAValue "set")

/-- The values of items, in order. -/
def ofItems : List Data → Except DataFault (List Value)
  | [] => .ok []
  | d :: ds => return (← ofData d) :: (← ofItems ds)

/-- The fields that entries add to those before them. -/
def ofEntries (before : Named Value) : List (Data × Data) → Except DataFault (Named Value)
  | [] => .ok before
  | (key, d) :: entries => do
    let name ← key.asText?.mapError .number
    let v ← ofData d
    ofEntries (Named.set name v before) entries

end

/-- The value of some data under a style, which replaces a style it has. -/
def styled (d : Data) (style : Option Text) : Except DataFault Value := do
  match ← ofData d with
  | scalar content _ => return scalar content style
  | sequence items _ => return sequence items style
  | mapping _ => throw .styledMapping

end Value

end Phrasing
