/-
# Contexts

A context says what the names of a template stand for.  It is made from data with keys of any
kind, whose texts become the names.

When explicit values are given beside the data, they are merged with it before any key becomes
a name: an explicit value takes the place of an entry with the same key.
-/
import Phrasing.Data.Conversion
import Phrasing.Text.Order

namespace Phrasing

/-- What the names of a template stand for. -/
structure Context where
  values : Named Value

namespace Context

/-- The context without names. -/
def empty : Context := ⟨[]⟩

/-- What a name stands for. -/
def find? (c : Context) (name : Text) : Option Value := Named.find? name c.values

/-- The names in code-point order. -/
def sortedNames (c : Context) : List Text := Text.sort (Named.names c.values)

/-- The values that entries add to those before them.  A value is looked at before its name. -/
def addEntries (before : Named Value) : List (Data × Data) → Except DataFault (Named Value)
  | [] => .ok before
  | (key, d) :: entries => do
    let v ← Value.ofData d
    let name ← key.asText?.mapError .number
    addEntries (Named.set name v before) entries

/-- The context of some entries. -/
def ofEntries (entries : List (Data × Data)) : Except DataFault Context :=
  return ⟨← addEntries [] entries⟩

/-- The entry that the element number `index` of a list makes, which has to be a pair. -/
def pairAt (index : Nat) (d : Data) : Except DataFault (Data × Data) :=
  match d.elements with
  | .error _ => .error (.entryNotASequence index)
  | .ok [key, datum] => do
    key.checkKey
    return (key, datum)
  | .ok items => .error (.entryNotAPair index items.length)

/-- The entries that data offers: those of a mapping, none of data that counts as false, and
the pairs of any other data that can be gone through. -/
def entriesOf (d : Data) : Except DataFault (List (Data × Data)) :=
  match d with
  | .mapping entries => .ok entries
  | d =>
    if d.isTrue then do
      let items ← d.elements
      let pairs ← (items.zipIdx).mapM fun (item, index) => pairAt index item
      return pairs.foldl (fun es entry => Data.setEntry entry.1 entry.2 es) []
    else .ok []

/-- The context of some data and explicit values. -/
def ofData (d : Data) (explicit : List (Data × Data)) : Except DataFault Context := do
  let entries ← entriesOf d
  ofEntries (explicit.foldl (fun es entry => Data.setEntry entry.1 entry.2 es) entries)

/-- A context by its names and values. -/
def literal (c : Context) : String := s!"Context(\x7b{Value.fieldLiterals c.values}\x7d)"

end Context

end Phrasing
