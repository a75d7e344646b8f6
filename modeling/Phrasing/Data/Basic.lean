/-
# Data

What callers and configuration files supply: scalars, paths, dates and times, lists, tuples,
mappings with keys of any kind, byte strings and sets, and values that were made before.  A path is
a text, or the entry of a directory that was listed in bytes.

Each kind of data has a name by which messages call it.  Keys of mappings are compared as
numbers where both are numbers, so that `1`, `1.0` and the truth value are one key.
-/
import Phrasing.Value
import Phrasing.Moment

namespace Phrasing

/-- Data from outside. -/
inductive Data where
  | absent
  | truth (b : Bool)
  | integer (n : Int)
  | real (x : Binary64)
  | text (t : Text)
  | path (t : Text)
  | entry (name location : List UInt8)
  | date (d : Date)
  | clock (c : Clock)
  | moment (m : Moment)
  | list (items : List Data)
  | tuple (items : List Data)
  | mapping (entries : List (Data × Data))
  | bytes (octets : List UInt8)
  | set (items : List Data)
  | value (v : Value)

/-- Why data cannot be used. -/
inductive DataFault where
  /-- Data of this type has no value in a template. -/
  | notAValue (typeName : String)
  /-- A mapping is not rendered, so a style on it would have no meaning. -/
  | styledMapping
  /-- Data of this type cannot be a key or the member of a set. -/
  | notAKey (typeName : String)
  /-- Data of this type has no elements. -/
  | notIterable (typeName : String)
  /-- Data of this type is not a scalar. -/
  | notAScalar (typeName : String)
  /-- Data of this type is not a number. -/
  | notANumber (typeName : String)
  /-- The element at this place, of a list that should make a mapping, is not a sequence. -/
  | entryNotASequence (index : Nat)
  /-- The element at this place, of a list that should make a mapping, is not a pair. -/
  | entryNotAPair (index length : Nat)
  /-- A key that becomes a name shows a number of too many digits. -/
  | number (f : NumberFault)
deriving DecidableEq, Repr

namespace DataFault

/-- How a fault is worded. -/
def message : DataFault → String
  | notAValue typeName => s!"Cannot use value of type {typeName} in a message context"
  | styledMapping => "Mapping values cannot carry a style"
  | notAKey typeName => s!"unhashable type: '{typeName}'"
  | notIterable typeName => s!"'{typeName}' object is not iterable"
  | notAScalar typeName => s!"Unsupported scalar type: {typeName}"
  | notANumber typeName => s!"must be real number, not {typeName}"
  | entryNotASequence index =>
    s!"cannot convert dictionary update sequence element #{index} to a sequence"
  | entryNotAPair index length =>
    s!"dictionary update sequence element #{index} has length {length}; 2 is required"
  | number f => Number.describe f

end DataFault

namespace Data

/-- The name of the type of some data. -/
def typeName : Data → String
  | absent => "NoneType"
  | truth _ => "bool"
  | integer _ => "int"
  | real _ => "float"
  | text _ => "str"
  | path _ => "PurePosixPath"
  | entry .. => "DirEntry"
  | date _ => "date"
  | clock _ => "time"
  | moment _ => "datetime"
  | list _ => "list"
  | tuple _ => "tuple"
  | mapping _ => "dict"
  | bytes _ => "bytes"
  | set _ => "set"
  | value (.scalar ..) => "Scalar"
  | value (.sequence ..) => "Sequence"
  | value (.mapping ..) => "Mapping"

/-- The name of the type together with the library it belongs to, if it has one. -/
def qualifiedTypeName : Data → String
  | entry .. => "posix.DirEntry"
  | date _ => "datetime.date"
  | clock _ => "datetime.time"
  | moment _ => "datetime.datetime"
  | d => d.typeName

/-- Whether data counts as true where a yes or no is asked for: everything does but the absent
value, false, zero, and whatever is empty. -/
def isTrue : Data → Bool
  | absent => false
  | truth b => b
  | integer n => n != 0
  | real x => x.isNonzero
  | text t => !t.isEmpty
  | list items | tuple items | set items => !items.isEmpty
  | mapping entries => !entries.isEmpty
  | bytes octets => !octets.isEmpty
  | value (.sequence items _) => !items.isEmpty
  | path _ | entry .. | date _ | clock _ | moment _ | value _ => true

/-- The number that data counts as in comparisons. -/
def asNumber? : Data → Option (Int ⊕ Binary64)
  | truth b => some (.inl (if b then 1 else 0))
  | integer n => some (.inl n)
  | real x => some (.inr x)
  | _ => none

mutual

/-- Whether two keys are one: the same number, or the same data of one kind. -/
def same : (a b : Data) → Bool
  | absent, absent => true
  | text s, text t => s == t
  | path s, path t => s == t
  | entry _ s, entry _ t => s == t
  | date x, date y => x == y
  | clock x, clock y => x == y
  | moment x, moment y => x.same y
  | tuple xs, tuple ys => sameItems xs ys
  | bytes xs, bytes ys => xs == ys
  | value x, value y => x.same y
  | a, b =>
    match a.asNumber?, b.asNumber? with
    | some x, some y => sameNumber x y
    | _, _ => false

/-- The same items, one by one. -/
def sameItems : (xs ys : List Data) → Bool
  | [], [] => true
  | x :: xs, y :: ys => same x y && sameItems xs ys
  | _, _ => false

end

mutual

/-- The part of some data that keeps it from being a key, if there is one. -/
def notKey? : Data → Option String
  | list _ => some "list"
  | mapping _ => some "dict"
  | set _ => some "set"
  | tuple items => notKeyIn? items
  | _ => none

/-- The first part of a list that keeps a tuple from being a key. -/
def notKeyIn? : List Data → Option String
  | [] => none
  | d :: ds =>
    match notKey? d with
    | some name => some name
    | none => notKeyIn? ds

end

/-- Sets a key: a key that is there already keeps its place and its spelling. -/
def setEntry (key datum : Data) : List (Data × Data) → List (Data × Data)
  | [] => [(key, datum)]
  | (k, d) :: rest => if same k key then (k, datum) :: rest else (k, d) :: setEntry key datum rest

/-- Adds an item to a set, unless it is there already. -/
def addItem (item : Data) (items : List Data) : List Data :=
  if items.any (same · item) then items else items ++ [item]

/-- Refuses data that cannot be a key. -/
def checkKey (key : Data) : Except DataFault Unit :=
  match notKey? key with
  | some name => .error (.notAKey name)
  | none => .ok ()

/-- The mapping with the given entries, of which a later one replaces an earlier one with the
same key. -/
def mappingOf (entries : List (Data × Data)) : Except DataFault Data := do
  for (key, _) in entries do checkKey key
  return mapping (entries.foldl (fun es entry => setEntry entry.1 entry.2 es) [])

/-- The set with the given items. -/
def setOf (items : List Data) : Except DataFault Data := do
  for item in items do checkKey item
  return set (items.foldl (fun is item => addItem item is) [])

/-- A scalar as data. -/
def ofScalar : Scalar → Data
  | .absent => absent
  | .truth b => truth b
  | .integer n => integer n
  | .real x => real x
  | .text t => text t
  | .bytes octets => bytes octets

/-- The elements of data that can be gone through: a text has its characters, a mapping its
keys. -/
def elements : Data → Except DataFault (List Data)
  | list items | tuple items | set items => .ok items
  | text t => .ok (t.map fun c => text [c])
  | mapping entries => .ok (entries.map Prod.fst)
  | bytes octets => .ok (octets.map fun o => integer o.toNat)
  | value (.sequence items _) => .ok (items.map value)
  | d => .error (.notIterable d.qualifiedTypeName)

/-- What an entry of a mapping with a text for its key stands for. -/
def field? (name : Text) : List (Data × Data) → Option Data
  | [] => none
  | (key, d) :: rest =>
    match key with
    | text t => if t = name then some d else field? name rest
    | _ => field? name rest

end Data

end Phrasing
