/-
# The data of YAML documents

Every node stands for data: by its tag, or by its kind and what it looks like.  The keys of a
mapping differ from each other; a list that is a key becomes a tuple.  The entries of merged
mappings come before those of the mapping itself, which replace them; of several merged
mappings, the first wins.
-/
import Phrasing.Yaml.Plain
import Phrasing.Yaml.Read

namespace Phrasing.Yaml

/-! ## 1. Bytes -/

/-- The value of a character in text-encoded bytes. -/
def sextet? (c : Char) : Option Nat :=
  if 'A' ≤ c ∧ c ≤ 'Z' then some (c.toNat - 65)
  else if 'a' ≤ c ∧ c ≤ 'z' then some (c.toNat - 71)
  else if '0' ≤ c ∧ c ≤ '9' then some (c.toNat + 4)
  else if c = '+' then some 62
  else if c = '/' then some 63
  else none

/-- The values of text-encoded bytes up to the padding that ends them, which is enough of it to
fill a group of four; other characters are skipped.  `count` is the number of values so far in
the group, `pads` that of paddings in a row. -/
def sextets : (count pads : Nat) → Text → Option (List Nat)
  | count, _, [] => if count = 0 then some [] else none
  | count, pads, c :: rest =>
    if c = '=' then
      if 2 ≤ count ∧ 4 ≤ count + pads + 1 then some []
      else sextets count (if 2 ≤ count then pads + 1 else pads) rest
    else
      match sextet? c with
      | none => sextets count pads rest
      | some n => (sextets ((count + 1) % 4) 0 rest).map (n :: ·)

/-- The bytes of values in groups of four; the last group may lack one or two. -/
def octetsOf : List Nat → List UInt8
  | a :: b :: c :: d :: rest =>
    UInt8.ofNat (a * 4 + b / 16) :: UInt8.ofNat (b % 16 * 16 + c / 4) ::
      UInt8.ofNat (c % 4 * 64 + d) :: octetsOf rest
  | [a, b, c] => [UInt8.ofNat (a * 4 + b / 16), UInt8.ofNat (b % 16 * 16 + c / 4)]
  | [a, b] => [UInt8.ofNat (a * 4 + b / 16)]
  | _ => []

/-- The bytes that a text encodes. -/
def decodeOctets? (t : Text) : Option (List UInt8) :=
  if t.all fun c => c.toNat < 128 then (sextets 0 0 t).map octetsOf else none

/-! ## 2. Scalars -/

/-- The truth value that a word stands for where one is required. -/
def truthWord? (t : Text) : Option Bool :=
  let word := t.map Char.toLower
  if isOneOf ["yes", "y", "true", "on"] word then some true
  else if isOneOf ["no", "n", "false", "off"] word then some false
  else none

/-- The data of a scalar with a standard tag. -/
def taggedScalar (name t : Text) : Except Fault Data :=
  if name = "str".toList then .ok (.text t)
  else if name = "null".toList then .ok .absent
  else if name = "bool".toList then
    match truthWord? t with
    | some b => .ok (.truth b)
    | none => .error (.malformed "bool")
  else if name = "int".toList then return .integer (← integerData t)
  else if name = "float".toList then return .real (← realData t)
  else if name = "binary".toList then
    match decodeOctets? t with
    | some octets => .ok (.bytes octets)
    | none => .error (.malformed "binary")
  else if name = "timestamp".toList then
    match readTime? t with
    | some p => timeData p
    | none => .error (.malformed "timestamp")
  else .error .unknownTag

/-- The data of a scalar. -/
def scalarData (tag : Tag) (bare : Bool) (t : Text) : Except Fault Data :=
  match tag with
  | .none => if bare then plainData t else .ok (.text t)
  | .plain => .ok (.text t)
  | .standard name => taggedScalar name t
  | .custom _ => .error .unknownTag

/-! ## 3. Mappings -/

/-- Whether a node is the key under which mappings are merged. -/
def isMergeKey : Node → Bool
  | .scalar .none true t => t = ['<', '<']
  | .scalar (.standard name) _ _ => name = "merge".toList
  | _ => false

/-- Data as a key. -/
def keyOf : Data → Except Fault Data
  | .list items => if (Data.notKeyIn? items).isSome then .error .notAKey else .ok (.tuple items)
  | d => if (Data.notKey? d).isSome then .error .notAKey else .ok d

/-- The entries that a merge of some data adds. -/
def mergedEntries : Data → Except Fault (List (Data × Data))
  | .mapping entries => .ok entries
  | .list items => do
    let entries ← items.mapM fun item =>
      match item with
      | .mapping entries => .ok entries
      | _ => .error .notAMerge
    return entries.reverse.flatten
  | _ => .error .notAMerge

/-- An entry of a mapping: one of its own, or the entries that it merges. -/
inductive Entry where
  | own (key datum : Data)
  | merge (entries : List (Data × Data))

/-- The mapping of its entries. -/
def mappingData (entries : List Entry) : Except Fault Data := do
  let merged := entries.flatMap fun e => match e with
    | .merge es => es
    | .own .. => []
  let own := entries.filterMap fun e => match e with
    | .merge _ => none
    | .own key d => some (key, d)
  let merges := (entries.filter fun e => e matches .merge _).length
  let build := fun es (entry : Data × Data) => Data.setEntry entry.1 entry.2 es
  let distinct := own.foldl build []
  if 1 < merges ∨ (merges = 0 ∧ distinct.length ≠ own.length) then throw .duplicateKey
  return .mapping (own.foldl build (merged.foldl build []))

mutual

/-- The data of a node. -/
def toData : Node → Except Fault Data
  | .scalar tag bare t => scalarData tag bare t
  | .sequence tag items =>
    match tag with
    | .none | .plain => return .list (← itemsData items)
    | .standard name =>
      if name = "seq".toList then return .list (← itemsData items) else .error .unknownTag
    | .custom _ => .error .unknownTag
  | .mapping tag entries =>
    match tag with
    | .none | .plain => do mappingData (← entriesData entries)
    | .standard name =>
      if name = "map".toList then do mappingData (← entriesData entries)
      else if name = "set".toList then do
        match ← mappingData (← entriesData entries) with
        | .mapping es => return .set (es.map Prod.fst)
        | d => return d
      else .error .unknownTag
    | .custom _ => .error .unknownTag

/-- The data of items. -/
def itemsData : List Node → Except Fault (List Data)
  | [] => .ok []
  | n :: ns => return (← toData n) :: (← itemsData ns)

/-- The data of entries. -/
def entriesData : List (Node × Node) → Except Fault (List Entry)
  | [] => .ok []
  | (key, n) :: entries => do
    if isMergeKey key then
      let merged ← mergedEntries (← toData n)
      return .merge merged :: (← entriesData entries)
    else
      let k ← match key with
        | .scalar .none true ['='] => .ok (.text ['='])
        | key => toData key
      let k ← keyOf k
      return .own k (← toData n) :: (← entriesData entries)

end

/-- The data of the document in a text; an empty document stands for absent data. -/
def read (t : Text) : Except Fault Data := do
  match ← readDocument t with
  | none => return .absent
  | some n => toData n

end Phrasing.Yaml
