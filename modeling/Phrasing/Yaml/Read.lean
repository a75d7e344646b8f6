/-
# Reading YAML documents

Outside brackets, indentation tells which lines belong together.  A node stands behind the column
of the node around it; the entries of a sequence and the keys of a mapping stand at one column.
A sequence that is the value of a key may also stand at the column of the key.

A sequence or a mapping may start where a line starts, or behind the indicator of an entry or of
a written-out key, but not behind a key on its line.  A key fits on one line and is not too long.

Readers count down the tries they have left; a text of `n` characters is read with a fixed
multiple of `n`.
-/
import Phrasing.Named
import Phrasing.Yaml.Scalar

namespace Phrasing.Yaml

/-- The nodes that have been given names. -/
abbrev Anchors := Named Node

/-- A reader of nodes. -/
abbrev Reader := StateT Anchors (Except Fault)

/-- The greatest distance between the start of a key and the colon behind it. -/
def keyLimit : Nat := 1024

/-! ## 1. Properties -/

/-- The name and the tag in front of a node. -/
structure Properties where
  anchor : Option Text
  tag : Tag
deriving DecidableEq, Repr

namespace Properties

/-- A node without properties. -/
def none : Properties := ⟨.none, .none⟩

/-- A character of the name of a node. -/
def isNameChar (c : Char) : Bool :=
  ('A' ≤ c && c ≤ 'Z') || ('a' ≤ c && c ≤ 'z') || ('0' ≤ c && c ≤ '9') || c == '-' || c == '_'

/-- The name of a node behind its indicator, and the place behind it. -/
def readName (c : Cursor) : Except Fault (Text × Cursor) :=
  let name := c.rest.takeWhile isNameChar
  let stop := c.skip name.length
  if name.isEmpty then .error (.expected "alphabetic or numeric character")
  else if atGap stop.rest || (stop.rest.head?.map isFlowIndicator).getD false ||
      stop.rest.head? = some ':' then .ok (name, stop)
  else .error (.expected "alphabetic or numeric character")

/-- The characters of standard tags, written out. -/
def standardHead : Text := "tag:yaml.org,2002:".toList

/-- The tag that a text names. -/
def tagOf (t : Text) : Tag :=
  match t with
  | ['!'] => .plain
  | '!' :: '!' :: name => .standard name
  | t =>
    match Text.dropPrefix? ("!<".toList ++ standardHead) t with
    | some name => if name.getLast? = some '>' then .standard name.dropLast else .custom t
    | Option.none => .custom t

/-- A tag with its indicator, and the place behind it. -/
def readTag (inFlow : Bool) (c : Cursor) : Except Fault (Tag × Cursor) :=
  let verbatim := c.rest.take 2 = ['!', '<']
  let t :=
    c.rest.takeWhile fun x => !isGap x && (verbatim || !inFlow || !isFlowIndicator x)
  .ok (tagOf t, c.skip t.length)

/-- The properties in front of a node, each at most once, and the place behind them. -/
def read (inFlow : Bool) : (tries : Nat) → Properties → Cursor →
    Except Fault (Properties × Cursor)
  | 0, p, c => .ok (p, c)
  | tries + 1, p, c =>
    match c.rest with
    | '&' :: _ => do
      if p.anchor.isSome then throw (.unexpected "anchor")
      let (name, stop) ← readName c.next
      read inFlow tries { p with anchor := some name } stop.behindBlanks
    | '!' :: _ => do
      if p.tag ≠ .none then throw (.unexpected "tag")
      let (tag, stop) ← readTag inFlow c
      read inFlow tries { p with tag := tag } stop.behindBlanks
    | _ => .ok (p, c)

end Properties

/-- A node with a tag, if it does not have one. -/
def Node.withTag (tag : Tag) : Node → Node
  | .scalar .none bare t => .scalar tag bare t
  | .sequence .none items => .sequence tag items
  | .mapping .none entries => .mapping tag entries
  | n => n

/-- A node with its properties; if it has a name, the name stands for it from here on. -/
def applyProperties (p : Properties) (n : Node) : Reader Node := do
  let n := n.withTag p.tag
  match p.anchor with
  | some name => modify (Named.set name n)
  | none => pure ()
  return n

/-! ## 2. Tokens -/

/-- A character that no bare scalar starts with, unless the next one allows it. -/
def isIndicator (c : Char) : Bool := "-?:,[]{}#&*!|>'\"%@`".toList.contains c

/-- Whether a bare scalar starts here. -/
def startsBare (inFlow : Bool) : Text → Bool
  | [] => false
  | c :: rest =>
    if isGap c then false
    else if !isIndicator c then true
    else (c == '-' || (!inFlow && (c == '?' || c == ':'))) && !atGap rest

/-- The place behind the colon of a key that starts at `start` and ends at `stop`, if there is
one; outside brackets a gap has to follow the colon.  The key must not be too long or on more
than one line. -/
def colonAfter? (inFlow : Bool) (start stop : Cursor) : Except Fault (Option Cursor) :=
  let c := if inFlow then stop.toFlowToken else stop.behindBlanks
  if c.rest.head? = some ':' ∧ (inFlow ∨ c.atIndicator ':') then
    if c.line = start.line ∧ c.offset - start.offset ≤ keyLimit then .ok (some c.next)
    else .error (.unexpected "':'")
  else .ok none

/-- The node that a name stands for, and the place behind the name. -/
def readAlias (c : Cursor) : Reader (Node × Cursor) := do
  let (name, stop) ← (Properties.readName c.next : Except Fault (Text × Cursor))
  match Named.find? name (← get) with
  | some n => return (n, stop)
  | none => throw (.undefinedAlias name)

/-- A scalar that is not a block, and the place behind it. -/
def readScalar (inFlow : Bool) (parent : Int) (c : Cursor) : Except Fault (Node × Cursor) :=
  let tries := c.rest.length + 1
  match c.rest with
  | '\'' :: _ => return (← readQuoted '\'' tries c.next).map (.scalar .none false) id
  | '"' :: _ => return (← readQuoted '"' tries c.next).map (.scalar .none false) id
  | t =>
    if startsBare inFlow t then
      return (← readBare inFlow parent tries c).map (.scalar .none true) id
    else .error (.unexpected "character")

/-! ## 3. Collections in brackets -/

mutual

/-- A node in brackets, and the place behind it.  Nothing may be written where the node should
be, if it has properties. -/
def readFlowNode : (tries : Nat) → Cursor → Reader (Node × Cursor)
  | 0, _ => throw (.expected "node content")
  | tries + 1, c => do
    let (p, c') ← (Properties.read true 3 .none c : Except Fault (Properties × Cursor))
    let c' := c'.toFlowToken
    let (n, stop) ←
      match c'.rest with
      | '*' :: _ => readAlias c'
      | '[' :: _ => readFlowSequence tries c'.next
      | '\x7b' :: _ => readFlowMapping tries c'.next
      | t =>
        if p ≠ .none ∧ (t.head?.map fun x => isFlowIndicator x || x == ':').getD false then
          pure (Node.empty, c')
        else if c'.atMarker then throw (.unexpected "document indicator")
        else (readScalar true 0 c' : Except Fault (Node × Cursor))
    return (← applyProperties p n, stop)

/-- A value in brackets behind its colon: nothing in front of a comma or a closing bracket. -/
def readFlowValue : (tries : Nat) → Cursor → Reader (Node × Cursor)
  | 0, _ => throw (.expected "node content")
  | tries + 1, c => do
    let c := c.toFlowToken
    match c.rest with
    | ',' :: _ | ']' :: _ | '\x7d' :: _ => return (Node.empty, c)
    | _ => readFlowNode tries c

/-- An entry in brackets: a key with its value, if there is a colon, and the place behind it. -/
def readFlowEntry : (tries : Nat) → Cursor → Reader (Node × Option Node × Cursor)
  | 0, _ => throw (.expected "node content")
  | tries + 1, c => do
    if c.atIndicator '?' then
      let behind := c.next.toFlowToken
      let (key, stop) ←
        if behind.rest.head? = some ':' then pure (Node.empty, behind)
        else readFlowValue tries behind
      let c' := stop.toFlowToken
      if c'.rest.head? = some ':' then
        let (n, stop) ← readFlowValue tries c'.next
        return (key, some n, stop)
      else return (key, some Node.empty, stop)
    else
      let (key, stop) ← readFlowNode tries c
      match ← (colonAfter? true c stop : Except Fault (Option Cursor)) with
      | some c' =>
        let (n, stop) ← readFlowValue tries c'
        return (key, some n, stop)
      | none => return (key, none, stop)

/-- The rest of a sequence in brackets, and the place behind it. -/
def readFlowSequence : (tries : Nat) → Cursor → Reader (Node × Cursor)
  | 0, _ => throw (.expected "']'")
  | tries + 1, c => do
    let (items, stop) ← readFlowItems tries c
    return (.sequence .none items, stop)

/-- The items of a sequence in brackets.  A key with a value is a mapping of its own. -/
def readFlowItems : (tries : Nat) → Cursor → Reader (List Node × Cursor)
  | 0, _ => throw (.expected "']'")
  | tries + 1, c => do
    let c := c.toFlowToken
    match c.rest with
    | ']' :: _ => return ([], c.next)
    | _ =>
      let (key, value, stop) ← readFlowEntry tries c
      let item := match value with
        | some n => Node.mapping .none [(key, n)]
        | none => key
      let c := stop.toFlowToken
      match c.rest with
      | ']' :: _ => return ([item], c.next)
      | ',' :: _ =>
        let (items, stop) ← readFlowItems tries c.next
        return (item :: items, stop)
      | _ => throw (.expected "',' or ']'")

/-- The rest of a mapping in brackets, and the place behind it. -/
def readFlowMapping : (tries : Nat) → Cursor → Reader (Node × Cursor)
  | 0, _ => throw (.expected "'\x7d'")
  | tries + 1, c => do
    let (entries, stop) ← readFlowEntries tries c
    return (.mapping .none entries, stop)

/-- The entries of a mapping in brackets.  A key without a colon stands for nothing. -/
def readFlowEntries : (tries : Nat) → Cursor → Reader (List (Node × Node) × Cursor)
  | 0, _ => throw (.expected "'\x7d'")
  | tries + 1, c => do
    let c := c.toFlowToken
    match c.rest with
    | '\x7d' :: _ => return ([], c.next)
    | _ =>
      let (key, value, stop) ← readFlowEntry tries c
      let entry := (key, value.getD Node.empty)
      let c := stop.toFlowToken
      match c.rest with
      | '\x7d' :: _ => return ([entry], c.next)
      | ',' :: _ =>
        let (entries, stop) ← readFlowEntries tries c.next
        return (entry :: entries, stop)
      | _ => throw (.expected "',' or '\x7d'")

end

/-! ## 4. Blocks -/

/-- A node on its line, or a block of lines, without properties, and the place behind it. -/
def readInline (parent : Int) (c : Cursor) : Reader (Node × Cursor) :=
  let tries := 8 * c.rest.length + 8
  let readLines (folded : Bool) : Except Fault (Node × Cursor) :=
    return (← readBlock folded parent c.next).map (.scalar .none false) id
  match c.rest with
  | '*' :: _ => readAlias c
  | '[' :: _ => readFlowSequence tries c.next
  | '\x7b' :: _ => readFlowMapping tries c.next
  | '|' :: _ => readLines false
  | '>' :: _ => readLines true
  | _ => (readScalar false parent c : Except Fault (Node × Cursor))

/-- A key of a mapping at the column `column`, and the place behind its colon. -/
def readKey (column : Nat) (c : Cursor) : Reader (Node × Cursor) := do
  let (p, c') ← (Properties.read false 3 .none c : Except Fault (Properties × Cursor))
  let (n, stop) ←
    if p ≠ .none ∧ c'.atIndicator ':' then pure (Node.empty, c')
    else if c'.atIndicator '-' ∨ c'.atIndicator '?' then throw (.expected "key")
    else readInline column c'
  let n ← applyProperties p n
  match ← (colonAfter? false c stop : Except Fault (Option Cursor)) with
  | some c' => return (n, c')
  | none => throw (.expected "':'")

mutual

/-- A node behind the column `parent`, and the place behind it.  `fresh` tells whether a block
may start here, and `hanging` whether a sequence may stand at the column itself. -/
def readNode : (tries : Nat) → (parent : Int) → (fresh hanging : Bool) → Cursor →
    Reader (Node × Cursor)
  | 0, _, _, _, _ => throw (.expected "node content")
  | tries + 1, parent, fresh, hanging, c => do
    let (c', fresh') := c.toToken fresh
    if c'.atEnd then return (Node.empty, c)
    else if (c'.column : Int) ≤ parent then
      if hanging ∧ (c'.column : Int) = parent ∧ c'.atIndicator '-' then
        readSequence tries c'.column true c'
      else return (Node.empty, c)
    else if c'.atIndicator '-' then
      if fresh' then readSequence tries c'.column false c'
      else throw (.unexpected "sequence entry")
    else if c'.atIndicator '?' then
      if fresh' then readMapping tries c'.column c' else throw (.unexpected "mapping key")
    else readContent tries parent fresh' hanging c'

/-- A node that starts with its properties or its text: a scalar, a collection in brackets, or a
mapping whose first key this is. -/
def readContent : (tries : Nat) → (parent : Int) → (fresh hanging : Bool) → Cursor →
    Reader (Node × Cursor)
  | 0, _, _, _, _ => throw (.expected "node content")
  | tries + 1, parent, fresh, hanging, c => do
    let (p, c') ← (Properties.read false 3 .none c : Except Fault (Properties × Cursor))
    let (next, _) := c'.toToken false
    if p ≠ .none ∧ (next.line ≠ c.line ∨ next.atEnd) then
      let (n, stop) ← readNode tries parent fresh hanging c'
      return (← applyProperties p n, stop)
    else
      let before ← get
      let (n, stop) ←
        if p ≠ .none ∧ c'.atIndicator ':' then pure (Node.empty, c')
        else if c'.atIndicator '-' ∨ c'.atIndicator '?' then throw (.unexpected "block")
        else readInline parent c'
      match ← (colonAfter? false c stop : Except Fault (Option Cursor)) with
      | none => return (← applyProperties p n, stop)
      | some _ =>
        if fresh then
          set before
          readMapping tries c.column c
        else throw (.unexpected "mapping value")

/-- The entries of a sequence at the column `column`.  A hanging sequence ends where another key
of the mapping around it starts. -/
def readItems : (tries : Nat) → (column : Nat) → (hanging : Bool) → Cursor →
    Reader (List Node × Cursor)
  | 0, _, _, _ => throw (.expected "block end")
  | tries + 1, column, hanging, c => do
    let (n, stop) ← readNode tries column true false c.next
    let (next, _) := stop.toToken false
    if next.atEnd ∨ next.column < column then return ([n], stop)
    else if next.column = column ∧ next.atIndicator '-' then
      let (ns, stop) ← readItems tries column hanging next
      return (n :: ns, stop)
    else if next.column = column ∧ hanging then return ([n], stop)
    else throw (.expected "block end")

/-- A sequence of entries. -/
def readSequence : (tries : Nat) → (column : Nat) → (hanging : Bool) → Cursor →
    Reader (Node × Cursor)
  | 0, _, _, _ => throw (.expected "block end")
  | tries + 1, column, hanging, c => do
    let (items, stop) ← readItems tries column hanging c
    return (.sequence .none items, stop)

/-- An entry of a mapping at the column `column`, and the place behind it. -/
def readEntry : (tries : Nat) → (column : Nat) → Cursor → Reader ((Node × Node) × Cursor)
  | 0, _, _ => throw (.expected "key")
  | tries + 1, column, c => do
    if c.atIndicator '?' then
      let (key, stop) ← readNode tries column true true c.next
      let (next, _) := stop.toToken false
      if next.column = column ∧ next.atIndicator ':' ∧ !next.atEnd then
        let (n, stop) ← readNode tries column true true next.next
        return ((key, n), stop)
      else return ((key, Node.empty), stop)
    else
      let (key, c') ← readKey column c
      let (n, stop) ← readNode tries column false true c'
      return ((key, n), stop)

/-- The entries of a mapping at the column `column`. -/
def readEntries : (tries : Nat) → (column : Nat) → Cursor →
    Reader (List (Node × Node) × Cursor)
  | 0, _, _ => throw (.expected "block end")
  | tries + 1, column, c => do
    let (entry, stop) ← readEntry tries column c
    let (next, _) := stop.toToken false
    if next.atEnd ∨ next.column < column then return ([entry], stop)
    else if next.column = column then
      let (entries, stop) ← readEntries tries column next
      return (entry :: entries, stop)
    else throw (.expected "block end")

/-- A mapping of entries. -/
def readMapping : (tries : Nat) → (column : Nat) → Cursor → Reader (Node × Cursor)
  | 0, _, _ => throw (.expected "block end")
  | tries + 1, column, c => do
    let (entries, stop) ← readEntries tries column c
    return (.mapping .none entries, stop)

end

/-! ## 5. Documents -/

/-- The place behind directives, which fill lines that start with a percent sign. -/
def behindDirectives : (tries : Nat) → Cursor → Cursor
  | 0, c => c
  | tries + 1, c =>
    let next := (c.toToken true).1
    if next.column = 0 ∧ next.rest.head? = some '%' then
      behindDirectives tries (next.skip (next.rest.takeWhile fun x => !isBreak x).length)
    else c

/-- Refuses anything behind the document, but marks of its end. -/
def checkFinished : (tries : Nat) → Cursor → Except Fault Unit
  | 0, _ => .ok ()
  | tries + 1, c =>
    let next := (c.toToken false).1
    if next.rest.isEmpty then .ok ()
    else if next.atMarker ∧ next.rest.head? = some '.' then checkFinished tries (next.skip 3)
    else .error (.expected "document start")

/-- The document in a text; `none` if there is nothing in it. -/
def readDocument (t : Text) : Except Fault (Option Node) := do
  let t := match t with
    | '\ufeff' :: rest => rest
    | t => t
  if let some c := t.find? fun c => !isAcceptable c then throw (.character c)
  let start := Cursor.start t
  let c := behindDirectives t.length start
  let next := (c.toToken true).1
  let opened := next.atMarker ∧ next.rest.head? = some '-'
  if c.offset ≠ start.offset ∧ ¬opened then throw (.expected "document start")
  if next.rest.isEmpty then return none
  let (n, stop) ←
    if opened then (readNode (8 * t.length + 8) (-1) false false (next.skip 3)).run' []
    else (readNode (8 * t.length + 8) (-1) true false c).run' []
  checkFinished (t.length + 1) stop
  return some n

end Phrasing.Yaml
