/-
# Scalars of YAML documents

The text of a scalar can be written bare, between quotes, or as a block of lines.  Inside a bare
or quoted scalar, the end of a line stands for a space and further ends of lines for themselves;
blanks around them are dropped.  A block keeps the ends of its lines, or folds those between
lines that do not start with a blank.
-/
import Phrasing.Yaml.Basic

namespace Phrasing.Yaml

/-! ## 1. Ends of lines -/

/-- The text of the end of a line. -/
def breakText (c : Char) : Char := if c.toNat = 0x85 then '\n' else c

/-- What ends of lines in a row stand for. -/
def fold : Text → Text
  | ['\n'] => [' ']
  | '\n' :: more => more
  | breaks => breaks

/-- What a run of blanks and ends of lines stands for: itself, if it stays on its line. -/
def foldGap (run : Text) : Text :=
  match run.filter isBreak with
  | [] => run
  | breaks => fold (breaks.map breakText)

/-! ## 2. Bare scalars -/

/-- The number of characters of a bare scalar on its first line, without blanks at the end.
`blanks` counts those before the text.  A colon in front of an indicator of a collection in
brackets spoils the scalar. -/
def bareLength (inFlow : Bool) : (blanks : Nat) → Text → Except Fault Nat
  | _, [] => .ok 0
  | blanks, c :: rest =>
    if isBreak c then .ok 0
    else if isBlank c then bareLength inFlow (blanks + 1) rest
    else if (c = '#' ∧ blanks ≠ 0) ∨ (c = ':' ∧ atGap rest = true) then .ok 0
    else if inFlow && isFlowIndicator c then .ok 0
    else if inFlow && c == ':' && (rest.head?.map isFlowIndicator).getD false then
      .error (.unexpected "':'")
    else return blanks + 1 + (← bareLength inFlow 0 rest)

/-- Whether a tab stands in place of the indentation, in a run of blanks and ends of lines.  The
column is not known on the first line. -/
def tabInIndent (indent : Int) : (column : Option Nat) → Text → Bool
  | _, [] => false
  | column, c :: rest =>
    if isBreak c then tabInIndent indent (some 0) rest
    else
      match column with
      | some n => (c == '\t' && (n : Int) ≤ indent) || tabInIndent indent (some (n + 1)) rest
      | none => tabInIndent indent none rest

/-- A bare scalar, whose further lines have to stand behind the column `indent`. -/
def readBare (inFlow : Bool) (indent : Int) : (tries : Nat) → Cursor → Except Fault (Text × Cursor)
  | 0, c => .ok ([], c)
  | tries + 1, c => do
    let n ← bareLength inFlow 0 c.rest
    let behind := c.skip n
    let gap := behind.rest.takeWhile isGap
    let c' := behind.skip gap.length
    if !inFlow && n ≠ 0 && tabInIndent indent none gap then throw (.unexpected "tab character")
    let continues := n ≠ 0 ∧ gap.any isBreak ∧ (inFlow ∨ indent < c'.column) ∧ !c'.atEnd ∧
      c'.rest.head? ≠ some '#'
    if continues then
      let (more, stop) ← readBare inFlow indent tries c'
      if more.isEmpty then return (c.rest.take n, behind)
      else return (c.rest.take n ++ foldGap gap ++ more, stop)
    else return (c.rest.take n, behind)

/-! ## 3. Quoted scalars -/

/-- The character that a letter after a backslash stands for. -/
def escape? (c : Char) : Option Char :=
  [('0', 0), ('a', 7), ('b', 8), ('t', 9), ('\t', 9), ('n', 10), ('v', 11), ('f', 12), ('r', 13),
    ('e', 27), (' ', 32), ('"', 34), ('/', 47), ('\\', 92), ('N', 0x85), ('_', 0xA0),
    ('L', 0x2028), ('P', 0x2029)].lookup c |>.map Char.ofNat

/-- The number of hexadecimal digits behind a letter after a backslash. -/
def escapeWidth? (c : Char) : Option Nat := [('x', 2), ('u', 4), ('U', 8)].lookup c

/-- The value of a hexadecimal digit. -/
def hexDigit? (c : Char) : Option Nat :=
  if '0' ≤ c ∧ c ≤ '9' then some (c.toNat - 48)
  else if 'a' ≤ c ∧ c ≤ 'f' then some (c.toNat - 87)
  else if 'A' ≤ c ∧ c ≤ 'F' then some (c.toNat - 55)
  else none

/-- The character of a code point in hexadecimal digits. -/
def codePoint? (ds : Text) (width : Nat) : Option Char := do
  let values ← ds.mapM hexDigit?
  let n := values.foldl (fun n d => 16 * n + d) 0
  if ds.length = width ∧ n.isValidChar then some (Char.ofNat n) else none

/-- What a backslash and the characters behind it stand for, and how many characters these
are. -/
def readEscape : Text → Except Fault (Text × Nat)
  | [] => .error (.expected "escape character")
  | c :: rest =>
    if isBreak c then
      let gap := rest.takeWhile isGap
      .ok ((gap.filter isBreak).map breakText, gap.length + 1)
    else
      match escape? c, escapeWidth? c with
      | some x, _ => .ok ([x], 1)
      | none, some width =>
        match codePoint? (rest.take width) width with
        | some x => .ok ([x], width + 1)
        | none => .error (.expected "hexadecimal number")
      | none, none => .error (.unexpected "escape character")

/-- The rest of a quoted scalar, and the place behind its closing quote. -/
def readQuoted (quote : Char) : (tries : Nat) → Cursor → Except Fault (Text × Cursor)
  | 0, _ => .error (.expected "closing quote")
  | tries + 1, c =>
    if c.atMarker then .error (.unexpected "document indicator")
    else
      match c.rest with
      | [] => .error (.expected "closing quote")
      | x :: rest =>
        if x = quote then
          if quote = '\'' ∧ rest.head? = some '\'' then do
            let (t, stop) ← readQuoted quote tries (c.skip 2)
            return ('\'' :: t, stop)
          else .ok ([], c.next)
        else if quote = '"' ∧ x = '\\' then do
          let (escaped, n) ← readEscape rest
          let (t, stop) ← readQuoted quote tries (c.skip (n + 1))
          return (escaped ++ t, stop)
        else if isGap x then do
          let gap := c.rest.takeWhile isGap
          let (t, stop) ← readQuoted quote tries (c.skip gap.length)
          return (foldGap gap ++ t, stop)
        else do
          let (t, stop) ← readQuoted quote tries c.next
          return (x :: t, stop)

/-! ## 4. Blocks -/

/-- What becomes of the ends of lines at the end of a block. -/
inductive Chomping where
  | strip
  | clip
  | keep
deriving DecidableEq, Repr

/-- The head of a block: its indentation, if it is given, and its chomping. -/
structure BlockHead where
  indent : Option Nat
  chomping : Option Chomping
deriving DecidableEq, Repr

/-- The head of a block, each part at most once, and the rest of its line. -/
def readHead (h : BlockHead) : Text → Except Fault (BlockHead × Text)
  | [] => .ok (h, [])
  | c :: rest =>
    if c = '+' ∨ c = '-' then
      if h.chomping.isSome then .error (.unexpected "chomping indicator")
      else readHead { h with chomping := some (if c = '+' then .keep else .strip) } rest
    else if '0' ≤ c ∧ c ≤ '9' then
      if h.indent.isSome ∨ c = '0' then .error (.unexpected "indentation indicator")
      else readHead { h with indent := some (c.toNat - 48) } rest
    else .ok (h, c :: rest)

/-- The line at the front of a text, the end of the line if there is one, and the rest. -/
def cutLine (t : Text) : Text × Text × Text :=
  let (line, rest) := t.span fun c => !isBreak c
  match rest with
  | [] => (line, [], [])
  | c :: rest => (line, [breakText c], rest)

/-- The indentation of a block, whose first line with more than spaces decides, but no less than
`least`.  A tab cannot stand in place of a space there. -/
def detectIndent (least : Nat) : (tries : Nat) → (most : Nat) → Text → Except Fault Nat
  | 0, most, _ => .ok (max most least)
  | tries + 1, most, t =>
    let (line, ending, rest) := cutLine t
    let spaces := (line.takeWhile (· == ' ')).length
    match line.drop spaces with
    | [] =>
      if ending.isEmpty then .ok (max (max most spaces) least)
      else detectIndent least tries (max most spaces) rest
    | '\t' :: _ => .error (.unexpected "tab character")
    | _ => .ok (max (max most spaces) least)

/-- A line of a block without its indentation, and the end of the line. -/
structure BlockLine where
  content : Text
  ending : Text
deriving DecidableEq, Repr

/-- The lines of a block at the front of a text.  A line that consists of no more spaces than
the indentation has an empty content; one with less indentation and anything else on it ends the
block. -/
def blockLines (indent : Nat) : (tries : Nat) → Text → Except Fault (List BlockLine)
  | 0, _ => .ok []
  | tries + 1, t =>
    let (line, ending, rest) := cutLine t
    let spaces := (line.takeWhile (· == ' ')).length
    match line.drop (min spaces indent) with
    | [] =>
      if ending.isEmpty then .ok []
      else return ⟨[], ending⟩ :: (← blockLines indent tries rest)
    | x :: content =>
      if indent ≤ spaces then return ⟨x :: content, ending⟩ :: (← blockLines indent tries rest)
      else if x = '\t' then .error (.unexpected "tab character")
      else .ok []

/-- Whether a line of a block starts with a blank. -/
def BlockLine.isIndented (l : BlockLine) : Bool := (l.content.head?.map isBlank).getD false

/-- What the end of a line and the empty lines after it stand for in a folded block. -/
def foldBetween (before after : BlockLine) (ending empty : Text) : Text :=
  if ending = ['\n'] ∧ !before.isIndented ∧ !after.isIndented then
    if empty.isEmpty then [' '] else empty
  else ending ++ empty

/-- The text of lines behind the line `before`, with the ends of empty lines between them, and
what is left over at the end: the end of the last line, and the ends of empty lines after
it. -/
def joinLines (folded : Bool) (before : BlockLine) (empty : Text) :
    List BlockLine → Text × Text × Text
  | [] => ([], before.ending, empty)
  | l :: ls =>
    if l.content.isEmpty then joinLines folded before (empty ++ l.ending) ls
    else
      let between :=
        if folded then foldBetween before l before.ending empty else before.ending ++ empty
      let (t, ending, left) := joinLines folded l [] ls
      (between ++ l.content ++ t, ending, left)

/-- The text of a block of lines. -/
def blockText (folded : Bool) (chomping : Chomping) (ls : List BlockLine) : Text :=
  let empty := (ls.takeWhile fun l => l.content.isEmpty).flatMap BlockLine.ending
  match ls.dropWhile fun l => l.content.isEmpty with
  | [] => if chomping = .keep then empty else []
  | l :: more =>
    let (t, ending, left) := joinLines folded l [] more
    empty ++ l.content ++ t ++
      match chomping with
      | .strip => []
      | .clip => ending
      | .keep => ending ++ left

/-- The number of characters of the lines of a block, up to the end of the last one with a
content. -/
def blockLength (indent : Nat) : (tries : Nat) → Text → (lines : List BlockLine) → Nat
  | 0, _, _ => 0
  | _, _, [] => 0
  | tries + 1, t, l :: ls =>
    let (line, _, rest) := cutLine t
    if (l :: ls).all fun l => l.content.isEmpty then 0
    else if ls.all fun l => l.content.isEmpty then line.length
    else line.length + 1 + blockLength indent tries rest ls

/-- A block behind its indicator, inside a node that stands at the column `parent`, and the
place behind the last line with a content. -/
def readBlock (folded : Bool) (parent : Int) (c : Cursor) : Except Fault (Text × Cursor) := do
  let (head, afterHead) ← readHead ⟨none, none⟩ c.rest
  let blanks := (afterHead.takeWhile isBlank).length
  let (line, ending, body) := cutLine (afterHead.drop blanks)
  if line ≠ [] ∧ line.head? ≠ some '#' then throw (.expected "comment or line break")
  let headEnd := c.skip (c.rest.length - afterHead.length + blanks + line.length)
  if ending.isEmpty then return ([], headEnd)
  let tries := body.length + 1
  let least := (max (parent + 1) 1).toNat
  let indent ←
    match head.indent with
    | some n => pure ((max parent 0).toNat + n)
    | none => detectIndent least tries 0 body
  let lines ← blockLines indent tries body
  let t := blockText folded (head.chomping.getD .clip) lines
  let n := blockLength indent tries body lines
  return (t, if n = 0 then headEnd else headEnd.skip (n + 1))

end Phrasing.Yaml
