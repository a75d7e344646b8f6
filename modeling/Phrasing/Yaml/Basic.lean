/-
# YAML documents

A document is a tree of nodes: scalars, sequences and mappings, each of which may carry a tag
that says what it is.  Reading goes through a text with a cursor, which knows the line and
column it is at, because indentation decides what belongs together.

Lines end at line feeds and at the line and paragraph separators beyond ASCII.
-/
import Phrasing.Moment

namespace Phrasing.Yaml

/-! ## 1. Nodes -/

/-- What a node is said to be. -/
inductive Tag where
  /-- Nothing is said. -/
  | none
  /-- Not to be guessed from its text. -/
  | plain
  /-- Of a standard kind. -/
  | standard (name : Text)
  /-- Of a kind of its own. -/
  | custom (name : Text)
deriving DecidableEq, Repr

/-- A node.  A scalar is bare if it was written without quotes and not as a block. -/
inductive Node where
  | scalar (tag : Tag) (bare : Bool) (text : Text)
  | sequence (tag : Tag) (items : List Node)
  | mapping (tag : Tag) (entries : List (Node × Node))

/-- The node where nothing is written. -/
def Node.empty : Node := .scalar .none true []

/-! ## 2. Faults -/

/-- Why a text is no document, or a document does not stand for data. -/
inductive Fault where
  /-- Characters that no document has. -/
  | character (c : Char)
  /-- Something else is needed here. -/
  | expected (what : String)
  /-- Something cannot stand here. -/
  | unexpected (what : String)
  | undefinedAlias (name : Text)
  | unknownTag
  | duplicateKey
  | notAKey
  | notAMerge
  /-- The text of a scalar does not fit its tag. -/
  | malformed (tag : String)
  /-- The numbers of a date or time do not make one. -/
  | calendar (f : CalendarFault)
  /-- A moment is before the first or after the last year when its zone is taken off. -/
  | calendarRange
  /-- A number cannot be read. -/
  | number (f : NumberFault)
  /-- The text of a number in this base has no digits. -/
  | noDigits (base : Nat)
  /-- The text of a floating-point number has no digits. -/
  | noReal (text : Text)
deriving DecidableEq, Repr

/-- How a fault is worded. -/
def Fault.message : Fault → String
  | .character c => s!"unacceptable character {Text.quoted [c]}"
  | .expected what => s!"did not find expected {what}"
  | .unexpected what => s!"found unexpected {what}"
  | .undefinedAlias name => s!"found undefined alias {Text.quoted name}"
  | .unknownTag => "could not determine a constructor for the tag"
  | .duplicateKey => "found duplicate key"
  | .notAKey => "found unhashable key"
  | .notAMerge => "expected a mapping or list of mappings for merging"
  | .malformed tag => s!"failed to construct {tag}"
  | .calendar f => f.message
  | .calendarRange => "date value out of range"
  | .number f => Number.describe f
  | .noDigits base => s!"invalid literal for int() with base {base}: ''"
  | .noReal t => s!"could not convert string to float: {Text.quoted t}"

/-- Whether a fault is one of the document, and not of a date or number in it. -/
def Fault.isOfDocument : Fault → Bool
  | .calendar _ | .calendarRange | .number _ | .noDigits _ | .noReal _ => false
  | _ => true

/-! ## 3. Characters -/

/-- A character that ends a line. -/
def isBreak (c : Char) : Bool :=
  c == '\n' || c.toNat == 0x85 || c.toNat == 0x2028 || c.toNat == 0x2029

/-- A space or a tab. -/
def isBlank (c : Char) : Bool := c == ' ' || c == '\t'

/-- A blank or the end of a line. -/
def isGap (c : Char) : Bool := isBlank c || isBreak c

/-- Whether a text starts with a gap, or is at its end. -/
def atGap : Text → Bool
  | [] => true
  | c :: _ => isGap c

/-- A character that separates the parts of a collection in brackets. -/
def isFlowIndicator (c : Char) : Bool :=
  c == ',' || c == '[' || c == ']' || c == '\x7b' || c == '\x7d'

/-- A character that may occur in a document. -/
def isAcceptable (c : Char) : Bool :=
  let n := c.toNat
  n == 9 || n == 10 || n == 13 || (0x20 ≤ n && n ≤ 0x7E) || n == 0x85 ||
    (0xA0 ≤ n && n ≤ 0xD7FF) || (0xE000 ≤ n && n ≤ 0xFFFD) || 0x10000 ≤ n

/-! ## 4. Cursors -/

/-- A place in a text: what is unread there, the number of characters and lines before it, and
the column, from zero. -/
structure Cursor where
  rest : Text
  offset : Nat
  line : Nat
  column : Nat
deriving DecidableEq, Repr

namespace Cursor

/-- The start of a text. -/
def start (t : Text) : Cursor := ⟨t, 0, 0, 0⟩

/-- The place after the next character. -/
def next (c : Cursor) : Cursor :=
  match c.rest with
  | [] => c
  | x :: rest =>
    if isBreak x then ⟨rest, c.offset + 1, c.line + 1, 0⟩
    else ⟨rest, c.offset + 1, c.line, c.column + 1⟩

/-- The place after some characters. -/
def skip (c : Cursor) : Nat → Cursor
  | 0 => c
  | n + 1 => c.next.skip n

/-- The number of characters before the next token: blanks, ends of lines and comments.  Tabs
count only if they are accepted; behind the end of a line they are not, but in brackets. -/
def gapLength (inFlow : Bool) : (tabs comment : Bool) → Text → Nat
  | _, _, [] => 0
  | tabs, comment, x :: rest =>
    if isBreak x then gapLength inFlow inFlow false rest + 1
    else if comment then gapLength inFlow tabs true rest + 1
    else if x = ' ' ∨ (x = '\t' ∧ tabs = true) then gapLength inFlow tabs false rest + 1
    else if x = '#' then gapLength inFlow tabs true rest + 1
    else 0

/-- The next token in brackets. -/
def toFlowToken (c : Cursor) : Cursor := c.skip (gapLength true true false c.rest)

/-- The next token outside brackets, and whether a block may start there: it may on a line of its
own, and where it could before. -/
def toToken (c : Cursor) (fresh : Bool) : Cursor × Bool :=
  let c' := c.skip (gapLength false (!fresh) false c.rest)
  (c', fresh || c'.line != c.line)

/-- The place behind blanks. -/
def behindBlanks (c : Cursor) : Cursor := c.skip (c.rest.takeWhile isBlank).length

/-- Whether the marks that start and end documents are here. -/
def atMarker (c : Cursor) : Bool :=
  c.column == 0 &&
    match c.rest with
    | '-' :: '-' :: '-' :: rest => atGap rest
    | '.' :: '.' :: '.' :: rest => atGap rest
    | _ => false

/-- Whether a document ends here. -/
def atEnd (c : Cursor) : Bool := c.rest.isEmpty || c.atMarker

/-- Whether an indicator with a gap behind it is here. -/
def atIndicator (c : Cursor) (indicator : Char) : Bool :=
  match c.rest with
  | x :: rest => x == indicator && atGap rest
  | [] => false

end Cursor

end Phrasing.Yaml
