/-
# Paths

An expression names a value by a path: a name of the context, then any number of indexes
`[n]` and field names `.f`, and at the end the name of a style after a colon.  White space may
stand around the path, inside the brackets and around the colon.

`text` is the canonical spelling, without white space.  `Path.read` reads a path that fills a
text, and otherwise says what is wrong and how much of the text is unread there.
-/
import Phrasing.Number.Integer
import Phrasing.Template.Error
import Phrasing.Text.Position

namespace Phrasing

/-- A step from a value into it.  The offset is that of the bracket or dot. -/
inductive Accessor where
  | index (n : Int) (offset : Nat)
  | field (name : Text) (offset : Nat)
deriving DecidableEq, Repr

/-- The text of an expression, taken apart. -/
structure Path where
  base : Text
  accessors : List Accessor
  style : Option Text
deriving DecidableEq, Repr

/-- What is wrong with the text of a path. -/
inductive PathFault where
  | empty
  | noIdentifier
  | noIndex
  | unclosedIndex
  | noFieldName
  | noStyleName
  | unexpected (c : Char)
deriving DecidableEq, Repr

/-- How a fault is worded. -/
def PathFault.reason : PathFault → String
  | empty => "empty expression"
  | noIdentifier => "expected identifier"
  | noIndex => "expected integer index"
  | unclosedIndex => "expected ']'"
  | noFieldName => "expected field name after '.'"
  | noStyleName => "expected style name after ':'"
  | unexpected c => s!"unexpected character {Text.quoted [c]}"

/-- Why a text is not read as a path: a fault and the text unread at it, or an index of too
many digits. -/
inductive PathRefusal where
  | fault (f : PathFault) (unread : Text)
  | number (f : NumberFault)
deriving DecidableEq, Repr

namespace Accessor

/-- The offset of the bracket or dot. -/
def offset : Accessor → Nat
  | index _ offset => offset
  | field _ offset => offset

/-- The canonical spelling. -/
def text : Accessor → Text
  | index n _ => '[' :: Number.decimal n ++ [']']
  | field name _ => '.' :: name

end Accessor

namespace Path

/-- The canonical spelling. -/
def text (p : Path) : Text :=
  p.base ++ p.accessors.flatMap Accessor.text ++
    match p.style with
    | none => []
    | some style => ':' :: style

/-! ## 1. Names and indexes -/

/-- A character that can start a name: an ASCII letter or the underscore. -/
def isNameStart (c : Char) : Bool := ('A' ≤ c && c ≤ 'Z') || ('a' ≤ c && c ≤ 'z') || c == '_'

/-- A character that can continue a name. -/
def isNameChar (c : Char) : Bool := isNameStart c || Text.isAsciiDigit c

/-- The longest name at the front of a text, and the rest. -/
def readName : Text → Option (Text × Text)
  | [] => none
  | c :: rest =>
    if isNameStart c then some (c :: rest.takeWhile isNameChar, rest.dropWhile isNameChar)
    else none

/-- An optional minus sign. -/
def readMinus : Text → Bool × Text
  | '-' :: rest => (true, rest)
  | t => (false, t)

/-- An index after its opening bracket, and the rest after the closing one. -/
def readIndex (t : Text) : Except PathRefusal (Int × Text) :=
  let inner := Text.trimStart t
  let (negative, body) := readMinus inner
  match body.takeWhile Text.isAsciiDigit with
  | [] => .error (.fault .noIndex inner)
  | ds =>
    match Text.trimStart (body.dropWhile Text.isAsciiDigit) with
    | ']' :: rest =>
      if Number.digitLimit < ds.length then .error (.number (.tooLongToRead ds.length))
      else .ok (Number.signed negative (ds.map (·.toNat - 48)), rest)
    | unread => .error (.fault .unclosedIndex unread)

theorem length_dropWhile_le (p : Char → Bool) (t : Text) :
    (t.dropWhile p).length ≤ t.length := by
  induction t with
  | nil => simp
  | cons c t ih =>
    rw [List.dropWhile_cons]
    split
    · exact Nat.le_succ_of_le ih
    · exact Nat.le_refl _

/-- What is left after a name is shorter. -/
theorem length_of_readName {t name rest : Text} (h : readName t = some (name, rest)) :
    rest.length < t.length := by
  cases t with
  | nil => simp [readName] at h
  | cons c t =>
    simp only [readName] at h
    split at h
    · simp only [Option.some.injEq, Prod.mk.injEq] at h
      have := length_dropWhile_le isNameChar t
      rw [← h.2]
      simp only [List.length_cons]
      omega
    · simp at h

theorem length_readMinus_le (t : Text) : (readMinus t).2.length ≤ t.length := by
  unfold readMinus
  split <;> simp

/-- What is left after an index is shorter. -/
theorem length_of_readIndex {t rest : Text} {n : Int} (h : readIndex t = .ok (n, rest)) :
    rest.length < t.length := by
  simp only [readIndex] at h
  have hinner := length_dropWhile_le Text.isBlank t
  have hbody := length_readMinus_le (Text.trimStart t)
  generalize (readMinus (Text.trimStart t)).2 = body at h hbody
  have hdigits := length_dropWhile_le Text.isAsciiDigit body
  generalize body.dropWhile Text.isAsciiDigit = afterDigits at h hdigits
  have htrim := length_dropWhile_le Text.isBlank afterDigits
  simp only [Text.trimStart] at h hbody htrim
  split at h
  · simp at h
  · split at h
    · next heq =>
      split at h
      · simp at h
      · simp only [Except.ok.injEq, Prod.mk.injEq] at h
        rw [heq, List.length_cons] at htrim
        rw [← h.2]
        omega
    · simp at h

/-! ## 2. Whole paths -/

/-- The accessors at the front of a text, and the rest.  `stop` is the offset of the end of
the text. -/
def readAccessors (stop : Nat) (t : Text) : Except PathRefusal (List Accessor × Text) :=
  match t with
  | [] => .ok ([], [])
  | c :: inner =>
    if c = '[' then
      match _h : readIndex inner with
      | .error e => .error e
      | .ok (n, rest) =>
        match readAccessors stop rest with
        | .error e => .error e
        | .ok (more, unread) => .ok (.index n (stop - (inner.length + 1)) :: more, unread)
    else if c = '.' then
      match _h : readName inner with
      | none => .error (.fault .noFieldName inner)
      | some (name, rest) =>
        match readAccessors stop rest with
        | .error e => .error e
        | .ok (more, unread) => .ok (.field name (stop - (inner.length + 1)) :: more, unread)
    else .ok ([], c :: inner)
termination_by t.length
decreasing_by
  · have := length_of_readIndex _h
    simp only [List.length_cons]
    omega
  · have := length_of_readName _h
    simp only [List.length_cons]
    omega

/-- An optional style after its colon, and the rest. -/
def readStyle (t : Text) : Except PathRefusal (Option Text × Text) :=
  match Text.trimStart t with
  | ':' :: rest =>
    let inner := Text.trimStart rest
    match readName inner with
    | none => .error (.fault .noStyleName inner)
    | some (style, unread) => .ok (some style, unread)
  | unread => .ok (none, unread)

/-- Reads a path that fills the text, whose first character has the given offset. -/
def read (offset : Nat) (source : Text) : Except PathRefusal Path :=
  let inner := Text.trimStart source
  if inner.isEmpty then .error (.fault .empty [])
  else
    match readName inner with
    | none => .error (.fault .noIdentifier inner)
    | some (base, rest) => do
      let (accessors, rest) ← readAccessors (offset + source.length) rest
      let (style, rest) ← readStyle rest
      match Text.trimStart rest with
      | [] => return ⟨base, accessors, style⟩
      | c :: more => throw (.fault (.unexpected c) (c :: more))

end Path

/-- Why a template, or an expression of one, is not accepted: an error in it, or an index of
too many digits. -/
inductive ParseFault where
  | error (e : TemplateError)
  | number (f : NumberFault)
deriving DecidableEq, Repr

/-- The error or other fault behind a refusal to read the expression `source` at `start`. -/
def PathRefusal.toParseFault (start : Position) (source : Text) : PathRefusal → ParseFault
  | .number f => .number f
  | .fault f unread =>
    let p := start.advance (source.take (source.length - unread.length))
    .error ⟨p.offset, source, .grammar p.line p.column (.malformed f.reason)⟩

/-- The path of the expression `source`, whose first character is at `start`. -/
def Path.parse (start : Position) (source : Text) : Except ParseFault Path :=
  match Path.read start.offset source with
  | .ok p => .ok p
  | .error refusal => .error (refusal.toParseFault start source)

end Phrasing
