/-
# Messages

A message is built part by part: lines and continuations made from templates, bullets, lists of
values, and blank lines.  A part that fails to render is not added, and the message stays as it
was.

A bullet is a mark and a space in front of a line.  Marks are part of the text and not styles,
so plain text shows them in ASCII.
-/
import Phrasing.Assembly.Basic
import Phrasing.Rendering

namespace Phrasing

/-- The marks of the bullets: in ASCII, and for a reader that shows markup. -/
def bullets : Named (Text × Text) :=
  [("bullet".toList, (['*'], ['•'])), ("info".toList, (['i'], ['ℹ'])),
    ("success".toList, (['v'], ['✔'])), ("warning".toList, (['!'], ['!'])),
    ("danger".toList, (['x'], ['✖'])), ("arrow".toList, (['>'], ['→']))]

/-- The mark of a bullet. -/
def bulletMark (name : Text) (capability : Capability) : Except Failure Text :=
  match Named.find? name bullets with
  | some (ascii, markup) => .ok (if capability = .markup then markup else ascii)
  | none => .error (.unknownBullet name)

/-- The parts of a message, in order. -/
structure Message where
  parts : List (Text × Placement)
deriving DecidableEq, Repr

namespace Message

/-- The message without parts. -/
def empty : Message := ⟨[]⟩

/-- The message with one more part. -/
def add (m : Message) (t : Text) (placement : Placement) : Message :=
  ⟨m.parts ++ [(t, placement)]⟩

/-- A template rendered in the context of some data. -/
def render (o : Options) (source : Text) (d : Data) : Rendering Text := do
  let template ← Rendering.parse source
  let context ← Rendering.contextOf d []
  Rendering.template o context template

/-- The texts of data, each in the same style. -/
def renderEach (o : Options) (style : Option Text) : List Data → Rendering (List Text)
  | [] => return []
  | d :: ds => do
    let t ← Rendering.value o ⟨0, []⟩ style (← Rendering.valueOf d)
    let ts ← renderEach o style ds
    return t :: ts

end Message

/-- What can be added to a message. -/
inductive Addition where
  /-- A template on a new line. -/
  | line (source : Text) (d : Data)
  /-- A template that continues the current line. -/
  | inline (source : Text) (d : Data)
  /-- A template behind a bullet. -/
  | bullet (name source : Text) (d : Data)
  /-- The elements of data as an enumeration, some of whose rules are replaced. -/
  | items (d : Data) (style : Option Text) (changes : Named Data)
  /-- A blank line. -/
  | blank

namespace Addition

/-- Where an addition goes. -/
def placement : Addition → Placement
  | inline .. => .inline
  | _ => .block

/-- The text of an addition. -/
def text (o : Options) : Addition → Rendering Text
  | line source d | inline source d => Message.render o source d
  | bullet name source d => do
    let mark ← (bulletMark name o.capability : Except Failure Text)
    return mark ++ ' ' :: (← Message.render o source d)
  | items d style changes => do
    let elements ← (d.elements.mapError .data : Except Failure (List Data))
    let texts ← Message.renderEach o style elements
    let rules ←
      ((o.enumeration.replace changes).mapError (.option ∘ .enumeration) :
        Except Failure Enumeration)
    Rendering.enumerate rules texts
  | blank => return []

end Addition

namespace Message

/-- The message with one more addition. -/
def extend (m : Message) (o : Options) (a : Addition) : Rendering Message :=
  return m.add (← a.text o) a.placement

/-- Adds a template on a new line. -/
def line (m : Message) (o : Options) (source : Text) (d : Data) : Rendering Message :=
  m.extend o (.line source d)

/-- Continues the current line with a template. -/
def inline (m : Message) (o : Options) (source : Text) (d : Data) : Rendering Message :=
  m.extend o (.inline source d)

/-- Adds a template behind a bullet. -/
def bullet (m : Message) (o : Options) (name source : Text) (d : Data) : Rendering Message :=
  m.extend o (.bullet name source d)

/-- Adds the elements of data as an enumeration, some of whose rules are replaced. -/
def items (m : Message) (o : Options) (d : Data) (style : Option Text) (changes : Named Data) :
    Rendering Message :=
  m.extend o (.items d style changes)

/-- Adds a blank line. -/
def blank (m : Message) : Message := m.add [] .block

/-- The text of the whole message. -/
def build (m : Message) (o : Options) : Text := Assembly.compose o.indent m.parts

end Message

end Phrasing
