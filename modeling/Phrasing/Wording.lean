/-
# Words for scalars

How scalars become text: words for truth values and for an absent value, numbers in their
shortest form, texts as they are.  Numbers and texts can be given writers of their own.
-/
import Phrasing.Data.Literal

namespace Phrasing

/-- What counts as a number when numbers are written: a truth value is written as a literal. -/
inductive Numeral where
  | truth (b : Bool)
  | integer (n : Int)
  | real (x : Binary64)
deriving DecidableEq, Repr

/-- The shortest text of a number: whole numbers below 10^16 like integers. -/
def Numeral.text : Numeral → Except NumberFault Text
  | truth b => .ok (if b then "True".toList else "False".toList)
  | integer n => Number.decimal? n
  | real x => .ok (x.text Binary64.plainLayout)

/-- The rules by which scalars become text. -/
structure Wording where
  trueWord : Text
  falseWord : Text
  absentMarker : Text
  number : Option (Numeral → Except NumberFault Text)
  text : Option (Text → Text)

namespace Wording

/-- The rules used when none are given. -/
def standard : Wording := ⟨"true".toList, "false".toList, "NULL".toList, none, none⟩

/-- The text of a number. -/
def writeNumber (w : Wording) (n : Numeral) : Except NumberFault Text :=
  match w.number with
  | some write => write n
  | none => n.text

/-- The text of a text. -/
def writeText (w : Wording) (t : Text) : Text :=
  match w.text with
  | some write => write t
  | none => t

/-- The text of a scalar.  There is none of a byte string. -/
def write (w : Wording) : Scalar → Except DataFault Text
  | .absent => .ok w.absentMarker
  | .truth b => .ok (if b then w.trueWord else w.falseWord)
  | .integer n => (w.writeNumber (.integer n)).mapError .number
  | .real x => (w.writeNumber (.real x)).mapError .number
  | .text t => .ok (w.writeText t)
  | .bytes _ => .error (.notAScalar "bytes")

/-- The keys of the word for truth. -/
def trueKeys : List String := ["true_word", "trueWord"]

/-- The keys of the word for falsehood. -/
def falseKeys : List String := ["false_word", "falseWord"]

/-- The keys of the word for an absent value. -/
def absentKeys : List String := ["absent_marker", "absentMarker", "absent"]

/-- What the first of some keys that is there stands for, even if it is an absent value. -/
def given? (entries : List (Data × Data)) (keys : List String) : Option Data :=
  keys.findSome? fun key => Data.field? key.toList entries

/-- The text of what is given for some keys, which may be anything. -/
def pickText (entries : List (Data × Data)) (keys : List String) (otherwise : Text) : Text :=
  match given? entries keys with
  | some d => d.asText
  | none => otherwise

/-- The rules that the entries of a mapping describe. -/
def ofEntries (entries : List (Data × Data)) : Wording :=
  { standard with
    trueWord := pickText entries trueKeys standard.trueWord
    falseWord := pickText entries falseKeys standard.falseWord
    absentMarker := pickText entries absentKeys standard.absentMarker }

/-- Whether all words that the entries of a mapping describe can be written. -/
def isWritable (entries : List (Data × Data)) : Bool :=
  [trueKeys, falseKeys, absentKeys].all fun keys => (given? entries keys).all Data.isWritable

end Wording

/-- The content of data that is a scalar. -/
def Data.asScalar? : Data → Except DataFault Scalar
  | .absent => .ok .absent
  | .truth b => .ok (.truth b)
  | .integer n => .ok (.integer n)
  | .real x => .ok (.real x)
  | .text t => .ok (.text t)
  | d => .error (.notAScalar d.typeName)

/-- Data as a number to be written. -/
def Data.asNumeral? : Data → Except DataFault Numeral
  | .truth b => .ok (.truth b)
  | .integer n => .ok (.integer n)
  | .real x => .ok (.real x)
  | d => .error (.notANumber d.qualifiedTypeName)

end Phrasing
