/-
# Parts of numbers

The real and imaginary parts of a number, its numerator and its denominator are numbers.  A field
can also reach what is no number: the class of a number, its description, its operations, and what
these have in turn.  How such things are written is a matter of the surroundings in which a pattern
is filled in.  So a pattern is filled in with the `Parts` that there are, and nothing is assumed of
them.

`Parts.standard` are the parts that are there if nothing else is said.
-/
import Phrasing.Pattern.Layout

namespace Phrasing.Pattern

/-- A thing that is no number: how it is written, by itself and as a literal, and how it is laid
out. -/
structure Part where
  text : Except PatternFault Text
  literal : Except PatternFault Text
  layOut : Text → Except PatternFault Text

/-- What a path of names and places leads to from a number, if its first name is not that of a part
which is a number. -/
abbrev Parts := Nat → Text → Except PatternFault Part

/-- A text in a layout. -/
def layOutText (t layout : Text) : Except PatternFault Text := do
  if layout.isEmpty then return t
  (← Layout.read "str" .left 's' layout).string t

namespace Part

/-- A text. -/
def ofText (t : Text) : Part := ⟨.ok t, .ok (Text.quote t), layOutText t⟩

/-- A thing of this type, for which there are no layouts. -/
def ofThing (typeName : String) (t : Text) : Part where
  text := .ok t
  literal := .ok t
  layOut layout :=
    if layout.isEmpty then .ok t
    else .error (.ofPart .type s!"unsupported format string passed to {typeName}.__format__")

end Part

namespace Parts

/-- The operations of numbers that are called by their names. -/
def methodNames : List String :=
  ["__ceil__", "__dir__", "__floor__", "__format__", "__getnewargs__", "__getstate__",
    "__init_subclass__", "__new__", "__reduce__", "__reduce_ex__", "__round__", "__sizeof__",
    "__subclasshook__", "__trunc__", "as_integer_ratio", "bit_count", "bit_length", "conjugate",
    "from_bytes", "to_bytes"]

/-- The operations behind operators and other signs. -/
def operatorNames : List String :=
  ["__abs__", "__add__", "__and__", "__bool__", "__delattr__", "__divmod__", "__eq__",
    "__float__", "__floordiv__", "__ge__", "__getattribute__", "__gt__", "__hash__", "__index__",
    "__init__", "__int__", "__invert__", "__le__", "__lshift__", "__lt__", "__mod__", "__mul__",
    "__ne__", "__neg__", "__or__", "__pos__", "__pow__", "__radd__", "__rand__", "__rdivmod__",
    "__repr__", "__rfloordiv__", "__rlshift__", "__rmod__", "__rmul__", "__ror__", "__rpow__",
    "__rrshift__", "__rshift__", "__rsub__", "__rtruediv__", "__rxor__", "__setattr__",
    "__str__", "__sub__", "__truediv__", "__xor__"]

/-- The description of numbers. -/
def description : String :=
  "int([x]) -> integer\nint(x, base=10) -> integer\n\n" ++
    "Convert a number or string to an integer, or return 0 if no arguments\n" ++
    "are given.  If x is a number, return x.__int__().  For floating point\n" ++
    "numbers, this truncates towards zero.\n\n" ++
    "If x is not a number or if base is given, then x must be a string,\n" ++
    "bytes, or bytearray instance representing an integer literal in the\n" ++
    "given base.  The literal can be preceded by '+' or '-' and be surrounded\n" ++
    "by whitespace.  The base defaults to 10.  Valid bases are 0 and 2-36.\n" ++
    "Base 0 means to interpret the base from the string as an integer literal.\n" ++
    ">>> int('0b100', base=0)\n4"

/-- The part with a name, and the name of its type.  An operation shows the place in memory of what
it belongs to, which is zero here. -/
def named? (name : Text) : Option (String × Part) :=
  if name = "__class__".toList then
    some ("type", .ofThing "type" "<class 'int'>".toList)
  else if name = "__doc__".toList then some ("str", .ofText description.toList)
  else if methodNames.any (·.toList = name) then
    let typeName := "builtin_function_or_method"
    some (typeName, .ofThing typeName
      s!"<built-in method {Text.string name} of int object at 0x0>".toList)
  else if operatorNames.any (·.toList = name) then
    let typeName := "method-wrapper"
    some (typeName, .ofThing typeName
      s!"<method-wrapper '{Text.string name}' of int object at 0x0>".toList)
  else none

/-- What is said to be missing where a path goes on from a thing of this type. -/
def missing (typeName : String) (path : Text) : PatternFault :=
  let isClass := typeName == "type"
  match path with
  | '[' :: ']' :: _ => .emptyAttribute
  | '[' :: _ =>
    let thing := if isClass then "type 'int'" else s!"'{typeName}' object"
    .ofPart .type s!"{thing} is not subscriptable"
  | _ =>
    let thing := if isClass then "type object 'int'" else s!"'{typeName}' object"
    let name := path.drop 1 |>.takeWhile fun c => c != '.' && c != '['
    if name.isEmpty then .emptyAttribute
    else .ofPart .part s!"{thing} has no attribute '{Text.string name}'"

/-- Parts that can be named.  Of what they have in turn, only the name of the class is known. -/
def standard : Parts := fun _ path =>
  let name := path.drop 1 |>.takeWhile fun c => c != '.' && c != '['
  match named? name, path.drop (name.length + 1) with
  | none, _ => .error (.unknownAttribute name)
  | some (_, part), [] => .ok part
  | some (typeName, _), rest =>
    if path = ".__class__.__name__".toList then .ok (.ofText "int".toList)
    else .error (missing typeName rest)

end Parts

end Phrasing.Pattern
