/-
# Standard styles

The styles that every registry has unless it is made without them.
-/
import Phrasing.Style.Registry

namespace Phrasing

/-- The standard styles, in the order of their registration. -/
def standardStyles : List (String × Markers) :=
  [("quote", ⟨['\''], ['\''], none, false⟩),
    ("code", ⟨['\x60'], ['\x60'], some (['9', '0'], ['3', '9']), true⟩),
    ("strong", ⟨['*'], ['*'], some (['1'], ['2', '2']), false⟩),
    ("emph", ⟨['_'], ['_'], some (['3'], ['2', '3']), false⟩),
    ("path", ⟨['\''], ['\''], some (['3', '6'], ['3', '9']), false⟩),
    ("value", ⟨['\''], ['\''], some (['3', '4'], ['3', '9']), false⟩),
    ("field", ⟨[], [], some (['3', '2'], ['3', '9']), false⟩)]

namespace Registry

/-- The registry with the standard styles. -/
def standard (fallback : Option (Text → Text)) : Registry :=
  ⟨standardStyles.map fun (name, m) => (name.toList, .markers m), fallback, []⟩

/-- The registry used when none is given: the standard styles, and plain text for the others. -/
def initial : Registry := standard (some id)

end Registry

end Phrasing
