/-
# Style registries

A registry knows styles by name.  Registering a name again replaces its style, with a warning.
A name without a style is rendered by the fallback, with a warning on its first use since it
was last registered; without a fallback, or in strict mode, it is an error.

An operation answers with the registry after it, the notices it gave, and its result.
-/
import Phrasing.Named
import Phrasing.Notice
import Phrasing.Style.Transform
import Phrasing.Template.Error
import Phrasing.Text.Order

namespace Phrasing

/-- The styles known by name, the function that stands in for the others, and the names it has
stood in for with a warning. -/
structure Registry where
  styles : Named Style
  fallback : Option (Text → Text)
  warned : List Text

/-- Why a style is not registered. -/
inductive RegistrationFault where
  /-- A name needs ink. -/
  | blankName
  /-- What was given cannot turn a text into a styled one. -/
  | notAStyle (name : Text)
deriving DecidableEq, Repr

/-- How a fault is worded. -/
def RegistrationFault.message : RegistrationFault → String
  | blankName => "Style name must be a non-empty string"
  | notAStyle name => s!"Style '{Text.string name}' must be a StyleTransform or a callable"

namespace Registry

/-- The registry without styles. -/
def bare (fallback : Option (Text → Text)) : Registry := ⟨[], fallback, []⟩

/-- The names of the styles in code-point order. -/
def names (r : Registry) : List Text := Text.sort (Named.names r.styles)

/-- Whether a name has a style. -/
def contains (r : Registry) (name : Text) : Bool := Named.contains name r.styles

/-- The registry in which a name has the given style; `none` stands for something that is no
style. -/
def register (r : Registry) (name : Text) (style : Option Style) :
    Except RegistrationFault (Registry × List Notice) :=
  if Text.isAllBlank name then .error .blankName
  else
    match style with
    | none => .error (.notAStyle name)
    | some s =>
      .ok (⟨Named.set name s r.styles, r.fallback, r.warned.filter (· ≠ name)⟩,
        if r.contains name then [.styleReplaced name] else [])

/-- Registers styles one after the other, up to the first that is refused: whether all were
registered, the registry after that, and the notices. -/
def registerAll (r : Registry) : List (Text × Option Style) →
    Except RegistrationFault Unit × Registry × List Notice
  | [] => (.ok (), r, [])
  | (name, style) :: rest =>
    match r.register name style with
    | .error f => (.error f, r, [])
    | .ok (r', notices) =>
      let (result, r'', more) := r'.registerAll rest
      (result, r'', notices ++ more)

/-- The registry in which a name has no style. -/
def unregister (r : Registry) (name : Text) : Registry :=
  { r with styles := Named.remove name r.styles }

/-- The function that a name stands for; `none` if the name has no style and nothing stands in
for it. -/
def resolve? (r : Registry) (capability : Capability) (strict : Bool) (name : Text) :
    Option (Text → Text) × Registry × List Notice :=
  match capability with
  | .none => (some id, r, [])
  | capability =>
    match Named.find? name r.styles with
    | some s => (some (s.apply capability), r, [])
    | none =>
      if strict then (none, r, [])
      else
        match r.fallback with
        | none => (none, r, [])
        | some f =>
          if r.warned.contains name then (some f, r, [])
          else (some f, { r with warned := name :: r.warned }, [.styleUnknown name])

/-- A text in the style of a name. -/
def styled? (r : Registry) (capability : Capability) (strict : Bool) (name t : Text) :
    Option Text × Registry × List Notice :=
  let (f, r', notices) := r.resolve? capability strict name
  (f.map fun f => f t, r', notices)

end Registry

end Phrasing
