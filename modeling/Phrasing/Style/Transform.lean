/-
# Styles

A style turns a text into a styled one.  Most styles are described by markers to put around the
text and by the renditions to switch on and off on a terminal; a style can also be any function
on texts.

Renditions that already open or close the text are merged with those of the style, so that
nested styles need one sequence on either side.
-/
import Phrasing.Style.Capability
import Phrasing.Style.Sgr

namespace Phrasing

/-- A style by its markers and renditions.  Without renditions, a terminal gets the markers;
with them, it gets the markers only if they are to be kept. -/
structure Markers where
  before : Text
  after : Text
  rendition : Option (Text × Text)
  keep : Bool
deriving DecidableEq, Repr

namespace Markers

/-- The text between the markers. -/
def surround (m : Markers) (t : Text) : Text := m.before ++ t ++ m.after

/-- Switches a rendition on in front of a text, together with those that open it. -/
def openWith (on : Text) (t : Text) : Text :=
  match Sgr.readOpening? t with
  | some (parameters, rest) => Sgr.sequence (on ++ ';' :: parameters) ++ rest
  | none => Sgr.sequence on ++ t

/-- Switches a rendition off at the end of a text, together with those that close it. -/
def closeWith (off : Text) (t : Text) : Text :=
  match Sgr.findClosing? t with
  | some (c :: before, parameters) => c :: before ++ Sgr.sequence (parameters ++ ';' :: off)
  | _ => t ++ Sgr.sequence off

/-- The styled text. -/
def apply (m : Markers) (capability : Capability) (t : Text) : Text :=
  match capability, m.rendition with
  | .none, _ => t
  | .ascii, _ => m.surround t
  | .markup, none => m.surround t
  | .markup, some (on, off) =>
    closeWith off (openWith on (if m.keep then m.surround t else t))

end Markers

/-- A style: markers, or a function on texts. -/
inductive Style where
  | markers (m : Markers)
  | function (f : Text → Text)

namespace Style

/-- The styled text.  Plain text shows no style, whatever it is. -/
def apply (s : Style) (capability : Capability) (t : Text) : Text :=
  match capability, s with
  | .none, _ => t
  | c, markers m => m.apply c t
  | _, function f => f t

end Style

end Phrasing
