/-
# Assembling a message

A message is assembled from fragments of text, each of which continues the current line or
starts a new one.  Every line that is begun gets the indent that holds at the time: the indent
of the whole message, followed by the spaces and tabs that the latest block fragment to end in
a line of nothing else ended in.  Such an ending is cut off the fragment.

A block fragment goes on an empty line that a line feed in the text before it has opened,
instead of leaving it empty.  Empty lines get no indent.  Blank lines at the end, but not the
first line of the message, are replaced by a single line feed.
-/
import Phrasing.Assembly.Indent
import Phrasing.Assembly.Placement

namespace Phrasing.Assembly

/-! ## 1. Fragments -/

/-- Cuts an ending of a line feed and a run of spaces and tabs off a text: the text before it
and the run.  A single line feed after the run is cut off with it. -/
def splitTrailingIndent : Text → Text × Option Text
  | [] => ([], none)
  | c :: rest =>
    let run := rest.takeWhile isIndentChar
    let after := rest.dropWhile isIndentChar
    if c = '\n' ∧ run ≠ [] ∧ (after = [] ∨ after = ['\n']) then ([], some run)
    else
      let (before, indent) := splitTrailingIndent rest
      (c :: before, indent)

/-! ## 2. Lines -/

/-- A line of a message.  It is open if it was begun by a line feed inside a fragment and
nothing has been written on it. -/
structure Line where
  indent : Text
  content : Text
  isOpen : Bool
deriving DecidableEq, Repr

/-- The text of a line: an empty line has no indent. -/
def Line.text (l : Line) : Text := if l.content.isEmpty then [] else l.indent ++ l.content

/-- Whether nothing can be seen on a line. -/
def Line.isBlank (l : Line) : Bool := Text.isAllBlank l.content

/-- A message in the making: the indent of new lines, and the lines, the current one first. -/
structure Sheet where
  indent : Text
  lines : List Line
deriving DecidableEq, Repr

namespace Sheet

/-- A sheet without lines. -/
def blank (indent : Text) : Sheet := ⟨indent, []⟩

/-- The first line, if there is none yet. -/
def start (s : Sheet) : Sheet :=
  match s.lines with
  | [] => { s with lines := [⟨s.indent, [], false⟩] }
  | _ => s

/-- A line for a block fragment: the current one if it is open and empty, or a new one. -/
def startBlock (s : Sheet) : Sheet :=
  match s.lines with
  | [] => { s with lines := [⟨s.indent, [], false⟩] }
  | l :: ls =>
    if l.isOpen && l.content.isEmpty then { s with lines := ⟨s.indent, [], false⟩ :: ls }
    else { s with lines := ⟨s.indent, [], false⟩ :: l :: ls }

/-- Continues the current line. -/
def continueLine (s : Sheet) (piece : Text) : Sheet :=
  match s.lines with
  | [] => s
  | l :: ls =>
    { s with
      lines := { l with content := l.content ++ piece, isOpen := l.isOpen && piece.isEmpty } :: ls }

/-- Begins a line after a line feed. -/
def newLine (s : Sheet) (piece : Text) : Sheet :=
  { s with lines := ⟨s.indent, piece, piece.isEmpty⟩ :: s.lines }

/-- Writes a text, line by line. -/
def write (s : Sheet) (t : Text) : Sheet :=
  match Text.lines t with
  | [] => s
  | piece :: pieces => pieces.foldl newLine (s.continueLine piece)

/-- Places a fragment under the indent `base` of the message. -/
def place (base : Text) (s : Sheet) (fragment : Text × Placement) : Sheet :=
  match fragment.2 with
  | .inline => s.start.write fragment.1
  | .block =>
    let (t, run) := splitTrailingIndent fragment.1
    let s' := s.startBlock.write t
    match run with
    | some run => { s' with indent := base ++ run }
    | none => s'

/-- Drops blank lines from the front of a list, but never its last line; also says whether
there were any. -/
def dropBlank : List Line → List Line × Bool
  | l :: l' :: ls => if l.isBlank then ((dropBlank (l' :: ls)).1, true) else (l :: l' :: ls, false)
  | ls => (ls, false)

/-- The finished message. -/
def finish (s : Sheet) : Text :=
  let (lines, dropped) := dropBlank s.lines
  Text.join ['\n'] (lines.reverse.map Line.text) ++ if dropped then ['\n'] else []

end Sheet

/-- The message made of fragments. -/
def compose (indent : Indent) (fragments : List (Text × Placement)) : Text :=
  (fragments.foldl (Sheet.place indent.text) (Sheet.blank indent.text)).finish

end Phrasing.Assembly
