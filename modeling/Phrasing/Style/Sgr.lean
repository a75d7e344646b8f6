/-
# Graphic renditions

A terminal switches colours and weights when it reads `ESC [ parameters m`, with numbers
separated by semicolons for parameters.  This module writes such sequences and finds the one
that opens or closes a text.
-/
import Phrasing.Text.Digit

namespace Phrasing.Sgr

/-- The escape character. -/
def escape : Char := Char.ofNat 27

/-- A character that parameters consist of. -/
def isParameter (c : Char) : Bool := Text.isAsciiDigit c || c == ';'

/-- The sequence with the given parameters. -/
def sequence (parameters : Text) : Text := escape :: '[' :: parameters ++ ['m']

/-- The parameters of the sequence at the front of a text, and the rest. -/
def read? : Text → Option (Text × Text)
  | e :: '[' :: body =>
    if e = escape then
      match body.dropWhile isParameter with
      | 'm' :: rest => some (body.takeWhile isParameter, rest)
      | _ => none
    else none
  | _ => none

/-- The parameters of the sequence that a text starts with, and the rest, if there is any. -/
def readOpening? (t : Text) : Option (Text × Text) :=
  match read? t with
  | some (parameters, c :: rest) => some (parameters, c :: rest)
  | _ => none

/-- The text before the sequence that closes a text, and its parameters.  A line feed may
follow the sequence; it belongs to neither. -/
def findClosing? : Text → Option (Text × Text)
  | [] => none
  | c :: rest =>
    match read? (c :: rest) with
    | some (parameters, []) => some ([], parameters)
    | some (parameters, ['\n']) => some ([], parameters)
    | _ => (findClosing? rest).map fun (before, parameters) => (c :: before, parameters)

end Phrasing.Sgr
