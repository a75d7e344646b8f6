/-
# Locations of files

The place of a file is named by the directories on the way to it, with slashes between them.
Names that say nothing, empty ones and single dots, are left out of the normal form.
-/
import Phrasing.Text.Caseless

namespace Phrasing.Location

/-- The parts of a location. -/
def parts (t : Text) : List Text :=
  (Text.splitWhere (· == '/') t).filter fun part => part ≠ [] ∧ part ≠ ['.']

/-- The slashes that an absolute location starts with: two are kept, any other number is one. -/
def root (t : Text) : Text :=
  match (t.takeWhile (· == '/')).length with
  | 0 => []
  | 2 => ['/', '/']
  | _ => ['/']

/-- The normal form of a location. -/
def normal (t : Text) : Text :=
  match root t ++ Text.join ['/'] (parts t) with
  | [] => ['.']
  | t => t

/-- The ending of the last part with its dot: nothing if the dot is the first or last
character. -/
def ending (t : Text) : Text :=
  let name := ((parts t).getLast?).getD []
  let after := (name.reverse.takeWhile (· ≠ '.')).reverse
  if after.isEmpty ∨ name.length ≤ after.length + 1 then [] else '.' :: after

/-- Whether the ending of a location is the given one, regardless of case. -/
def endsIn (ending' : String) (t : Text) : Bool := Text.lowerWord (ending t) = ending'.toList

/-- Follows the parts of a location from a directory, given by the parts on the way to it in
reverse; `none` if a part is no directory, or above where the way started. -/
def follow (isDirectory : List Text → Bool) : (here : List Text) → List Text → Option (List Text)
  | here, [] => some here
  | here, part :: rest =>
    if !isDirectory here.reverse then none
    else if part = ['.', '.'] then
      match here with
      | [] => none
      | _ :: above => follow isDirectory above rest
    else follow isDirectory (part :: here) rest

/-- The file of a location, among files whose names are locations in normal form. -/
def find? {α : Type} (files : List (Text × α)) (t : Text) : Option α := do
  if root t ≠ [] then none
  let isDirectory := fun (way : List Text) =>
    way = [] ∨ files.any fun file => way.length < (parts file.1).length ∧ way.isPrefixOf (parts file.1)
  let way ← follow isDirectory [] (parts t)
  (files.find? fun file => parts file.1 = way.reverse).map Prod.snd

end Phrasing.Location
