/-
# Words regardless of case

Settings are spelled with lower-case ASCII words and read regardless of case.  A character can
only match such a word if its lower-case form is a single ASCII letter, which holds of the
ASCII letters and of the Kelvin sign; every other character is left as it is, since it matches
nothing either way.
-/
import Phrasing.Text.Basic

namespace Phrasing.Text

/-- The ASCII lower-case form of a character that has one. -/
def lowerLetter (c : Char) : Char :=
  if 'A' ≤ c ∧ c ≤ 'Z' then Char.ofNat (c.toNat + 32)
  else if c.toNat = 0x212A then 'k'
  else c

/-- The text in lower case, as far as matching ASCII words is concerned. -/
def lowerWord (t : Text) : Text := t.map lowerLetter

/-- The word that a setting spells: its text without white space around it, in lower case. -/
def settingWord (t : Text) : Text := lowerWord (trim t)

end Phrasing.Text
