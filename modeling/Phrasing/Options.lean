/-
# Options

All settings of one rendering: what the reader can show of styles, how lists are enumerated,
how a message is indented, how scalars are worded, and whether an unknown style is an error.

`ofEntries` reads them from the entries of a mapping.  The first fault that it finds is the one
that it reports: capability, enumeration, indent, wording, in this order.
-/
import Phrasing.Mistake
import Phrasing.Wording

namespace Phrasing

/-- The settings of one rendering. -/
structure Options where
  capability : Capability
  enumeration : Enumeration
  indent : Indent
  wording : Wording
  strict : Bool

/-- Why settings are not accepted. -/
inductive OptionFault where
  | capability (given : Data)
  | enumeration (f : EnumerationFault)
  | indent (f : IndentFault)
  /-- A setting that becomes a text shows a number of too many digits. -/
  | number (f : NumberFault)

namespace OptionFault

/-- How a fault is worded. -/
def message : OptionFault → String
  | capability given => Capability.unknownMessage given
  | enumeration f => f.message
  | indent f => f.message
  | number f => Number.describe f

/-- The sort of a fault. -/
def mistake : OptionFault → Mistake
  | capability _ => .value
  | enumeration f => f.mistake
  | indent f => f.mistake
  | number f => f.mistake

end OptionFault

namespace Options

/-- The settings used when none are given. -/
def standard : Options := ⟨.none, Enumeration.standard, Indent.none, Wording.standard, false⟩

/-! ## 1. Single settings -/

/-- The capability that data names. -/
def readCapability (d : Data) : Except OptionFault Capability :=
  if d.isWritable then
    match Capability.ofData? d with
    | some c => .ok c
    | none => .error (.capability d)
  else .error (.number .tooLongToWrite)

/-- The indent that data describes; absent data describes none. -/
def readIndent : Option Data → Except OptionFault Indent
  | none => .ok Indent.none
  | some d => (Indent.ofData d).mapError .indent

/-- The rules of enumeration that entries describe. -/
def readEnumeration (entries : List (Data × Data)) : Except OptionFault Enumeration :=
  (Enumeration.ofEntries entries).mapError .enumeration

/-- The indent that the entries of a mapping describe. -/
def readAssembly (entries : List (Data × Data)) : Except OptionFault Indent :=
  readIndent (Data.pick? entries ["indent"])

/-- The words that the entries of a mapping describe. -/
def readWording (entries : List (Data × Data)) : Except OptionFault Wording :=
  if Wording.isWritable entries then .ok (Wording.ofEntries entries)
  else .error (.number .tooLongToWrite)

/-- The entries of the mapping that a key stands for, if it stands for one. -/
def section? (key : String) (entries : List (Data × Data)) : Option (List (Data × Data)) :=
  match Data.field? key.toList entries with
  | some (.mapping inner) => some inner
  | _ => none

/-- What the mapping that a key stands for describes, if the key stands for one. -/
def readSection {α : Type} (key : String) (read : List (Data × Data) → Except OptionFault α)
    (otherwise : α) (entries : List (Data × Data)) : Except OptionFault α :=
  match section? key entries with
  | some inner => read inner
  | none => .ok otherwise

/-! ## 2. All settings -/

/-- The keys of the capability. -/
def capabilityKeys : List String := ["capability", "style_capability", "styleCapability"]

/-- The capability that entries describe. -/
def capabilityOf (entries : List (Data × Data)) : Except OptionFault Capability :=
  match Data.pick? entries capabilityKeys with
  | some d => readCapability d
  | none => .ok standard.capability

/-- Whether entries ask for known styles only. -/
def strictOf (entries : List (Data × Data)) : Bool :=
  match Data.pick? entries ["strict_styles", "strictStyles"] with
  | some d => d.isTrue
  | none => standard.strict

/-- The settings that the entries of a mapping describe. -/
def ofEntries (entries : List (Data × Data)) : Except OptionFault Options := do
  let capability ← capabilityOf entries
  let enumeration ← readSection "collapse" readEnumeration standard.enumeration entries
  let indent ← readSection "compose" readAssembly standard.indent entries
  let wording ← readSection "formats" readWording standard.wording entries
  return ⟨capability, enumeration, indent, wording, strictOf entries⟩

end Options

end Phrasing
