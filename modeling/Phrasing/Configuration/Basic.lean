/-
# Configurations

A configuration holds the options of rendering and styles of its own.  It is read from the
entries of a mapping: every key has to be known, and some must stand for mappings.  A style is
described by a text with one pair of braces for what is styled, or by its markers and
renditions.

A fault in an option is reported with the origin of the configuration in front, if it is a
mistake in a value or a type; the others are left as they are.  So is a number of too many digits
in what else becomes a text: a key, or a part of a style.
-/
import Phrasing.Options
import Phrasing.Style.Registry

namespace Phrasing

/-- Why a mapping is no configuration. -/
inductive ConfigurationFault where
  | unknownKeys (names : List Text)
  /-- The key has to stand for a mapping. -/
  | notAMapping (key : String)
  | option (f : OptionFault)
  /-- The text that describes the style does not have one pair of braces. -/
  | wrapper (style : Text)
  /-- Data of this type does not describe a style. -/
  | notAStyle (style : Text) (typeName : String)
  /-- The renditions of the style are not a pair. -/
  | notAPair (style : Text)
  /-- A key or a part of a style shows a number of too many digits. -/
  | number (f : NumberFault)

/-- A fault in the configuration from some place. -/
structure ConfigurationError where
  origin : Text
  fault : ConfigurationFault

/-- Options and styles. -/
structure Configuration where
  options : Options
  styles : Named Markers

namespace ConfigurationError

/-- Whether an error is reported as one of the configuration. -/
def isReported (e : ConfigurationError) : Bool :=
  match e.fault with
  | .option f => f.mistake = .value || f.mistake = .type
  | .number _ => false
  | _ => true

/-- The wording of a fault, without its origin. -/
def reason : ConfigurationFault → String
  | .unknownKeys names => s!"unknown keys: {Text.listed names}"
  | .notAMapping key => s!"'{key}' must be a mapping"
  | .option f => f.message
  | .wrapper style =>
    s!"styles.{Text.string style}: wrapper must contain exactly one '\x7b\x7d'"
  | .notAStyle style typeName =>
    s!"styles.{Text.string style}: expected string or mapping, got {typeName}"
  | .notAPair style => s!"styles.{Text.string style}: 'sgr' must be a pair [on, off]"
  | .number f => Number.describe f

/-- How an error is worded. -/
def message (e : ConfigurationError) : String :=
  if e.isReported then s!"{Text.string e.origin}: {reason e.fault}" else reason e.fault

end ConfigurationError

namespace Configuration

/-- The configuration used when none is given. -/
def standard : Configuration := ⟨Options.standard, []⟩

/-- The keys that a configuration can have. -/
def keys : List String :=
  ["capability", "style_capability", "styleCapability", "collapse", "compose", "formats", "styles",
    "strict_styles", "strictStyles"]

/-- The keys that have to stand for mappings. -/
def mappingKeys : List String := ["collapse", "compose", "formats", "styles"]

/-- Whether a key is known. -/
def isKnown : Data → Bool
  | .text t => keys.any (·.toList = t)
  | _ => false

/-- Whether data is a mapping. -/
def isMapping : Data → Bool
  | .mapping _ => true
  | _ => false

/-! ## 1. Styles -/

/-- Whether a text has a pair of braces with nothing between them. -/
def hasBraces : Text → Bool
  | [] => false
  | '\x7b' :: '\x7d' :: _ => true
  | _ :: rest => hasBraces rest

/-- Cuts a text at its only pair of braces; `none` if there is not exactly one. -/
def splitWrapper? : Text → Option (Text × Text)
  | [] => none
  | '\x7b' :: '\x7d' :: rest => if hasBraces rest then none else some ([], rest)
  | c :: rest => (splitWrapper? rest).map fun (before, after) => (c :: before, after)

/-- Data as a part of a style, or as its name. -/
def writtenText (d : Data) : Except ConfigurationFault Text := d.asText?.mapError .number

/-- The renditions that an entry of a style describes. -/
def readRendition (style : Text) : Option Data →
    Except ConfigurationFault (Option (Text × Text))
  | none | some .absent => .ok none
  | some (.list [on, off]) | some (.tuple [on, off]) => do
    return some (← writtenText on, ← writtenText off)
  | some _ => .error (.notAPair style)

/-- The text of an entry, which may be anything. -/
def entryText (key : String) (entries : List (Data × Data)) : Except ConfigurationFault Text :=
  match Data.field? key.toList entries with
  | some d => writtenText d
  | none => .ok []

/-- The style that data describes. -/
def readStyle (name : Text) : Data → Except ConfigurationFault Markers
  | .text t =>
    match splitWrapper? t with
    | some (before, after) => .ok ⟨before, after, none, false⟩
    | none => .error (.wrapper name)
  | .mapping entries => do
    let rendition ← readRendition name (Data.field? "sgr".toList entries)
    let keep :=
      match Data.field? "keep_markers".toList entries with
      | some d => d.isTrue
      | none => false
    return ⟨← entryText "prefix" entries, ← entryText "suffix" entries, rendition, keep⟩
  | d => .error (.notAStyle name d.typeName)

/-- The styles that entries describe, added to those before them. -/
def readStyles (before : Named Markers) :
    List (Data × Data) → Except ConfigurationFault (Named Markers)
  | [] => .ok before
  | (key, d) :: entries => do
    let name ← writtenText key
    let style ← readStyle name d
    readStyles (Named.set name style before) entries

/-! ## 2. Whole configurations -/

/-- Refuses keys that are not known. -/
def checkKeys (entries : List (Data × Data)) : Except ConfigurationFault Unit :=
  match entries.filter fun entry => !isKnown entry.1 with
  | [] => .ok ()
  | unknown => do
    let names ← unknown.mapM fun entry => writtenText entry.1
    throw (.unknownKeys (Text.sort names))

/-- Refuses the first of the keys for mappings that stands for something else. -/
def checkMappings (entries : List (Data × Data)) : Except ConfigurationFault Unit :=
  let bad := mappingKeys.find? fun key =>
    (Data.field? key.toList entries).any fun d => !isMapping d
  match bad with
  | some key => .error (.notAMapping key)
  | none => .ok ()

/-- The configuration that entries describe, whatever its origin. -/
def readEntries (entries : List (Data × Data)) : Except ConfigurationFault Configuration := do
  checkKeys entries
  checkMappings entries
  let options ← (Options.ofEntries entries).mapError .option
  let styles ← readStyles [] ((Options.section? "styles" entries).getD [])
  return ⟨options, styles⟩

/-- The configuration that entries from some place describe. -/
def ofEntries (origin : Text) (entries : List (Data × Data)) :
    Except ConfigurationError Configuration :=
  (readEntries entries).mapError fun f => ⟨origin, f⟩

/-! ## 3. Applying -/

/-- Registers the styles of a configuration, in their order. -/
def apply (c : Configuration) (r : Registry) :
    Except RegistrationFault Unit × Registry × List Notice :=
  r.registerAll (c.styles.map fun (name, m) => (name, some (.markers m)))

end Configuration

end Phrasing
