/-
# Notices

What the library reports beside its results: warnings about styles, and traces of its work for
those who want them.
-/
import Phrasing.Text.Quoted

namespace Phrasing

/-- How important a notice is. -/
inductive Level where
  | debug
  | warning
deriving DecidableEq, Repr

/-- Something reported beside a result. -/
inductive Notice where
  /-- A style was registered under a name that had one. -/
  | styleReplaced (name : Text)
  /-- A style was not registered, and the fallback stood in for it for the first time. -/
  | styleUnknown (name : Text)
  /-- A template was read into so many tokens. -/
  | tokenized (count : Nat)
  /-- Tokens made so many segments. -/
  | parsed (count : Nat)
  /-- A configuration with so many styles was read. -/
  | configLoaded (origin : Text) (styles : Nat)
deriving DecidableEq, Repr

namespace Notice

/-- How important a notice is. -/
def level : Notice → Level
  | styleReplaced _ | styleUnknown _ => .warning
  | tokenized _ | parsed _ | configLoaded .. => .debug

/-- The part of the library a notice comes from. -/
def topic : Notice → String
  | styleReplaced _ | styleUnknown _ => "msgc.styles.registry"
  | tokenized _ => "msgc.template.lexer"
  | parsed _ => "msgc.template.parser"
  | configLoaded .. => "msgc.config"

/-- The wording of a notice. -/
def message : Notice → String
  | styleReplaced name => s!"Style '{Text.string name}' overwrites existing style"
  | styleUnknown name => s!"Unknown style '{Text.string name}', rendering as plain text"
  | tokenized count => s!"Tokenized template into {count} tokens"
  | parsed count => s!"Parsed template with {count} segments"
  | configLoaded origin styles =>
    s!"Loaded config from {Text.string origin} ({styles} custom styles)"

/-- A notice as a line of a log. -/
def line (n : Notice) : String :=
  let level := match n.level with
    | .debug => "DEBUG"
    | .warning => "WARNING"
  s!"[{level}] {n.topic}: {n.message}"

end Notice

end Phrasing
