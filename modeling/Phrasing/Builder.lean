/-
# Builders

A builder makes a message call by call.  It keeps its options and what was added so far, and works
in a session: the templates of its additions come from the cache, and the registry remembers what it
has warned about.

An addition that fails leaves the message as it is.  What it did in the session before it failed is
not undone.
-/
import Phrasing.Message
import Phrasing.Session

namespace Phrasing

/-- The text of an addition, whose template comes from the cache if it is there. -/
def Session.addition (o : Options) : Addition → Session.Step Text
  | .line source d | .inline source d => render o none source d []
  | .bullet name source d =>
    match bulletMark name o.capability with
    | .error f => throw f
    | .ok mark => return mark ++ ' ' :: (← render o none source d [])
  | a => perform none (a.text o)

/-- A message in the making. -/
structure Builder where
  options : Options
  session : Session
  message : Message

namespace Builder

/-- What can be asked of a builder. -/
inductive Call where
  | add (a : Addition)
  | build

/-- What a builder answers. -/
inductive Answer where
  | added
  | failed (f : Failure)
  | text (t : Text)

/-- A builder in a session.  If it has a registry of its own, it works with that one. -/
def start (o : Options) (own : Option Registry) (s : Session) : Builder :=
  ⟨o, { s with registry := own.getD s.registry }, .empty⟩

/-- The answer to a call, and the builder after it. -/
def serve (b : Builder) : Call → Answer × Builder
  | .add a =>
    match (Session.addition b.options a).run b.session with
    | (.ok t, s) => (.added, { b with session := s, message := b.message.add t a.placement })
    | (.error f, s) => (.failed f, { b with session := s })
  | .build => (.text (b.message.build b.options), b)

/-- The builder after some calls. -/
def after (b : Builder) (calls : List Call) : Builder := calls.foldl (fun b c => (b.serve c).2) b

end Builder

end Phrasing
