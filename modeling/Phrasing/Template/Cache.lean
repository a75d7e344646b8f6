/-
# Template caches

Reading a template depends only on its source and its delimiters, so a template that was read
once can be kept.  A cache keeps the templates that were asked for most recently, up to a limit
if it has one, and counts how often it could answer.  Sources that fail to be read are not kept.

The entries stand in the order of their latest use, the one to be dropped next first.
-/
import Phrasing.Template.Basic

namespace Phrasing

/-- What a template is kept under. -/
structure CacheKey where
  source : Text
  delimiters : Delimiters
deriving DecidableEq

/-- Why a cache gives no template: two texts are no pair of delimiters, or the source is not
accepted between them. -/
inductive CacheFault where
  | delimiters (f : DelimiterFault)
  | template (f : ParseFault)
deriving DecidableEq, Repr

/-- Templates that were read, and how often they were found or not. -/
structure TemplateCache where
  limit : Option Nat
  entries : List (CacheKey × Template)
  hits : Nat
  misses : Nat

namespace TemplateCache

/-- The limit used when none is given. -/
def standardLimit : Nat := 512

/-- The cache without templates. -/
def empty (limit : Option Nat) : TemplateCache := ⟨limit, [], 0, 0⟩

/-- The number of templates kept. -/
def size (c : TemplateCache) : Nat := c.entries.length

/-- The template kept under a key. -/
def find? (c : TemplateCache) (key : CacheKey) : Option Template :=
  (c.entries.find? fun entry => entry.1 = key).map Prod.snd

/-- The entries without those that are beyond the limit. -/
def evict (limit : Option Nat) (entries : List (CacheKey × Template)) :
    List (CacheKey × Template) :=
  match limit with
  | none => entries
  | some n => entries.drop (entries.length - n)

/-- The entries with one as the most recent. -/
def refresh (key : CacheKey) (t : Template) (entries : List (CacheKey × Template)) :
    List (CacheKey × Template) :=
  entries.filter (fun entry => entry.1 ≠ key) ++ [(key, t)]

/-- The template with the given source: the one that is kept, or one that is read. -/
def get (c : TemplateCache) (key : CacheKey) : Except ParseFault Template × TemplateCache :=
  match c.find? key with
  | some t => (.ok t, { c with entries := refresh key t c.entries, hits := c.hits + 1 })
  | none =>
    let c' := { c with misses := c.misses + 1 }
    match Template.parse key.delimiters key.source with
    | .error f => (.error f, c')
    | .ok t => (.ok t, { c' with entries := evict c.limit (refresh key t c.entries) })

/-- The template with the given source, between delimiters that are given as texts.  Texts that
are no delimiters are not looked up at all. -/
def request (c : TemplateCache) (source : Text) (delimiters : List Text) :
    Except CacheFault Template × TemplateCache :=
  match Delimiters.ofTexts delimiters with
  | .error f => (.error (.delimiters f), c)
  | .ok d =>
    let (result, c') := c.get ⟨source, d⟩
    (result.mapError .template, c')

/-- The cache without its templates and counts. -/
def clear (c : TemplateCache) : TemplateCache := empty c.limit

end TemplateCache

end Phrasing
