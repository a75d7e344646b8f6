/-
# Options on a command line

The words of a command line are options or not.  An option starts with a hyphen and has a long
name, which may be cut short as long as it stays clear, or a name of one letter.  A value follows
as the next word or behind an equals sign.  A lone hyphen and negative numbers are no options,
and two hyphens make all words after them plain.

Options that end the reading at once, to show help or the version, do so when they are reached.
-/
import Phrasing.Text.Digit

namespace Phrasing.Command

/-! ## 1. Words -/

/-- What an option does. -/
inductive OptionUse where
  /-- It is there or not. -/
  | flag
  /-- It has a value, of which not every text may be one. -/
  | value (accepts : Text → Bool)
  /-- It ends the reading. -/
  | stop

/-- An option: the name that it is known by, all its spellings, and its use. -/
structure OptionSpec where
  name : String
  spellings : List String
  use : OptionUse

/-- Why reading ends before the end of the words. -/
inductive Stop where
  | misuse
  /-- An option of this name asks for it. -/
  | asked (name : String)
deriving DecidableEq, Repr

/-- A word by what it is.  An option has the spelling that was meant and the value behind the
equals sign, if there is one. -/
inductive Word where
  | plain (t : Text)
  | marker
  | option (spec : OptionSpec) (spelling : Text) (value : Option Text)
  | unknown

/-- Digits, or a point with digits behind it and possibly before it. -/
def isUnsignedNumber (t : Text) : Bool :=
  let isDigit := fun c => (Text.digitValue? c).isSome
  match t.dropWhile isDigit with
  | [] => !t.isEmpty
  | '.' :: ds => !ds.isEmpty && ds.all isDigit
  | _ => false

/-- Whether a word is a negative number; a line feed may end it. -/
def isNegativeNumber : Text → Bool
  | '-' :: t => isUnsignedNumber (if t.getLast? = some '\n' then t.dropLast else t)
  | _ => false

/-- The option with a spelling. -/
def spelled? (specs : List OptionSpec) (t : Text) : Option (OptionSpec × Text) :=
  specs.findSome? fun spec =>
    (spec.spellings.find? (·.toList = t)).map fun spelling => (spec, spelling.toList)

/-- A word cut at its first equals sign. -/
def cutValue (t : Text) : Text × Option Text :=
  match Text.cutAt? '=' t with
  | some (name, value) => (name, some value)
  | none => (t, none)

/-- The options with the spellings that start with a text. -/
def startingWith (specs : List OptionSpec) (start : Text) : List (OptionSpec × Text) :=
  specs.flatMap fun spec =>
    (spec.spellings.filter fun s => start.isPrefixOf s.toList).map fun s => (spec, s.toList)

/-- The options that a word which is no spelling may mean, with their spellings and values: those
that a long name is the start of; or the one of the letter behind a single hyphen, the rest being
its value, and those that the word is the start of. -/
def candidates (specs : List OptionSpec) (t : Text) : List (OptionSpec × Text × Option Text) :=
  match t with
  | '-' :: '-' :: _ =>
    let (name, value) := cutValue t
    (startingWith specs name).map fun (spec, spelling) => (spec, spelling, value)
  | '-' :: letter :: rest =>
    let short := (specs.flatMap fun spec =>
      (spec.spellings.filter (·.toList = ['-', letter])).map fun s =>
        (spec, s.toList, some rest))
    short ++ (startingWith specs t).map fun (spec, spelling) => (spec, spelling, none)
  | _ => []

/-- What a word is that is not behind the marker. -/
def wordOf (specs : List OptionSpec) (t : Text) : Except Stop Word :=
  match t with
  | '-' :: _ :: _ =>
    match spelled? specs t with
    | some (spec, spelling) => .ok (.option spec spelling none)
    | none =>
      match cutValue t with
      | (name, some value) =>
        match spelled? specs name with
        | some (spec, spelling) => .ok (.option spec spelling (some value))
        | none => guess
      | _ => guess
  | t => .ok (.plain t)
where
  /-- A word that is not the spelling of an option. -/
  guess : Except Stop Word :=
    match candidates specs t with
    | [(spec, spelling, value)] => .ok (.option spec spelling value)
    | [] =>
      if isNegativeNumber t || t.contains ' ' then .ok (.plain t) else .ok .unknown
    | _ => .error .misuse

/-- What the words of a command line are. -/
def wordsOf (specs : List OptionSpec) : List Text → Except Stop (List Word)
  | [] => .ok []
  | t :: ts =>
    if t = ['-', '-'] then .ok (.marker :: ts.map .plain)
    else return (← wordOf specs t) :: (← wordsOf specs ts)

/-! ## 2. Reading -/

/-- How many plain words a command takes. -/
inductive Arity where
  | zero
  | one
  | many
deriving DecidableEq, Repr

/-- What was read from the words: the options with their values, in order, the plain words, and
whether there were words too many. -/
structure Reading where
  options : List (String × Text)
  plain : List Text
  excess : Bool
deriving DecidableEq, Repr

namespace Reading

/-- The values of an option, in order. -/
def values (r : Reading) (name : String) : List Text :=
  (r.options.filter (·.1 = name)).map Prod.snd

/-- The last value of an option. -/
def value? (r : Reading) (name : String) : Option Text := (r.values name).getLast?

/-- Whether an option is there. -/
def has (r : Reading) (name : String) : Bool := r.options.any (·.1 = name)

end Reading

/-- A word that is no option. -/
def Word.isPlain : Word → Bool
  | plain _ | marker => true
  | _ => false

/-- The text of a word that is no option. -/
def Word.plainText : Word → Text
  | plain t => t
  | _ => ['-', '-']

/-- The texts of plain words, the marker or the first word like it left out. -/
def plainTexts (ws : List Word) : List Text := (ws.map Word.plainText).erase ['-', '-']

/-- Takes plain words from the front: what is taken, how many words this uses up, and what may
still be taken later.  One word may have the marker on either side. -/
def takePlain (arity : Arity) (ws : List Word) : List Text × Nat × Arity :=
  match arity with
  | .zero => ([], 0, .zero)
  | .many =>
    let run := ws.takeWhile Word.isPlain
    (plainTexts run, run.length, .zero)
  | .one =>
    match ws with
    | .plain t :: .marker :: _ => (plainTexts [.plain t, .marker], 2, .zero)
    | .plain t :: _ => (plainTexts [.plain t], 1, .zero)
    | .marker :: .plain t :: _ => (plainTexts [.marker, .plain t], 2, .zero)
    | _ => ([], 0, .one)

/-- Reads letters in one word behind a single hyphen, all of options without values; the first
one decides. -/
def readLetters (specs : List OptionSpec) (first : OptionSpec) :
    (letters : Text) → Except Stop OptionSpec
  | [] => .ok first
  | letter :: rest =>
    match spelled? specs ['-', letter] with
    | some _ => readLetters specs first rest
    | none => .error .misuse

/-- Reads an option: what it adds, and whether it takes the next word. -/
def readOption (specs : List OptionSpec) (spec : OptionSpec) (spelling : Text)
    (value : Option Text) (next : Option Word) : Except Stop ((String × Text) × Bool) :=
  match spec.use, value with
  | .value accepts, some t => if accepts t then .ok ((spec.name, t), false) else .error .misuse
  | .value accepts, none =>
    match next with
    | some (.plain t) => if accepts t then .ok ((spec.name, t), true) else .error .misuse
    | _ => .error .misuse
  | .flag, none => .ok ((spec.name, []), false)
  | .flag, some _ => .error .misuse
  | .stop, none => .error (.asked spec.name)
  | .stop, some letters =>
    if spelling.take 2 = ['-', '-'] ∨ letters.isEmpty then .error .misuse
    else do
      let first ← readLetters specs spec letters
      throw (.asked first.name)

/-- Reads words one after the other.  Plain words are taken where they are met first, all that
can be; those met later are too many. -/
def readWords (specs : List OptionSpec) : (tries : Nat) → Arity → Reading → List Word →
    Except Stop (Arity × Reading)
  | 0, arity, r, _ => .ok (arity, r)
  | tries + 1, arity, r, ws =>
    match ws with
    | [] => .ok (arity, r)
    | .unknown :: rest => readWords specs tries arity { r with excess := true } rest
    | .option spec spelling value :: rest => do
      let (entry, takesNext) ← readOption specs spec spelling value rest.head?
      readWords specs tries arity { r with options := r.options ++ [entry] }
        (if takesNext then rest.drop 1 else rest)
    | ws =>
      let (ts, n, arity') := takePlain arity ws
      let r' := { r with plain := r.plain ++ ts }
      if n = 0 then
        readWords specs tries arity' { r' with excess := true } (ws.dropWhile Word.isPlain)
      else readWords specs tries arity' r' (ws.drop n)

/-- Reads a command line whose command takes plain words. -/
def read (specs : List OptionSpec) (arity : Arity) (ts : List Text) : Except Stop Reading := do
  let ws ← wordsOf specs ts
  let (left, r) ← readWords specs (ws.length + 1) arity ⟨[], [], false⟩ ws
  if left = .one then throw .misuse else return r

end Phrasing.Command
