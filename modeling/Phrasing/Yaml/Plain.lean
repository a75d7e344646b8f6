/-
# Scalars without quotes

A scalar that is written bare and carries no tag is what its text looks like: a truth value, a
number, a date or a moment, nothing, the key of a merge, or else a text.  Digits of numbers may
have underscores among them.

A moment with a zone is taken to universal time and has no zone any more; fractions of a second
are rounded to microseconds, a half upwards.
-/
import Phrasing.Data.Number
import Phrasing.Yaml.Basic

namespace Phrasing.Yaml

/-! ## 1. What a text looks like -/

/-- What the text of a scalar looks like. -/
inductive Look where
  | nothing
  | truth (b : Bool)
  | integer
  | real
  | time
  | merge
  | value
  | text
deriving DecidableEq, Repr

/-- The text behind a sign. -/
def unsigned : Text → Text
  | '+' :: t => t
  | '-' :: t => t
  | t => t

/-- A digit or an underscore. -/
def isLooseDigit (c : Char) : Bool := Text.isAsciiDigit c || c == '_'

/-- A letter that marks an exponent. -/
def isExponentMark (c : Char) : Bool := c == 'e' || c == 'E'

/-- Whether a text is a run of characters of one sort. -/
def isRun (p : Char → Bool) (t : Text) : Bool := !t.isEmpty && t.all p

/-- Whether a text is an exponent with its mark.  The sign may be required. -/
def isExponent (signed : Bool) : Text → Bool
  | mark :: t =>
    isExponentMark mark && isRun Text.isAsciiDigit (unsigned t) &&
      (!signed || (t.head?.map fun c => c == '+' || c == '-').getD false)
  | [] => false

/-- Whether a text without sign looks like an integer: of base two, eight, ten or sixteen. -/
def looksInteger (t : Text) : Bool :=
  isRun isLooseDigit t ||
    match t with
    | '0' :: 'b' :: t => isRun (fun c => c == '0' || c == '1' || c == '_') t
    | '0' :: 'o' :: t => isRun (fun c => ('0' ≤ c && c ≤ '7') || c == '_') t
    | '0' :: 'x' :: t =>
      isRun (fun c => isLooseDigit c || ('a' ≤ c && c ≤ 'f') || ('A' ≤ c && c ≤ 'F')) t
    | _ => false

/-- The words for an infinity. -/
def infinityWords : List String := [".inf", ".Inf", ".INF"]

/-- The words for the undefined number. -/
def undefinedWords : List String := [".nan", ".NaN", ".NAN"]

/-- Whether a text is one of some words. -/
def isOneOf (words : List String) (t : Text) : Bool := words.any (·.toList = t)

/-- Whether a text without sign looks like a floating-point number. -/
def looksReal (t : Text) : Bool :=
  let whole := t.takeWhile isLooseDigit
  match t.drop whole.length with
  | '.' :: rest =>
    let fraction := rest.takeWhile isLooseDigit
    let behind := rest.drop fraction.length
    if whole.isEmpty then
      (!fraction.isEmpty && (behind.isEmpty || isExponent true behind)) || isOneOf infinityWords t
    else whole.head? ≠ some '_' && (behind.isEmpty || isExponent false behind)
  | behind => !whole.isEmpty && whole.head? ≠ some '_' && isExponent false behind

/-! ## 2. Dates and moments -/

/-- The numbers of a date or a moment, as they are written. -/
structure TimeText where
  year : Text
  month : Text
  day : Text
  clock : Option (Text × Text × Text)
  fraction : Text
  zone : Option (Bool × Text × Text)
deriving DecidableEq, Repr

/-- Between `least` and `most` digits at the front of a text. -/
def readDigits (least most : Nat) (t : Text) : Option (Text × Text) :=
  let ds := (t.take most).takeWhile Text.isAsciiDigit
  if least ≤ ds.length then some (ds, t.drop ds.length) else none

/-- A character at the front of a text. -/
def readChar (c : Char) : Text → Option Text
  | x :: t => if x = c then some t else none
  | [] => none

/-- The distance from universal time that ends a moment: nothing, `Z`, or hours and minutes. -/
def readZone (t : Text) : Option (Option (Bool × Text × Text)) :=
  match t.dropWhile isBlank with
  | [] => if t.isEmpty then some none else none
  | ['Z'] => some none
  | sign :: rest =>
    if sign = '+' ∨ sign = '-' then do
      let (hours, rest) ← readDigits 1 2 rest
      match rest with
      | [] => return some (sign == '-', hours, [])
      | rest =>
        let (minutes, rest) ← readChar ':' rest >>= readDigits 2 2
        if rest.isEmpty then return some (sign == '-', hours, minutes) else failure
    else none

/-- The fraction of a second behind its point, and the rest. -/
def readFraction : Text → Text × Text
  | '.' :: t => t.span Text.isAsciiDigit
  | t => ([], t)

/-- What separates the day from the time of day: the letter `T`, or blanks. -/
def readTimeMark (t : Text) : Option Text :=
  match t with
  | c :: rest =>
    if c = 'T' ∨ c = 't' then some rest
    else if isBlank c then some (rest.dropWhile isBlank)
    else none
  | [] => none

/-- The parts of a text that looks like a date or a moment. -/
def readTime? (t : Text) : Option TimeText := do
  let (year, rest) ← readDigits 4 4 t
  let (month, rest) ← readChar '-' rest >>= readDigits 1 2
  let (day, rest) ← readChar '-' rest >>= readDigits 1 2
  if rest.isEmpty then
    if month.length = 2 ∧ day.length = 2 then return ⟨year, month, day, none, [], none⟩
    else failure
  let (hour, rest) ← readTimeMark rest >>= readDigits 1 2
  let (minute, rest) ← readChar ':' rest >>= readDigits 2 2
  let (second, rest) ← readChar ':' rest >>= readDigits 2 2
  let (fraction, rest) := readFraction rest
  let zone ← readZone rest
  return ⟨year, month, day, some (hour, minute, second), fraction, zone⟩

/-- The number that digits spell. -/
def digitsNumber (t : Text) : Nat := Text.digitsValue (t.map (·.toNat - 48))

/-- The microseconds that a fraction of a second is, rounded. -/
def microseconds (fraction : Text) : Nat :=
  let whole := digitsNumber ((fraction ++ List.replicate 6 '0').take 6)
  if (fraction[6]?).any fun c => '4' < c then whole + 1 else whole

/-- The moment a number of microseconds after the start of year 1. -/
def momentAt (n : Int) : Except Fault Moment :=
  let days := n / 86400000000
  let rest := (n % 86400000000).toNat
  if days < 0 ∨ 3652059 ≤ days then .error .calendarRange
  else
    let seconds := rest / 1000000
    .ok ⟨Date.ofDayCount days.toNat,
      ⟨seconds / 3600, seconds / 60 % 60, seconds % 60, rest % 1000000⟩, none⟩

/-- The date or moment of a text. -/
def timeData (p : TimeText) : Except Fault Data := do
  let date ←
    (Date.ofNumbers (digitsNumber p.year) (digitsNumber p.month) (digitsNumber p.day)).mapError
      .calendar
  match p.clock with
  | none => return .date date
  | some (hour, minute, second) =>
    let clock ←
      (Clock.ofNumbers (digitsNumber hour) (digitsNumber minute) (digitsNumber second) 0).mapError
        .calendar
    let moment : Moment := ⟨date, clock, none⟩
    let away : Int :=
      match p.zone with
      | none => 0
      | some (negative, hours, minutes) =>
        let n : Int := digitsNumber hours * 60 + digitsNumber minutes
        if negative then -n else n
    let n := moment.localMicroseconds + microseconds p.fraction - away * 60000000
    return .moment (← momentAt n)

/-! ## 3. Data -/

/-- What the text of a scalar looks like. -/
def lookOf (t : Text) : Look :=
  if isOneOf ["", "~", "null", "Null", "NULL"] t then .nothing
  else if isOneOf ["true", "True", "TRUE"] t then .truth true
  else if isOneOf ["false", "False", "FALSE"] t then .truth false
  else if t = ['<', '<'] then .merge
  else if t = ['='] then .value
  else
    match t with
    | [] => .nothing
    | c :: _ =>
      if c = '+' ∨ c = '-' ∨ c = '.' ∨ Text.isAsciiDigit c then
        if looksReal (unsigned t) || isOneOf undefinedWords t then .real
        else if c ≠ '.' ∧ looksInteger (unsigned t) then .integer
        else if (readTime? t).isSome then .time
        else .text
      else .text

/-- The number that digits of some base spell. -/
def basedNumber (base : Nat) (t : Text) : Except Fault Int :=
  if t.isEmpty then .error (.noDigits base)
  else
    match t.mapM fun c => ("0123456789abcdef".toList.take base).idxOf? (Char.toLower c) with
    | some ds => .ok (ds.foldl (fun n d => n * base + d) 0 : Nat)
    | none => .error (.number (.notAnInteger (Text.quote t)))

/-- The integer of a text. -/
def integerData (t : Text) : Except Fault Int := do
  let digits := t.filter (· ≠ '_')
  let n ←
    match unsigned digits with
    | '0' :: 'b' :: rest => basedNumber 2 rest
    | '0' :: 'o' :: rest => basedNumber 8 rest
    | '0' :: 'x' :: rest => basedNumber 16 rest
    | rest => (Number.read rest).mapError .number
  return if digits.head? = some '-' then -n else n

/-- The floating-point number of a text. -/
def realData (t : Text) : Except Fault Binary64 :=
  let digits := (t.filter (· ≠ '_')).map Char.toLower
  let negative := digits.head? = some '-'
  let body := unsigned digits
  if body = ".inf".toList then .ok (.infinite negative)
  else if body = ".nan".toList then .ok .undefined
  else
    match Binary64.readUnsigned negative body with
    | some (x, []) => .ok x
    | _ => .error (.noReal body)

/-- The data of a scalar that is written bare and carries no tag. -/
def plainData (t : Text) : Except Fault Data :=
  match lookOf t with
  | .nothing => .ok .absent
  | .truth b => .ok (.truth b)
  | .integer => return .integer (← integerData t)
  | .real => return .real (← realData t)
  | .time =>
    match readTime? t with
    | some p => timeData p
    | none => .ok (.text t)
  | .merge => .ok (.text t)
  | .value => .error .unknownTag
  | .text => .ok (.text t)

end Phrasing.Yaml
