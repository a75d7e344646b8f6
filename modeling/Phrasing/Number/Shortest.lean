/-
# Shortest decimal text

A number of the binary format is written with the fewest significant digits that read back as
the same number, and among those with the digits nearest to it.

The numbers that round to `m * 2 ^ q` fill an interval around it: half a step to either side,
but a quarter below a power of two, where the steps below are half as long; the ends belong to
it iff `m` is even.  For one digit, two digits and so on, at most two decimals next to the
number can lie in the interval, so the first count of digits for which one does is the answer.
-/
import Phrasing.Number.Binary64
import Phrasing.Number.Integer

namespace Phrasing.Binary64

/-! ## 1. The digits -/

/-- A decimal `digits * 10 ^ power`. -/
structure Decimal where
  digits : Nat
  power : Int
deriving DecidableEq, Repr

/-- The interval of the numbers that round to `m * 2 ^ q`: four times its lower end, of the
number itself and of its upper end, over a common denominator. -/
structure Neighbourhood where
  lower : Nat
  middle : Nat
  upper : Nat
  denominator : Nat
  closed : Bool

/-- The interval around `m * 2 ^ q`. -/
def neighbourhood (m : Nat) (q : Int) : Neighbourhood :=
  let below := if m = Nat.pow 2 52 ∧ minExponent < q then 1 else 2
  let scale := Nat.pow 2 q.toNat
  { lower := (4 * m - below) * scale
    middle := 4 * m * scale
    upper := (4 * m + 2) * scale
    denominator := Nat.pow 2 (-q).toNat
    closed := m % 2 == 0 }

/-- `10 ^ power` as a fraction. -/
def tenPower (power : Int) : Nat × Nat := (Nat.pow 10 power.toNat, Nat.pow 10 (-power).toNat)

/-- Whether `digits * 10 ^ power` lies in the interval. -/
def Neighbourhood.contains (i : Neighbourhood) (d : Decimal) : Bool :=
  let (num, den) := tenPower d.power
  let x := 4 * d.digits * num * i.denominator
  if i.closed then i.lower * den ≤ x && x ≤ i.upper * den
  else i.lower * den < x && x < i.upper * den

/-- The greatest multiple of `10 ^ power` that is no greater than the middle. -/
def Neighbourhood.floorAt (i : Neighbourhood) (power : Int) : Nat :=
  let (num, den) := tenPower power
  i.middle * den / (4 * num * i.denominator)

/-- Of the two decimals of the grid `10 ^ power` around the middle, the one in the interval;
if both are, the nearer, and the even one at equal distance. -/
def Neighbourhood.pick? (i : Neighbourhood) (power : Int) : Option Decimal :=
  let below : Decimal := ⟨i.floorAt power, power⟩
  let above : Decimal := ⟨i.floorAt power + 1, power⟩
  match i.contains below, i.contains above with
  | true, false => some below
  | false, true => some above
  | false, false => none
  | true, true =>
    let (num, den) := tenPower power
    let twice := 2 * i.middle * den
    let between := 4 * (2 * below.digits + 1) * num * i.denominator
    if twice < between then some below
    else if between < twice then some above
    else if below.digits % 2 = 0 then some below else some above

/-- The power of the leading decimal digit of the middle. -/
def Neighbourhood.leadingPower (i : Neighbourhood) : Int :=
  let guess : Int :=
    ((Nat.log2 i.middle : Int) - 2 - (Nat.log2 i.denominator : Int)) * 30103 / 100000 - 1
  if i.floorAt (guess + 2) ≠ 0 then guess + 2
  else if i.floorAt (guess + 1) ≠ 0 then guess + 1
  else guess

/-- The first grid, from `power` down, with a decimal in the interval. -/
def Neighbourhood.search (i : Neighbourhood) : (tries : Nat) → (power : Int) → Decimal
  | 0, power => ⟨i.floorAt power, power⟩
  | tries + 1, power =>
    match i.pick? power with
    | some d => d
    | none => i.search tries (power - 1)

/-- Moves the zeros at the end of the digits, of which there are at most `limit`, into the
power. -/
def Decimal.trim : (limit : Nat) → Decimal → Decimal
  | 0, d => d
  | limit + 1, d =>
    if d.digits ≠ 0 ∧ d.digits % 10 = 0 then trim limit ⟨d.digits / 10, d.power + 1⟩ else d

/-- The shortest decimal that reads back as `m * 2 ^ q`: seventeen digits always do. -/
def shortest (m : Nat) (q : Int) : Decimal :=
  let i := neighbourhood m q
  (i.search 17 i.leadingPower).trim 18

/-! ## 2. The layout -/

/-- The choices a layout makes for whole numbers: whether `.0` shows that the number is not
an integer, and whether zero keeps its sign. -/
structure Layout where
  keepPoint : Bool
  signedZero : Bool
deriving DecidableEq, Repr

/-- The layout that tells every number of the format from every integer. -/
def exactLayout : Layout := ⟨true, true⟩

/-- The layout of messages, which shows a whole number like an integer. -/
def plainLayout : Layout := ⟨false, false⟩

/-- A power of ten after the `e`: a sign and at least two digits. -/
def exponentText (power : Int) : Text :=
  let ds := Number.digits power.natAbs
  (if power < 0 then '-' else '+') :: (if ds.length < 2 then '0' :: ds else ds)

/-- A decimal, positional from `0.0001` up to below `10 ^ 16` and with an exponent outside. -/
def layOut (style : Layout) (d : Decimal) : Text :=
  let ds := Number.digits d.digits
  let point : Int := ds.length + d.power
  if -4 < point ∧ point ≤ 16 then
    if point ≤ 0 then '0' :: '.' :: List.replicate (-point).toNat '0' ++ ds
    else if point < ds.length then ds.take point.toNat ++ '.' :: ds.drop point.toNat
    else
      ds ++ List.replicate (point - ds.length).toNat '0' ++
        (if style.keepPoint then ['.', '0'] else [])
  else
    match ds with
    | [] => []
    | [c] => c :: 'e' :: exponentText (point - 1)
    | c :: rest => c :: '.' :: rest ++ 'e' :: exponentText (point - 1)

/-- The text of a number. -/
def text (style : Layout) : Binary64 → Text
  | .undefined => "nan".toList
  | .infinite negative => if negative then "-inf".toList else "inf".toList
  | .finite negative m q =>
    if m = 0 then
      (if negative && style.signedZero then ['-', '0'] else ['0']) ++
        (if style.keepPoint then ['.', '0'] else [])
    else
      let t := layOut style (shortest m q)
      if negative then '-' :: t else t

/-! ## 3. Reading -/

/-- An exponent mark with its digits; the power it stands for and the rest.  Without digits it
is no exponent. -/
def readExponent (t : Text) : Int × Text :=
  match t with
  | e :: rest =>
    if e = 'e' ∨ e = 'E' then
      let (negative, body) := Number.readSign rest
      let ds := body.takeWhile Text.isAsciiDigit
      if ds.isEmpty then (0, t)
      else (Number.signed negative (ds.map (·.toNat - 48)), body.drop ds.length)
    else (0, t)
  | [] => (0, t)

/-- Reads an unsigned decimal with an optional fraction and exponent; `none` unless there is a
digit before the exponent. -/
def readUnsigned (negative : Bool) (t : Text) : Option (Binary64 × Text) :=
  let whole := t.takeWhile Text.isAsciiDigit
  let rest := t.drop whole.length
  let fraction :=
    match rest with
    | '.' :: more => more.takeWhile Text.isAsciiDigit
    | _ => []
  let rest :=
    match rest with
    | '.' :: more => more.drop fraction.length
    | _ => rest
  let ds := (whole ++ fraction).map (·.toNat - 48)
  if ds.isEmpty then none
  else
    let (power, rest) := readExponent rest
    some (ofDecimal negative (Text.digitsValue ds) (power - fraction.length), rest)

/-- Reads a number that fills the text: a decimal, or the name of a number that has none. -/
def read? (t : Text) : Option Binary64 :=
  let (negative, body) := Number.readSign t
  let word := body.map Char.toLower
  if word = "inf".toList ∨ word = "infinity".toList then some (.infinite negative)
  else if word = "nan".toList then some .undefined
  else
    match readUnsigned negative body with
    | some (x, []) => some x
    | _ => none

end Phrasing.Binary64
