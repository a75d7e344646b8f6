/-
# Binary floating-point numbers

The numbers of the 64-bit binary format, as exact data: a significand below 2^53 times a power
of two, two zeros, two infinities and the undefined number.  No machine arithmetic is
involved; rounding and comparison are done in whole numbers.

`ofRatio` rounds a positive fraction to the nearest number, a tie to the even significand.
-/

namespace Phrasing

/-- A number of the 64-bit binary format. -/
inductive Binary64 where
  /-- The result of an undefined operation. -/
  | undefined
  /-- An infinity of either sign. -/
  | infinite (negative : Bool)
  /-- Plus or minus `significand * 2 ^ exponent`. -/
  | finite (negative : Bool) (significand : Nat) (exponent : Int)
deriving DecidableEq, Repr

namespace Binary64

/-- The least exponent: numbers below 2^-1022 have fewer significant bits. -/
def minExponent : Int := -1074

/-- The greatest exponent of a finite number. -/
def maxExponent : Int := 971

/-! ## 1. Rounding -/

/-- The quotient `num / den` scaled by `2 ^ -exponent`, as a fraction. -/
def scaled (num den : Nat) (exponent : Int) : Nat × Nat :=
  if 0 ≤ exponent then (num, den * Nat.pow 2 exponent.toNat)
  else (num * Nat.pow 2 (-exponent).toNat, den)

/-- The nearest whole number to a fraction, a tie to the even one. -/
def roundHalfEven (num den : Nat) : Nat :=
  let q := num / den
  let r := num % den
  if 2 * r < den then q
  else if den < 2 * r then q + 1
  else if q % 2 = 0 then q else q + 1

/-- The exponent under which the significand of `num / den` has 53 bits, or the least
exponent if that is greater. -/
def exponentFor (num den : Nat) : Int :=
  let guess : Int := (Nat.log2 num : Int) - (Nat.log2 den : Int) - 53
  let (n, d) := scaled num den guess
  let exact := if n / d < Nat.pow 2 53 then guess else guess + 1
  max exact minExponent

/-- The number nearest to plus or minus `num / den`. -/
def ofRatio (negative : Bool) (num den : Nat) : Binary64 :=
  if num = 0 then .finite negative 0 minExponent
  else
    let exponent := exponentFor num den
    let (n, d) := scaled num den exponent
    let m := roundHalfEven n d
    let (m, exponent) := if m = Nat.pow 2 53 then (Nat.pow 2 52, exponent + 1) else (m, exponent)
    if maxExponent < exponent then .infinite negative else .finite negative m exponent

/-- The number nearest to plus or minus `digits * 10 ^ power`.  Powers far outside the range
of the format are not computed. -/
def ofDecimal (negative : Bool) (digits : Nat) (power : Int) : Binary64 :=
  let magnitude := (Nat.log2 digits : Int) / 4 + power
  if digits = 0 then .finite negative 0 minExponent
  else if 400 < magnitude then .infinite negative
  else if magnitude < -400 - (Nat.log2 digits : Int) then .finite negative 0 minExponent
  else if 0 ≤ power then ofRatio negative (digits * Nat.pow 10 power.toNat) 1
  else ofRatio negative digits (Nat.pow 10 (-power).toNat)

/-! ## 2. Exact value -/

/-- The exact value as a fraction, numerator and denominator. -/
def ratio? : Binary64 → Option (Int × Nat)
  | .finite negative m exponent =>
    let (n, d) := if 0 ≤ exponent then (m * Nat.pow 2 exponent.toNat, 1)
      else (m, Nat.pow 2 (-exponent).toNat)
    some (if negative then -(n : Int) else n, d)
  | _ => none

/-- Whether a number is not zero; the undefined number is not. -/
def isNonzero : Binary64 → Bool
  | .finite _ m _ => m != 0
  | _ => true

/-- The value with its fractional part cut off. -/
def truncate? (x : Binary64) : Option Int := x.ratio?.map fun (n, d) => Int.tdiv n d

/-- Whether a number is less than one; the undefined number is not. -/
def isBelowOne : Binary64 → Bool
  | .undefined => false
  | .infinite negative => negative
  | x => x.truncate?.getD 0 < 1

/-- Whether a number is whole. -/
def isWhole (x : Binary64) : Bool :=
  match x.ratio? with
  | some (n, d) => n % d == 0
  | none => false

/-- Numerical equality: the zeros are equal, and the undefined number differs from itself. -/
def same : Binary64 → Binary64 → Bool
  | .infinite a, .infinite b => a == b
  | a, b =>
    match a.ratio?, b.ratio? with
    | some (n, d), some (n', d') => n * d' == n' * d
    | _, _ => false

/-- Numerical equality with a whole number. -/
def sameInt (x : Binary64) (k : Int) : Bool :=
  match x.ratio? with
  | some (n, d) => n == k * d
  | none => false

end Binary64

end Phrasing
