/-
# Text in bytes

Bytes are read as UTF-8: one to four bytes to a character, in the shortest form, without the
halves of pairs.  Bytes that are no text are blamed from the first byte of the character that
fails up to the byte that it fails at.

`unifyLines` turns the other ways of ending a line into line feeds.
-/
import Phrasing.Text.Quoted

namespace Phrasing

/-- Why bytes are no text. -/
inductive Utf8Cause where
  /-- No character starts with the byte. -/
  | start
  /-- A byte does not continue the character. -/
  | continuation
  /-- The bytes end inside a character. -/
  | truncated
deriving DecidableEq, Repr

/-- A failure to read bytes: the byte that the character starts with, its offset, the number of
bytes that are blamed, and the cause. -/
structure Utf8Fault where
  octet : UInt8
  offset : Nat
  length : Nat
  cause : Utf8Cause
deriving DecidableEq, Repr

/-- How a cause is worded. -/
def Utf8Cause.message : Utf8Cause → String
  | start => "invalid start byte"
  | continuation => "invalid continuation byte"
  | truncated => "unexpected end of data"

/-- How a failure is worded. -/
def Utf8Fault.message (f : Utf8Fault) : String :=
  let place :=
    if f.length = 1 then
      s!"byte 0x{Text.string (Text.hexDigits 2 f.octet.toNat)} in position {f.offset}"
    else s!"bytes in position {f.offset}-{f.offset + f.length - 1}"
  s!"'utf-8' codec can't decode {place}: {f.cause.message}"

namespace Text

/-- A byte that continues a character. -/
def isContinuation (o : UInt8) : Bool := 0x80 ≤ o && o < 0xC0

/-- Whether a byte can be the second of a character that starts with `first`: it must not make
the character shorter than its form, half a pair, or greater than the last character. -/
def isSecond (first second : UInt8) : Bool :=
  isContinuation second &&
    !((first == 0xE0 && second < 0xA0) || (first == 0xED && 0xA0 ≤ second) ||
      (first == 0xF0 && second < 0x90) || (first == 0xF4 && 0x90 ≤ second))

/-- The number of bytes of a character by its first byte, if a character can start with it. -/
def octetCount? (first : UInt8) : Option Nat :=
  if first < 0x80 then some 1
  else if first < 0xC2 then none
  else if first < 0xE0 then some 2
  else if first < 0xF0 then some 3
  else if first < 0xF5 then some 4
  else none

/-- The low bits of a byte. -/
def lowBits (modulus : Nat) (o : UInt8) : Nat := o.toNat % modulus

/-- A character at the front of bytes and the number of bytes it takes, or the cause of its
failure and the number of bytes to blame. -/
def decodeChar (first : UInt8) (rest : List UInt8) : Except (Utf8Cause × Nat) (Char × Nat) :=
  match octetCount? first with
  | none => .error (.start, 1)
  | some 1 => .ok (Char.ofNat first.toNat, 1)
  | some count =>
    match rest with
    | [] => .error (.truncated, 1)
    | a :: more =>
      if !isSecond first a then .error (.continuation, 1)
      else if count = 2 then .ok (Char.ofNat (lowBits 32 first * 64 + lowBits 64 a), 2)
      else
        match more with
        | [] => .error (.truncated, 2)
        | b :: more =>
          if !isContinuation b then .error (.continuation, 2)
          else if count = 3 then
            .ok (Char.ofNat ((lowBits 16 first * 64 + lowBits 64 a) * 64 + lowBits 64 b), 3)
          else
            match more with
            | [] => .error (.truncated, 3)
            | c :: _ =>
              if !isContinuation c then .error (.continuation, 3)
              else
                .ok (Char.ofNat (((lowBits 8 first * 64 + lowBits 64 a) * 64 + lowBits 64 b) * 64 +
                  lowBits 64 c), 4)

/-- Reads bytes whose first has the given offset, and puts the text behind what was read before
them, which is given in reverse. -/
def decodeFrom (before : Text) (offset : Nat) (octets : List UInt8) : Except Utf8Fault Text :=
  match octets with
  | [] => .ok before.reverse
  | first :: rest =>
    match decodeChar first rest with
    | .error (cause, length) => .error ⟨first, offset, length, cause⟩
    | .ok (c, count) => decodeFrom (c :: before) (offset + count) (rest.drop (count - 1))
termination_by octets.length
decreasing_by
  simp only [List.length_drop, List.length_cons]
  omega

/-- The text that bytes are. -/
def decode (octets : List UInt8) : Except Utf8Fault Text := decodeFrom [] 0 octets

/-- The bytes of a text. -/
def encode (t : Text) : List UInt8 := (String.ofList t).toUTF8.toList

/-- Ends every line with a line feed alone, where it ends with a carriage return, or with both. -/
def unifyLines : Text → Text
  | [] => []
  | '\r' :: '\n' :: rest => '\n' :: unifyLines rest
  | '\r' :: rest => '\n' :: unifyLines rest
  | c :: rest => c :: unifyLines rest

end Text

end Phrasing
