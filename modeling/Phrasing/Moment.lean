/-
# Dates and times

Calendar dates, times of day, and moments, which are both together with an optional distance
from universal time.  They are written in the ISO 8601 format: fractions of a second only if
there are any, the distance as hours and minutes.
-/
import Phrasing.Number.Integer

namespace Phrasing

/-- A day of the calendar. -/
structure Date where
  year : Nat
  month : Nat
  day : Nat
deriving DecidableEq, Repr

/-- A time of day. -/
structure Clock where
  hour : Nat
  minute : Nat
  second : Nat
  microsecond : Nat
deriving DecidableEq, Repr

/-- A date and a time of day; `zone` counts the minutes ahead of universal time. -/
structure Moment where
  date : Date
  clock : Clock
  zone : Option Int
deriving DecidableEq, Repr

/-- Why numbers do not make a date or a time of day. -/
inductive CalendarFault where
  | year (given : Nat)
  | month
  | day
  | hour
  | minute
  | second
deriving DecidableEq, Repr

/-- How a fault is worded. -/
def CalendarFault.message : CalendarFault → String
  | .year given => s!"year {given} is out of range"
  | .month => "month must be in 1..12"
  | .day => "day is out of range for month"
  | .hour => "hour must be in 0..23"
  | .minute => "minute must be in 0..59"
  | .second => "second must be in 0..59"

/-- A number with at least `width` digits. -/
def paddedDigits (width n : Nat) : Text :=
  let ds := Number.digits n
  List.replicate (width - ds.length) '0' ++ ds

namespace Date

/-- Whether February has a 29th day. -/
def isLeap (year : Nat) : Bool := year % 4 == 0 && (year % 100 != 0 || year % 400 == 0)

/-- The number of days of a month. -/
def monthLength (year month : Nat) : Nat :=
  if month = 2 then (if isLeap year then 29 else 28)
  else if month = 4 ∨ month = 6 ∨ month = 9 ∨ month = 11 then 30 else 31

/-- The date that three numbers stand for. -/
def ofNumbers (year month day : Nat) : Except CalendarFault Date :=
  if year < 1 ∨ 9999 < year then .error (.year year)
  else if month < 1 ∨ 12 < month then .error .month
  else if day < 1 ∨ monthLength year month < day then .error .day
  else .ok ⟨year, month, day⟩

/-- The number of days before a date, counted from the start of year 1. -/
def dayCount (d : Date) : Nat :=
  let y := d.year - 1
  let months := (List.range (d.month - 1)).map fun i => monthLength d.year (i + 1)
  365 * y + y / 4 - y / 100 + y / 400 + months.foldl (· + ·) 0 + d.day - 1

/-- The date `n` days after the start of year 1, searched by year and month. -/
def ofDayCount (n : Nat) : Date :=
  let guess := n * 400 / 146097 + 1
  let year := if dayCount ⟨guess + 1, 1, 1⟩ ≤ n then guess + 1
    else if dayCount ⟨guess, 1, 1⟩ ≤ n then guess else guess - 1
  let month := ((List.range 12).filter fun i => dayCount ⟨year, i + 1, 1⟩ ≤ n).length
  ⟨year, month, n - dayCount ⟨year, month, 1⟩ + 1⟩

/-- `2024-05-06`. -/
def text (d : Date) : Text :=
  paddedDigits 4 d.year ++ '-' :: paddedDigits 2 d.month ++ '-' :: paddedDigits 2 d.day

end Date

namespace Clock

/-- The time of day that numbers stand for. -/
def ofNumbers (hour minute second microsecond : Nat) : Except CalendarFault Clock :=
  if 23 < hour then .error .hour
  else if 59 < minute then .error .minute
  else if 59 < second then .error .second
  else .ok ⟨hour, minute, second, microsecond⟩

/-- `09:30:00`, or `09:30:00.000500`. -/
def text (c : Clock) : Text :=
  paddedDigits 2 c.hour ++ ':' :: paddedDigits 2 c.minute ++ ':' :: paddedDigits 2 c.second ++
    if c.microsecond = 0 then [] else '.' :: paddedDigits 6 c.microsecond

/-- Microseconds since midnight. -/
def microseconds (c : Clock) : Nat :=
  ((c.hour * 60 + c.minute) * 60 + c.second) * 1000000 + c.microsecond

end Clock

namespace Moment

/-- The distance from universal time, as `+05:30`. -/
def zoneText (minutes : Int) : Text :=
  let n := minutes.natAbs
  (if minutes < 0 then '-' else '+') :: paddedDigits 2 (n / 60) ++ ':' :: paddedDigits 2 (n % 60)

/-- Date and time with `separator` between them, then the zone if there is one. -/
def text (separator : Char) (m : Moment) : Text :=
  m.date.text ++ separator :: m.clock.text ++ (m.zone.map zoneText).getD []

/-- Microseconds since the start of year 1 on the moment's own clock. -/
def localMicroseconds (m : Moment) : Int :=
  (m.date.dayCount * 86400000000 + m.clock.microseconds : Nat)

/-- The same instant: with zones, on the clock of universal time; a moment without a zone is
never the same as one with a zone. -/
def same (a b : Moment) : Bool :=
  match a.zone, b.zone with
  | none, none => a.date == b.date && a.clock == b.clock
  | some x, some y =>
    a.localMicroseconds - x * 60000000 == b.localMicroseconds - y * 60000000
  | _, _ => false

end Moment

end Phrasing
