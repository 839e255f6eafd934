/-
This file holds instants: points of time to the nanosecond, in coordinated universal time. An
instant inside a leap second belongs to the second before it and has a nanosecond count of 10^9 or
more. The file writes instants with the date and time of day they fall on.
-/

import ApplicationLedger.Instant.Calendar

namespace ApplicationLedger

/-- A point of time. -/
structure Instant where
  /-- Whole seconds since the start of 1970. -/
  second : Int
  /-- Nanoseconds into the second; 10^9 and more lie in the leap second behind it. -/
  nanosecond : Nat
  deriving DecidableEq, Repr

namespace Instant

/-- The start of a second. -/
def ofSecond (second : Int) : Instant := ⟨second, 0⟩

/-- The date an instant falls on. -/
def date (t : Instant) : Date := Date.ofDays (t.second / 86400)

/-- Seconds since midnight, the leap second not counted. -/
def secondOfDay (t : Instant) : Nat := (t.second % 86400).toNat

/-- The hour of the day. -/
def hour (t : Instant) : Nat := t.secondOfDay / 3600

/-- The minute of the hour. -/
def minute (t : Instant) : Nat := t.secondOfDay / 60 % 60

/-- The second of the minute, 60 in a leap second. -/
def secondOfMinute (t : Instant) : Nat :=
  t.secondOfDay % 60 + t.nanosecond / 1000000000

/-- The part of a second, in nanoseconds. -/
def fraction (t : Instant) : Nat := t.nanosecond % 1000000000

/-- The instant some seconds later. -/
def addSeconds (t : Instant) (seconds : Int) : Instant :=
  ⟨t.second + seconds, t.nanosecond⟩

/-! ### Writing -/

/-- A number with at least some digits, zeros in front. -/
def padded (width value : Nat) : List Char :=
  let written := Nat.toDigits 10 value
  List.replicate (width - written.length) '0' ++ written

/-- A year: four digits from 0 to 9999, else a sign and at least four digits. -/
def yearText (year : Int) : List Char :=
  if 0 ≤ year ∧ year ≤ 9999 then padded 4 year.toNat
  else (if year < 0 then '-' else '+') :: padded 4 year.natAbs

/-- The date and the time of day to the second. -/
def secondText (t : Instant) : List Char :=
  yearText t.date.year ++ '-' :: padded 2 t.date.month ++ '-' :: padded 2 t.date.day ++
    'T' :: padded 2 t.hour ++ ':' :: padded 2 t.minute ++ ':' :: padded 2 t.secondOfMinute

/-- The fraction of a second with the fewest digits of none, 3, 6 and 9 that are exact. -/
def shortestFraction (nanoseconds : Nat) : List Char :=
  if nanoseconds = 0 then []
  else if nanoseconds % 1000000 = 0 then '.' :: padded 3 (nanoseconds / 1000000)
  else if nanoseconds % 1000 = 0 then '.' :: padded 6 (nanoseconds / 1000)
  else '.' :: padded 9 nanoseconds

/-- An instant as messages show it, exactly. -/
def text (t : Instant) : String :=
  String.ofList (t.secondText ++ shortestFraction t.fraction ++ ['Z'])

/-- An instant as the record table holds it, cut to milliseconds. -/
def millisecondText (t : Instant) : String :=
  String.ofList (t.secondText ++ '.' :: padded 3 (t.fraction / 1000000) ++ ['Z'])

end Instant

end ApplicationLedger
