/-
This file relates days to dates of the proleptic Gregorian calendar. Days are counted from the first
of January 1970. The count of a date follows from counting years from March on, so that the leap day
comes last in its year; the date of a day undoes the same steps within a cycle of 400 years, which
has 146097 days.
-/

namespace ApplicationLedger

/-- A date of the proleptic Gregorian calendar. There is a year 0, and years before it. -/
structure Date where
  year : Int
  month : Nat
  day : Nat
  deriving DecidableEq, Repr

namespace Date

/-- Whether a year has a 29th of February. -/
def isLeapYear (year : Int) : Bool :=
  year % 4 == 0 && (year % 100 != 0 || year % 400 == 0)

/-- The number of days of a month. -/
def monthLength (year : Int) (month : Nat) : Nat :=
  if month = 2 then (if isLeapYear year then 29 else 28)
  else if month = 4 ∨ month = 6 ∨ month = 9 ∨ month = 11 then 30
  else 31

/-- The least and the greatest year that an instant may have. -/
def yearRange : Int × Int := (-262143, 262142)

/-- Whether the numbers name a day of the calendar, in a year in range. -/
def isValid (d : Date) : Bool :=
  decide (yearRange.1 ≤ d.year) && decide (d.year ≤ yearRange.2) &&
    decide (1 ≤ d.month) && decide (d.month ≤ 12) &&
    decide (1 ≤ d.day) && decide (d.day ≤ monthLength d.year d.month)

/-- The days from the first of March of year 0 to the first of January 1970. -/
def epochDay : Int := 719468

/-- The days from the first of January 1970 to a date. -/
def toDays (d : Date) : Int :=
  let year := if d.month ≤ 2 then d.year - 1 else d.year
  let month : Int := if d.month ≤ 2 then d.month + 9 else d.month - 3
  365 * year + year / 4 - year / 100 + year / 400 + (153 * month + 2) / 5 + d.day - 1 - epochDay

/-- The date that lies some days after the first of January 1970. -/
def ofDays (days : Int) : Date :=
  let fromMarch := days + epochDay
  let cycle := fromMarch / 146097
  let dayOfCycle := fromMarch % 146097
  let yearOfCycle :=
    (dayOfCycle - dayOfCycle / 1460 + dayOfCycle / 36524 - dayOfCycle / 146096) / 365
  let dayOfYear := dayOfCycle - (365 * yearOfCycle + yearOfCycle / 4 - yearOfCycle / 100)
  let month := (5 * dayOfYear + 2) / 153
  let day := dayOfYear - (153 * month + 2) / 5 + 1
  let year := yearOfCycle + cycle * 400
  if month < 10 then ⟨year, (month + 3).toNat, day.toNat⟩
  else ⟨year + 1, (month - 9).toNat, day.toNat⟩

end Date

end ApplicationLedger
