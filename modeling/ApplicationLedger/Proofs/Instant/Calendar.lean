/-
This file proves that the calendar is right: every day falls on a date of the calendar, and the days
from 1970 to that date are those it was found from.

A cycle of 400 years has centuries of 36524 days, which have groups of four years of 1461 days,
which have years of 365 days; only the last year of a group may have one day more, and not in the
last group of the first three centuries. The one division that finds the year is compared with these
places of a day.
-/

import ApplicationLedger.Instant.Calendar

namespace ApplicationLedger.Date

/-! ### The places of a day in its cycle -/

/-- A day of a cycle of 400 years, by its century, group of four years, year and day. -/
structure Place where
  century : Int
  group : Int
  year : Int
  day : Int

namespace Place

/-- Whether the places are in range. The day behind the 365th is a leap day. -/
structure InRange (p : Place) : Prop where
  century : 0 ≤ p.century ∧ p.century ≤ 3
  group : 0 ≤ p.group ∧ p.group ≤ 24
  year : 0 ≤ p.year ∧ p.year ≤ 3
  day : 0 ≤ p.day ∧ p.day ≤ 365
  leap : p.day = 365 → p.year = 3 ∧ (p.group ≤ 23 ∨ p.century = 3)

/-- The year of the cycle. -/
def yearOfCycle (p : Place) : Int := 100 * p.century + 4 * p.group + p.year

/-- The day of the cycle. -/
def dayOfCycle (p : Place) : Int := 36524 * p.century + 1461 * p.group + 365 * p.year + p.day

/-- The places of a day. The last day of a cycle is beyond four full centuries, and the last day of
a group beyond four full years. -/
def ofDay (day : Int) : Place :=
  let century := if day = 146096 then 3 else day / 36524
  let dayOfCentury := day - 36524 * century
  let group := dayOfCentury / 1461
  let dayOfGroup := dayOfCentury - 1461 * group
  let year := if dayOfGroup = 1460 then 3 else dayOfGroup / 365
  ⟨century, group, year, dayOfGroup - 365 * year⟩

theorem dayOfCycle_ofDay (day : Int) : (ofDay day).dayOfCycle = day := by
  simp only [ofDay, dayOfCycle]
  omega

theorem inRange_ofDay {day : Int} (low : 0 ≤ day) (high : day < 146097) : (ofDay day).InRange := by
  have century : 0 ≤ (ofDay day).century ∧ (ofDay day).century ≤ 3 := by
    simp only [ofDay]
    omega
  have dayOfCentury : 0 ≤ day - 36524 * (ofDay day).century ∧
      day - 36524 * (ofDay day).century ≤ 36524 ∧
      (day - 36524 * (ofDay day).century = 36524 → (ofDay day).century = 3) := by
    simp only [ofDay]
    omega
  constructor <;> simp only [ofDay] at century dayOfCentury ⊢ <;> omega

/-- The one division that finds the year finds the year of the places. -/
theorem yearOfCycle_eq {p : Place} (inRange : p.InRange) :
    (p.dayOfCycle - p.dayOfCycle / 1460 + p.dayOfCycle / 36524 - p.dayOfCycle / 146096) / 365 =
      p.yearOfCycle := by
  obtain ⟨century, group, year, day, leap⟩ := inRange
  have dayOfCentury : 1461 * p.group + 365 * p.year + p.day ≤ 36523 ∨
      1461 * p.group + 365 * p.year + p.day = 36524 ∧ p.century = 3 := by
    omega
  have centuries : p.dayOfCycle / 36524 - p.dayOfCycle / 146096 = p.century := by
    have : p.century = 0 ∨ p.century = 1 ∨ p.century = 2 ∨ p.century = 3 := by omega
    unfold dayOfCycle
    rcases this with first | second | third | fourth <;> omega
  have groups : p.dayOfCycle / 1460 = 25 * p.century + p.group ∨
      p.dayOfCycle / 1460 = 25 * p.century + p.group + 1 ∧ p.year = 3 ∧ 1 ≤ p.day := by
    unfold dayOfCycle
    omega
  unfold dayOfCycle yearOfCycle at *
  omega

end Place

/-! ### Dates by the day from March on -/

/-- The date of a day of a year that begins in March. -/
def ofMarch (year dayOfYear : Int) : Date :=
  let month := (5 * dayOfYear + 2) / 153
  let day := dayOfYear - (153 * month + 2) / 5 + 1
  if month < 10 then ⟨year, (month + 3).toNat, day.toNat⟩
  else ⟨year + 1, (month - 9).toNat, day.toNat⟩

/-- Every day falls on a day of some place in some cycle. -/
theorem ofDays_eq (days : Int) :
    ∃ (cycle : Int) (p : Place), p.InRange ∧
      days = 146097 * cycle + p.dayOfCycle - epochDay ∧
      ofDays days = ofMarch (400 * cycle + p.yearOfCycle) p.day := by
  have low : 0 ≤ (days + epochDay) % 146097 := Int.emod_nonneg _ (by decide)
  have high : (days + epochDay) % 146097 < 146097 := Int.emod_lt_of_pos _ (by decide)
  have inRange := Place.inRange_ofDay low high
  have sameDay := Place.dayOfCycle_ofDay ((days + epochDay) % 146097)
  have sameYear := Place.yearOfCycle_eq inRange
  generalize Place.ofDay ((days + epochDay) % 146097) = p at inRange sameDay sameYear
  rw [sameDay] at sameYear
  refine ⟨(days + epochDay) / 146097, p, inRange, by omega, ?_⟩
  have dayOfYear : p.dayOfCycle -
      (365 * p.yearOfCycle + p.yearOfCycle / 4 - p.yearOfCycle / 100) = p.day := by
    obtain ⟨century, group, year, -, -⟩ := inRange
    unfold Place.dayOfCycle Place.yearOfCycle
    omega
  rw [sameDay] at dayOfYear
  simp only [ofDays, sameYear, dayOfYear, ofMarch, Int.add_comm p.yearOfCycle,
    Int.mul_comm _ (400 : Int)]

/-- The months of a year from March on begin as their formula says. -/
theorem toDays_ofMarch (year : Int) {dayOfYear : Int} (low : 0 ≤ dayOfYear)
    (high : dayOfYear ≤ 365) :
    (ofMarch year dayOfYear).toDays =
      365 * year + year / 4 - year / 100 + year / 400 + dayOfYear - epochDay := by
  simp only [ofMarch]
  generalize month_eq : (5 * dayOfYear + 2) / 153 = month
  split
  · simp only [toDays]
    rw [if_neg (by omega), if_neg (by omega)]
    omega
  · simp only [toDays]
    rw [if_pos (by omega), if_pos (by omega)]
    omega

/-- The days from 1970 to the date of a day are those days. -/
theorem toDays_ofDays (days : Int) : (ofDays days).toDays = days := by
  obtain ⟨cycle, p, inRange, equal, date⟩ := ofDays_eq days
  rw [date, toDays_ofMarch _ inRange.day.1 inRange.day.2, equal]
  obtain ⟨century, group, year, -, -⟩ := inRange
  unfold Place.dayOfCycle Place.yearOfCycle
  omega

/-- A day is within its month, if the 366th of a year is the day before March in a leap year. -/
theorem ofMarch_isWithin (year : Int) {dayOfYear : Int} (low : 0 ≤ dayOfYear)
    (high : dayOfYear ≤ 365) (leap : dayOfYear = 365 → isLeapYear (year + 1) = true) :
    (1 ≤ (ofMarch year dayOfYear).month ∧ (ofMarch year dayOfYear).month ≤ 12) ∧
      1 ≤ (ofMarch year dayOfYear).day ∧ (ofMarch year dayOfYear).day ≤
        monthLength (ofMarch year dayOfYear).year (ofMarch year dayOfYear).month := by
  simp only [ofMarch]
  generalize month_eq : (5 * dayOfYear + 2) / 153 = month
  split <;> dsimp only
  · refine ⟨by omega, by omega, ?_⟩
    rw [monthLength, if_neg (by omega)]
    split <;> omega
  · refine ⟨by omega, by omega, ?_⟩
    rw [monthLength]
    by_cases last : dayOfYear = 365
    · rw [leap last, if_pos rfl]
      split <;> omega
    · split
      · split <;> omega
      · split <;> omega

theorem monthLength_le (year : Int) (month : Nat) : monthLength year month ≤ 31 := by
  unfold monthLength
  split
  · split <;> decide
  · split <;> decide

/-- The leap day of a place belongs to a leap year. -/
theorem Place.InRange.isLeapYear {p : Place} (inRange : p.InRange) (leap : p.day = 365)
    (cycle : Int) :
    Date.isLeapYear (400 * cycle + p.yearOfCycle + 1) = true := by
  obtain ⟨year, notCentury⟩ := inRange.leap leap
  obtain ⟨century, group, -, -, -⟩ := inRange
  unfold Date.isLeapYear yearOfCycle
  rw [year, Bool.and_eq_true, Bool.or_eq_true, beq_iff_eq, bne_iff_ne, beq_iff_eq]
  omega

/-- Every day falls on a day of a month, in whatever year. -/
theorem isWithin_ofDays (days : Int) :
    (1 ≤ (ofDays days).month ∧ (ofDays days).month ≤ 12) ∧
      1 ≤ (ofDays days).day ∧
        (ofDays days).day ≤ monthLength (ofDays days).year (ofDays days).month := by
  obtain ⟨cycle, p, inRange, -, date⟩ := ofDays_eq days
  rw [date]
  exact ofMarch_isWithin (400 * cycle + p.yearOfCycle) inRange.day.1 inRange.day.2
    fun leap => inRange.isLeapYear leap cycle

/-- The date of a day is a date of the calendar, if its year is one that an instant may have. -/
theorem isValid_ofDays {days : Int} (least : yearRange.1 ≤ (ofDays days).year)
    (greatest : (ofDays days).year ≤ yearRange.2) : (ofDays days).isValid = true := by
  have within := isWithin_ofDays days
  simp only [isValid, Bool.and_eq_true, decide_eq_true_eq]
  exact ⟨⟨⟨⟨⟨least, greatest⟩, within.1.1⟩, within.1.2⟩, within.2.1⟩, within.2.2⟩

end ApplicationLedger.Date
