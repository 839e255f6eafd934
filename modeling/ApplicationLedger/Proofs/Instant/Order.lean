/-
This file proves that instants compare as the texts of their cells do. All fields of a cell have
their full width, so the first field in which two cells differ decides, and it does so by its
number. The fields are those of a date, which the days before it determine in order, and of a time
of day. A leap second is the 61st second of its minute, so it stands behind the others there and
before the next minute.
-/

import Mathlib.Data.Int.Order.Basic
import ApplicationLedger.Proofs.Bytes.Utf8
import ApplicationLedger.Proofs.Instant.Text

namespace ApplicationLedger

/-! ### Numbers digit by digit -/

/-- Two orderings are the same if they are less and greater alike. -/
theorem ordering_eq {o o' : Ordering} (less : o = .lt ↔ o' = .lt) (greater : o = .gt ↔ o' = .gt) :
    o = o' := by
  revert less greater
  cases o <;> cases o' <;> decide

/-- Numbers with a last place compare by what is before it, and then by it. -/
theorem compare_places {base a b u v : Nat} (bound : u < base) (bound' : v < base) :
    Ord.compare (a * base + u) (b * base + v) = (Ord.compare a b).then (Ord.compare u v) := by
  rcases lt_trichotomy a b with less | rfl | greater
  · rw [compare_lt_iff_lt.mpr less]
    have next : (a + 1) * base ≤ b * base := Nat.mul_le_mul_right base less
    rw [Nat.succ_mul] at next
    exact compare_lt_iff_lt.mpr (by omega)
  · rw [Std.compare_self, Ordering.eq_then]
    refine ordering_eq ?_ ?_ <;> simp only [compare_lt_iff_lt, compare_gt_iff_gt] <;> omega
  · rw [compare_gt_iff_gt.mpr greater]
    have next : (b + 1) * base ≤ a * base := Nat.mul_le_mul_right base greater
    rw [Nat.succ_mul] at next
    exact compare_gt_iff_gt.mpr (by omega)

theorem compare_isDigit {c d : Char} (isDigit : c.isDigit = true) (isDigit' : d.isDigit = true) :
    Ord.compare c d = Ord.compare (digitValue c) (digitValue d) := by
  have least : 48 ≤ c.toNat := (Char.isDigit_iff_toNat.mp isDigit).1
  have least' : 48 ≤ d.toNat := (Char.isDigit_iff_toNat.mp isDigit').1
  rw [digitValue, digitValue, if_pos isDigit, if_pos isDigit']
  refine ordering_eq ?_ ?_
  · rw [compare_lt_iff_lt, compare_lt_iff_lt]
    show c.toNat < d.toNat ↔ _
    omega
  · rw [compare_gt_iff_gt, compare_gt_iff_gt]
    show d.toNat < c.toNat ↔ _
    omega

/-- As many digits compare by the number that they write, and then what follows them. -/
theorem compare_digits_append {a b : List Char} (length : a.length = b.length)
    (digits : ∀ c ∈ a, c.isDigit = true) (digits' : ∀ c ∈ b, c.isDigit = true) (x y : List Char) :
    Ord.compare (a ++ x) (b ++ y) =
      (Ord.compare (digitsValue a) (digitsValue b)).then (Ord.compare x y) := by
  induction a generalizing b with
  | nil =>
    cases b with
    | nil => rfl
    | cons d b => cases length
  | cons c a inductionHypothesis =>
    cases b with
    | nil => cases length
    | cons d b =>
      rw [List.forall_mem_cons] at digits digits'
      have length : a.length = b.length := Nat.succ.inj length
      have bound := digitsValue_lt b
      rw [← length] at bound
      rw [digitsValue_cons, digitsValue_cons, ← length, compare_places (digitsValue_lt a) bound,
        List.cons_append, List.cons_append, List.compare_cons_cons,
        inductionHypothesis length digits.2 digits'.2, compare_isDigit digits.1 digits'.1,
        Ordering.then_assoc]

theorem compare_padded_append (width : Nat) {a b : Nat} (positive : 0 < width)
    (bound : a < 10 ^ width) (bound' : b < 10 ^ width) (x y : List Char) :
    Ord.compare (Instant.padded width a ++ x) (Instant.padded width b ++ y) =
      (Ord.compare a b).then (Ord.compare x y) := by
  have length : (Instant.padded width a).length = (Instant.padded width b).length := by
    rw [Instant.length_padded width positive bound, Instant.length_padded width positive bound']
  rw [compare_digits_append length (fun _ => Instant.isDigit_of_mem_padded)
    (fun _ => Instant.isDigit_of_mem_padded), Instant.digitsValue_padded,
    Instant.digitsValue_padded]

/-! ### Dates -/

namespace Date

/-- The days from the first of March of year 0 to the first of a month, where months are counted
from that day on. -/
def monthStart (month : Int) : Int :=
  365 * (month / 12) + month / 12 / 4 - month / 12 / 100 + month / 12 / 400 +
    (153 * (month % 12) + 2) / 5

theorem monthStart_lt_succ (month : Int) : monthStart month < monthStart (month + 1) := by
  unfold monthStart
  omega

theorem monthStart_le {month later : Int} (inOrder : month ≤ later) :
    monthStart month ≤ monthStart later := by
  obtain ⟨count, rfl⟩ := Int.le.dest inOrder
  induction count with
  | zero => rw [Int.natCast_zero, Int.add_zero]
  | succ count inductionHypothesis =>
    have before := inductionHypothesis (by omega)
    have next := monthStart_lt_succ (month + count)
    rw [Int.add_assoc] at next
    exact Int.le_trans before (Int.le_of_lt next)

theorem monthStart_eq (year : Int) {month : Int} (low : 0 ≤ month) (high : month < 12) :
    monthStart (12 * year + month) =
      365 * year + year / 4 - year / 100 + year / 400 + (153 * month + 2) / 5 := by
  have quotient : (12 * year + month) / 12 = year := by omega
  have remainder : (12 * year + month) % 12 = month := by omega
  rw [monthStart, quotient, remainder]

/-- The number of the month of a date. -/
def monthNumber (d : Date) : Int := 12 * d.year + d.month - 3

/-- Whether there is a day with this date in the calendar. -/
structure IsDay (d : Date) : Prop where
  month : 1 ≤ d.month ∧ d.month ≤ 12
  day : 1 ≤ d.day ∧ d.day ≤ monthLength d.year d.month

theorem isDay_of_isValid {d : Date} (valid : d.isValid = true) : d.IsDay := by
  simp only [isValid, Bool.and_eq_true, decide_eq_true_eq] at valid
  exact ⟨⟨valid.1.1.1.2, valid.1.1.2⟩, valid.1.2, valid.2⟩

theorem monthNumber_eq (d : Date) :
    d.monthNumber =
      if d.month ≤ 2 then 12 * (d.year - 1) + (d.month + 9) else 12 * d.year + (d.month - 3) := by
  unfold monthNumber
  split <;> omega

theorem toDays_eq {d : Date} (isDay : d.IsDay) :
    d.toDays = monthStart d.monthNumber + d.day - 1 - epochDay := by
  have month := isDay.month
  rw [toDays, monthNumber_eq]
  split
  · rw [monthStart_eq _ (by omega) (by omega)]
  · rw [monthStart_eq _ (by omega) (by omega)]

theorem isLeapYear_iff (year : Int) :
    isLeapYear year = true ↔ year % 4 = 0 ∧ (year % 100 ≠ 0 ∨ year % 400 = 0) := by
  simp only [isLeapYear, Bool.and_eq_true, Bool.or_eq_true, beq_iff_eq, bne_iff_ne]

/-- From March to December, the formula has months of 30 and of 31 days. -/
theorem monthStart_gap : ∀ month : Nat, month < 13 → 2 < month →
    (153 * ((month : Int) - 3 + 1) + 2) / 5 = (153 * ((month : Int) - 3) + 2) / 5 +
      (if month = 4 ∨ month = 6 ∨ month = 9 ∨ month = 11 then 30 else 31 : Nat) := by
  decide

/-- A month ends where the next one begins. -/
theorem monthStart_succ {d : Date} (isDay : d.IsDay) :
    monthStart (d.monthNumber + 1) = monthStart d.monthNumber + monthLength d.year d.month := by
  have month := isDay.month
  rw [monthNumber_eq, monthLength]
  rcases Nat.lt_trichotomy d.month 2 with january | february | later
  · rw [if_pos (Nat.le_of_lt january), if_neg (Nat.ne_of_lt january), if_neg (by omega),
      Int.add_assoc, monthStart_eq _ (by omega) (by omega), monthStart_eq _ (by omega) (by omega)]
    omega
  · have march : 12 * (d.year - 1) + ((d.month : Int) + 9) + 1 = 12 * d.year + 0 := by omega
    rw [if_pos (Nat.le_of_eq february), if_pos february, march,
      monthStart_eq _ (by omega) (by omega), monthStart_eq _ (by omega) (by omega)]
    split_ifs with leap <;> rw [isLeapYear_iff] at leap <;> omega
  · have gap := monthStart_gap d.month (by omega) later
    rw [if_neg (Nat.not_le_of_gt later), if_neg (Nat.ne_of_gt later), Int.add_assoc,
      monthStart_eq _ (by omega) (by omega), monthStart_eq _ (by omega) (by omega), gap]
    exact (Int.add_assoc _ _ _).symm

/-- A day comes before every day of a later month. -/
theorem toDays_lt_of_monthNumber_lt {d e : Date} (isDay : d.IsDay) (isDay' : e.IsDay)
    (less : d.monthNumber < e.monthNumber) : d.toDays < e.toDays := by
  have next : monthStart (d.monthNumber + 1) ≤ monthStart e.monthNumber :=
    monthStart_le less
  have day := isDay.day
  have day' := isDay'.day
  rw [monthStart_succ isDay] at next
  rw [toDays_eq isDay, toDays_eq isDay']
  omega

/-- Days compare as their dates do, by year, month and day. -/
theorem compare_toDays {d e : Date} (isDay : d.IsDay) (isDay' : e.IsDay) :
    Ord.compare d.toDays e.toDays =
      (Ord.compare d.year e.year).then
        ((Ord.compare d.month e.month).then (Ord.compare d.day e.day)) := by
  have month := isDay.month
  have month' := isDay'.month
  have months : (Ord.compare d.year e.year).then (Ord.compare d.month e.month) =
      Ord.compare d.monthNumber e.monthNumber := by
    unfold monthNumber
    refine ordering_eq ?_ ?_ <;>
      simp only [Ordering.then_eq_lt, Ordering.then_eq_gt, compare_lt_iff_lt, compare_gt_iff_gt,
        compare_eq_iff_eq] <;>
      omega
  rw [← Ordering.then_assoc, months]
  rcases lt_trichotomy d.monthNumber e.monthNumber with less | same | greater
  · rw [compare_lt_iff_lt.mpr less]
    exact compare_lt_iff_lt.mpr (toDays_lt_of_monthNumber_lt isDay isDay' less)
  · rw [toDays_eq isDay, toDays_eq isDay', same, Std.compare_self, Ordering.eq_then]
    refine ordering_eq ?_ ?_ <;> simp only [compare_lt_iff_lt, compare_gt_iff_gt] <;> omega
  · rw [compare_gt_iff_gt.mpr greater]
    exact compare_gt_iff_gt.mpr (toDays_lt_of_monthNumber_lt isDay' isDay greater)

end Date

/-! ### Instants -/

namespace Instant

/-- Compares instants by time: first by their seconds, then within a second, and the leap second
behind it. -/
def compare (a b : Instant) : Ordering :=
  (Ord.compare a.second b.second).then (Ord.compare a.nanosecond b.nanosecond)

/-- Whether an instant is one of a clock, in a year of four digits. -/
structure IsPlain (t : Instant) : Prop where
  proper : t.IsProper
  least : 0 ≤ t.date.year
  greatest : t.date.year ≤ 9999

theorem IsPlain.isValid {t : Instant} (plain : t.IsPlain) : t.date.isValid = true :=
  Date.isValid_ofDays (Int.le_trans (by decide) plain.least)
    (Int.le_trans plain.greatest (by decide))

variable {a b : Instant}

/-- Cells compare field by field. -/
theorem compareTexts_millisecondText (plain : a.IsPlain) (plain' : b.IsPlain) :
    Cell.compareTexts a.millisecondText b.millisecondText =
      (Ord.compare a.date.year b.date.year).then
        ((Ord.compare a.date.month b.date.month).then
          ((Ord.compare a.date.day b.date.day).then
            ((Ord.compare a.hour b.hour).then
              ((Ord.compare a.minute b.minute).then
                ((Ord.compare a.secondOfMinute b.secondOfMinute).then
                  (Ord.compare (a.fraction / 1000000) (b.fraction / 1000000))))))) := by
  have year {t : Instant} (plain : t.IsPlain) :
      yearText t.date.year = padded 4 t.date.year.toNat ∧ t.date.year.toNat < 10 ^ 4 := by
    have least := plain.least
    have greatest := plain.greatest
    exact ⟨if_pos ⟨least, greatest⟩, by omega⟩
  have years : Ord.compare a.date.year.toNat b.date.year.toNat =
      Ord.compare a.date.year b.date.year := by
    have least := plain.least
    have least' := plain'.least
    refine ordering_eq ?_ ?_ <;> simp only [compare_lt_iff_lt, compare_gt_iff_gt] <;> omega
  have fraction (t : Instant) : t.fraction / 1000000 < 10 ^ 3 := by
    unfold Instant.fraction
    omega
  obtain ⟨month, day⟩ := isValid_bounds plain.isValid
  obtain ⟨month', day'⟩ := isValid_bounds plain'.isValid
  obtain ⟨hour, minute, second⟩ := time_bounds plain.proper
  obtain ⟨hour', minute', second'⟩ := time_bounds plain'.proper
  have two {m n : Nat} (bound : m < 10 ^ 2) (bound' : n < 10 ^ 2) (x y : List Char) :=
    compare_padded_append 2 (by decide) bound bound' x y
  rw [millisecondText, millisecondText, Cell.compareTexts_ofList]
  simp only [secondText, List.append_assoc, List.cons_append, (year plain).1, (year plain').1,
    compare_padded_append 4 (by decide) (year plain).2 (year plain').2, years,
    compare_padded_append 3 (by decide) (fraction a) (fraction b), two month month', two day day',
    two hour hour', two minute minute', two second second', List.compare_cons_cons,
    Std.compare_self, Ordering.eq_then, Ordering.then_eq]

/-- Milliseconds into the minute, those of its leap second behind all others. -/
def millisecondOfMinute (t : Instant) : Nat :=
  (t.second % 60).toNat * 1000 + t.nanosecond / 1000000

theorem millisecondOfMinute_eq (t : Instant) :
    t.millisecondOfMinute = t.secondOfMinute * 1000 + t.fraction / 1000000 := by
  unfold millisecondOfMinute secondOfMinute secondOfDay fraction
  omega

/-- Instants cut to milliseconds compare by their minutes, and then within the minute. -/
theorem compare_cut (proper : a.IsProper) (proper' : b.IsProper) :
    a.cut.compare b.cut =
      (Ord.compare (a.second / 60) (b.second / 60)).then
        (Ord.compare a.millisecondOfMinute b.millisecondOfMinute) := by
  unfold IsProper at proper proper'
  unfold compare cut millisecondOfMinute
  refine ordering_eq ?_ ?_ <;>
    simp only [Ordering.then_eq_lt, Ordering.then_eq_gt, compare_lt_iff_lt, compare_gt_iff_gt,
      compare_eq_iff_eq] <;>
    omega

theorem compare_minutes (a b : Instant) :
    Ord.compare (a.second / 60) (b.second / 60) =
      (Ord.compare (a.second / 86400) (b.second / 86400)).then
        ((Ord.compare a.hour b.hour).then (Ord.compare a.minute b.minute)) := by
  unfold hour minute secondOfDay
  refine ordering_eq ?_ ?_ <;>
    simp only [Ordering.then_eq_lt, Ordering.then_eq_gt, compare_lt_iff_lt, compare_gt_iff_gt,
      compare_eq_iff_eq] <;>
    omega

theorem compare_millisecondOfMinute (a b : Instant) :
    Ord.compare a.millisecondOfMinute b.millisecondOfMinute =
      (Ord.compare a.secondOfMinute b.secondOfMinute).then
        (Ord.compare (a.fraction / 1000000) (b.fraction / 1000000)) := by
  rw [millisecondOfMinute_eq, millisecondOfMinute_eq]
  refine compare_places ?_ ?_ <;> unfold fraction <;> omega

theorem compare_days (plain : a.IsPlain) (plain' : b.IsPlain) :
    Ord.compare (a.second / 86400) (b.second / 86400) =
      (Ord.compare a.date.year b.date.year).then
        ((Ord.compare a.date.month b.date.month).then (Ord.compare a.date.day b.date.day)) := by
  rw [← Date.compare_toDays (Date.isDay_of_isValid plain.isValid)
    (Date.isDay_of_isValid plain'.isValid), date, date, Date.toDays_ofDays, Date.toDays_ofDays]

/-- The bytes of two cells compare as their instants do, cut to milliseconds. -/
theorem compareBytes_millisecondText (plain : a.IsPlain) (plain' : b.IsPlain) :
    Cell.compareBytes (.ofText a.millisecondText) (.ofText b.millisecondText) =
      a.cut.compare b.cut := by
  rw [Cell.compareBytes_ofText, compareTexts_millisecondText plain plain',
    compare_cut plain.proper plain'.proper, compare_minutes, compare_millisecondOfMinute,
    compare_days plain plain']
  simp only [Ordering.then_assoc]

theorem compare_eq_eq_iff (a b : Instant) : a.compare b = .eq ↔ a = b := by
  rw [compare, Ordering.then_eq_eq, compare_eq_iff_eq, compare_eq_iff_eq, Instant.mk.injEq]

/-- Two instants are written alike if they are the same after the cut, and only then. -/
theorem millisecondText_eq_iff (plain : a.IsPlain) (plain' : b.IsPlain) :
    a.millisecondText = b.millisecondText ↔ a.cut = b.cut := by
  rw [← compare_eq_eq_iff, ← compareBytes_millisecondText plain plain', Cell.compareBytes_ofText,
    Cell.compareTexts_eq_eq_iff]

end Instant

end ApplicationLedger
