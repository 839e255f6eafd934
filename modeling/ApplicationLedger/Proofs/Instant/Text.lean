/-
This file proves that the record table gives back the instants it was given, cut to milliseconds.
The fields of a written instant have a fixed width, so each is read without a look at what follows
it; from the fields the instant is found again because the calendar is right.
-/

import ApplicationLedger.Instant.Reader
import ApplicationLedger.Proofs.Instant.Calendar
import ApplicationLedger.Proofs.Number.Digits

namespace ApplicationLedger

/-! ### Fields in full width -/

namespace Instant

theorem isDigit_of_mem_padded {width value : Nat} {c : Char} (member : c ∈ padded width value) :
    c.isDigit = true := by
  rcases List.mem_append.mp member with zero | digit
  · rw [List.eq_of_mem_replicate zero]
    rfl
  · exact isDigit_of_mem_toDigits digit

theorem length_padded (width : Nat) {value : Nat} (positive : 0 < width)
    (bound : value < 10 ^ width) : (padded width value).length = width := by
  have short := (Nat.length_toDigits_le_iff (by decide : 1 < 10) positive).mpr bound
  rw [padded, List.length_append, List.length_replicate]
  omega

theorem digitsValue_padded (width value : Nat) : digitsValue (padded width value) = value := by
  rw [digitsValue_eq fun _ => isDigit_of_mem_padded, padded, Nat.ofDigitChars_append,
    Nat.ofDigitChars_replicate_zero, Nat.mul_zero, Nat.ofDigitChars_ten_toDigits]

theorem takeWhile_padded (width value : Nat) (rest : List Char) :
    (padded width value ++ rest).takeWhile Char.isDigit =
      padded width value ++ rest.takeWhile Char.isDigit :=
  List.takeWhile_append_of_pos fun _ => isDigit_of_mem_padded

/-- A number in full width is read without a look at what follows it. -/
theorem number_padded (least width : Nat) {value : Nat} (positive : 0 < width)
    (enough : least ≤ width) (bound : value < 10 ^ width) (rest : List Char) :
    number least (some width) (padded width value ++ rest) = some (value, rest) := by
  have length := length_padded width positive bound
  have digits : ((padded width value ++ rest).takeWhile Char.isDigit).take width =
      padded width value := by
    rw [takeWhile_padded, List.take_left' length]
  simp only [number, digits, length, if_neg (Nat.not_lt.mpr enough), digitsValue_padded,
    List.drop_left' length]

theorem number_twoDigits {value : Nat} (bound : value < 10 ^ 2) (rest : List Char) :
    number 2 (some 2) (padded 2 value ++ rest) = some (value, rest) :=
  number_padded 2 2 (by decide) (by decide) bound rest

/-- A fraction in full width is read up to the mark of universal time. -/
theorem fractionPart_padded (width : Nat) {value : Nat} (positive : 0 < width) (most : width ≤ 9)
    (bound : value < 10 ^ width) (rest : List Char) :
    fractionPart ('.' :: (padded width value ++ 'Z' :: rest)) =
      some (value * 10 ^ (9 - width), 'Z' :: rest) := by
  have length := length_padded width positive bound
  have run : (padded width value ++ 'Z' :: rest).takeWhile Char.isDigit = padded width value := by
    rw [takeWhile_padded]
    exact List.append_nil _
  have behind : (padded width value ++ 'Z' :: rest).dropWhile Char.isDigit = 'Z' :: rest := by
    rw [List.dropWhile_append_of_pos fun _ => isDigit_of_mem_padded]
    rfl
  have read : number 1 (some 9) (padded width value ++ 'Z' :: rest) =
      some (value, 'Z' :: rest) := by
    have all : (padded width value).take 9 = padded width value :=
      List.take_of_length_le (by omega)
    simp only [number, run, all, length, if_neg (Nat.not_lt.mpr positive), digitsValue_padded,
      List.drop_left' length]
  simp only [fractionPart, read, run, behind, length, Nat.min_eq_right most]
  rfl

/-! ### Instants in cells -/

/-- Whether an instant is one of a clock: only the last second of a minute may be followed by a leap
second. -/
def IsProper (t : Instant) : Prop :=
  t.nanosecond < 1000000000 ∨ t.nanosecond < 2000000000 ∧ t.second % 60 = 59

/-- The instant without what is below a millisecond. -/
def cut (t : Instant) : Instant := ⟨t.second, t.nanosecond - t.nanosecond % 1000000⟩

/-- The fields of an instant in universal time, with some part of the second. -/
def fieldsWith (t : Instant) (part : Nat) : Fields :=
  ⟨t.date, t.hour, t.minute, t.secondOfMinute, part, 0⟩

theorem secondOfDay_lt (t : Instant) : t.secondOfDay < 86400 := by
  unfold secondOfDay
  omega

theorem secondOfMinute_le {t : Instant} (proper : t.IsProper) : t.secondOfMinute ≤ 60 := by
  unfold IsProper at proper
  unfold secondOfMinute
  omega

/-- The fields of an instant stand for an instant in the same second. -/
theorem instant?_fieldsWith {t : Instant} (proper : t.IsProper) (valid : t.date.isValid = true)
    (part : Nat) :
    (t.fieldsWith part).instant? =
      some ⟨t.second, part + if t.secondOfMinute = 60 then 1000000000 else 0⟩ := by
  have day := t.secondOfDay_lt
  have days : t.date.toDays = t.second / 86400 := Date.toDays_ofDays _
  have inRange : t.date.isValid ∧ t.hour < 24 ∧ t.minute < 60 ∧ t.secondOfMinute ≤ 60 ∧
      (0 : Int).natAbs < 86400 := by
    refine ⟨valid, ?_, ?_, secondOfMinute_le proper, Nat.zero_lt_succ _⟩
    · exact Nat.div_lt_of_lt_mul day
    · exact Nat.mod_lt _ (by decide)
  have second : t.date.toDays * 86400 + t.hour * 3600 + t.minute * 60 +
      (if t.secondOfMinute = 60 then 59 else t.secondOfMinute : Nat) - 0 = t.second := by
    rw [days]
    unfold IsProper at proper
    unfold hour minute secondOfMinute secondOfDay
    split <;> omega
  rw [Fields.instant?, fieldsWith, if_pos inRange]
  dsimp only
  rw [second]
  exact if_pos valid

/-- The part of the second and the leap second make up the nanoseconds. -/
theorem fraction_add {t : Instant} (proper : t.IsProper) :
    t.fraction + (if t.secondOfMinute = 60 then 1000000000 else 0) = t.nanosecond := by
  unfold IsProper at proper
  unfold fraction secondOfMinute secondOfDay
  split <;> omega

theorem instant?_cut {t : Instant} (proper : t.IsProper) (valid : t.date.isValid = true) :
    (t.fieldsWith (t.fraction / 1000000 * 1000000)).instant? = some t.cut := by
  have whole := fraction_add proper
  have cut : t.fraction / 1000000 * 1000000 +
      (if t.secondOfMinute = 60 then 1000000000 else 0) =
        t.nanosecond - t.nanosecond % 1000000 := by
    rw [← whole]
    split <;> omega
  rw [instant?_fieldsWith proper valid, cut]
  rfl

/-- A date of the calendar has two digits for its month and its day. -/
theorem isValid_bounds {date : Date} (valid : date.isValid = true) :
    date.month < 10 ^ 2 ∧ date.day < 10 ^ 2 := by
  simp only [Date.isValid, Bool.and_eq_true, decide_eq_true_eq] at valid
  have days := Date.monthLength_le date.year date.month
  omega

theorem hourMinute_bounds (t : Instant) : t.hour < 10 ^ 2 ∧ t.minute < 10 ^ 2 := by
  have day := t.secondOfDay_lt
  unfold hour minute
  omega

/-- The time of day has two digits for each of its fields. -/
theorem time_bounds {t : Instant} (proper : t.IsProper) :
    t.hour < 10 ^ 2 ∧ t.minute < 10 ^ 2 ∧ t.secondOfMinute < 10 ^ 2 :=
  ⟨t.hourMinute_bounds.1, t.hourMinute_bounds.2,
    Nat.lt_of_le_of_lt (secondOfMinute_le proper) (by decide)⟩

/-- Behind the fraction there is nothing but the mark of universal time. -/
theorem strictFields_millisecondText {t : Instant} (proper : t.IsProper)
    (valid : t.date.isValid = true) (least : 0 ≤ t.date.year) (greatest : t.date.year ≤ 9999) :
    strictFields t.millisecondText.toList =
      some (t.fieldsWith (t.fraction / 1000000 * 1000000)) := by
  have yearText_eq : yearText t.date.year = padded 4 t.date.year.toNat :=
    if_pos ⟨least, greatest⟩
  have year : t.date.year.toNat < 10 ^ 4 := by omega
  obtain ⟨month, day⟩ := isValid_bounds valid
  obtain ⟨hour, minute, second⟩ := time_bounds proper
  have fraction : t.fraction / 1000000 < 1000 := by unfold Instant.fraction; omega
  rw [millisecondText, String.toList_ofList, secondText, yearText_eq]
  simp only [List.append_assoc, List.cons_append, strictFields, expect, timeMark, if_true,
    number_padded 4 4 (by decide) (by decide) year, number_twoDigits month, number_twoDigits day,
    number_twoDigits hour, number_twoDigits minute, number_twoDigits second,
    fractionPart_padded 3 (by decide) (by decide) fraction, Option.bind_eq_bind, Option.bind_some]
  have universal : offset (expect ':') ['Z'] = some (0, []) := rfl
  rw [universal, Option.bind_some, Int.ofNat_eq_natCast, Int.toNat_of_nonneg least]
  rfl

/-- A cell gives back the instant that it was given, cut to milliseconds. -/
theorem ofCellText?_millisecondText {t : Instant} (proper : t.IsProper) (least : 0 ≤ t.date.year)
    (greatest : t.date.year ≤ 9999) : ofCellText? t.millisecondText = some t.cut := by
  have valid : t.date.isValid = true := by
    refine Date.isValid_ofDays ?_ ?_
    · exact Int.le_trans (by decide) least
    · exact Int.le_trans greatest (by decide)
  rw [ofCellText?, strictFields_millisecondText proper valid least greatest]
  exact instant?_cut proper valid

/-- A year with a sign is none that a cell may have. -/
theorem ofCellText?_eq_none {t : Instant} (long : ¬(0 ≤ t.date.year ∧ t.date.year ≤ 9999)) :
    ofCellText? t.millisecondText = none := by
  have year (digits rest : List Char) (c : Char) (sign : c.isDigit = false) :
      number 4 (some 4) ((c :: digits) ++ rest) = none := by
    simp only [number, List.cons_append, List.takeWhile_cons, sign, Bool.false_eq_true, if_false]
    rfl
  rw [ofCellText?, millisecondText, String.toList_ofList, secondText, yearText, if_neg long]
  simp only [List.append_assoc, strictFields]
  split <;> rw [year _ _ _ (by decide)] <;> rfl

/-! ### Instants in messages -/

/-- A fraction is below a second. -/
theorem fractionPart_lt {text rest : List Char} {value : Nat}
    (read : fractionPart text = some (value, rest)) : value < 1000000000 := by
  unfold fractionPart number at read
  split at read
  · rename_i digits
    simp only [Option.bind_eq_bind, Option.bind_eq_some_iff] at read
    obtain ⟨⟨number, behind⟩, taken, value_eq⟩ := read
    split at taken
    · cases taken
    · cases taken
      cases value_eq
      have below := digitsValue_lt ((digits.takeWhile Char.isDigit).take 9)
      rw [List.length_take] at below
      refine Nat.lt_of_lt_of_eq (Nat.mul_lt_mul_of_pos_right below (Nat.pow_pos (by decide))) ?_
      rw [Nat.pow_eq, ← Nat.pow_add, Nat.add_sub_cancel' (Nat.min_le_left _ _)]
  · cases read
    decide

/-- An offset is made of whole minutes. -/
theorem offset_wholeMinutes {separator : List Char → Option (List Char)} {text rest : List Char}
    {seconds : Int} (read : offset separator text = some (seconds, rest)) : seconds % 60 = 0 := by
  unfold offset at read
  split at read
  · cases read; rfl
  · cases read; rfl
  · simp only [Option.bind_eq_bind, Option.bind_eq_some_iff] at read
    obtain ⟨⟨negative, _⟩, _, ⟨hours, _⟩, _, _, _, ⟨minutes, _⟩, _, ended⟩ := read
    split at ended
    · cases ended
    · cases ended
      dsimp only
      split <;> omega

theorem relaxedOffset_wholeMinutes {text rest : List Char} {seconds : Int}
    (read : relaxedOffset text = some (seconds, rest)) : seconds % 60 = 0 := by
  unfold relaxedOffset at read
  split at read
  · cases read; rfl
  · exact offset_wholeMinutes read

/-- Fields stand for an instant of a clock if their offset is made of whole minutes. -/
theorem isProper_of_instant? {f : Fields} {t : Instant} (found : f.instant? = some t)
    (nanosecond : f.nanosecond < 1000000000) (offset : f.offset % 60 = 0) : t.IsProper := by
  unfold Fields.instant? at found
  split at found
  · dsimp only at found
    -- The leap second is the outer case.
    split at found
    · split at found
      · cases found
        refine .inr ⟨?_, ?_⟩ <;> dsimp only <;> omega
      · cases found
    · split at found
      · cases found
        exact .inl nanosecond
      · cases found
  · cases found

/-- Messages hold instants of a clock only. -/
theorem isProper_of_ofText? {text : String} {t : Instant} (read : ofText? text = some t) :
    t.IsProper := by
  obtain ⟨fields, read, found⟩ := Option.bind_eq_some_iff.mp read
  simp only [relaxedFields, Option.bind_eq_bind, Option.bind_eq_some_iff] at read
  obtain ⟨_, _, _, _, _, _, _, _, _, _, _, _, _, _, _, _, _, _, _, _, _, _, ⟨nanosecond, _⟩,
    fraction, ⟨offset, _⟩, offset_eq, ended⟩ := read
  split at ended
  · cases ended
    exact isProper_of_instant? found (fractionPart_lt fraction)
      (relaxedOffset_wholeMinutes offset_eq)
  · cases ended

end Instant

end ApplicationLedger
