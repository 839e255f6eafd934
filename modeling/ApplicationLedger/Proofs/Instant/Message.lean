/-
This file proves that a message gives back each instant that it was given, to the nanosecond. The
relaxed form skips blanks before its fields and takes fewer digits than were written, but no field
begins with a blank and each ends at a mark, so every field is read as it was written.
-/

import ApplicationLedger.Proofs.Instant.Text

namespace ApplicationLedger.Instant

open Text (trimStart)

/-! ### Marks and digits -/

theorem trimStart_cons {c : Char} (mark : Text.isBlank c = false) (rest : List Char) :
    trimStart (c :: rest) = c :: rest := by
  rw [trimStart, List.dropWhile_cons_of_neg (Bool.eq_false_iff.mp mark)]

theorem isBlank_of_isDigit {c : Char} (digit : c.isDigit = true) : Text.isBlank c = false := by
  have range : 48 ≤ c.toNat ∧ c.toNat ≤ 57 := Char.isDigit_iff_toNat.mp digit
  rw [Bool.eq_false_iff]
  intro blank
  simp only [Text.isBlank, Bool.or_eq_true, Bool.and_eq_true, decide_eq_true_eq,
    beq_iff_eq] at blank
  omega

/-- A number has a digit in front. -/
theorem padded_begins (width value : Nat) :
    ∃ c digits, padded width value = c :: digits ∧ c.isDigit = true := by
  cases written : padded width value with
  | nil => exact absurd (List.append_eq_nil_iff.mp written).2 Nat.toDigits_ne_nil
  | cons c digits => exact ⟨c, digits, rfl, isDigit_of_mem_padded (written ▸ List.mem_cons_self)⟩

theorem trimStart_padded (width value : Nat) (rest : List Char) :
    trimStart (padded width value ++ rest) = padded width value ++ rest := by
  obtain ⟨c, digits, begins, digit⟩ := padded_begins width value
  rw [begins, List.cons_append, trimStart_cons (isBlank_of_isDigit digit)]

theorem expect_trimStart {c : Char} (mark : Text.isBlank c = false) (rest : List Char) :
    expect c (trimStart (c :: rest)) = some rest := by
  rw [trimStart_cons mark, expect, if_pos rfl]

/-! ### Fields -/

/-- A field of two digits is read as it was written. -/
theorem relaxedField_padded {value : Nat} (bound : value < 10 ^ 2) (rest : List Char) :
    relaxedField (padded 2 value ++ rest) = some (value, rest) := by
  rw [relaxedField, trimStart_padded]
  exact number_padded 1 2 (by decide) (by decide) bound rest

/-- The digits of a year with a sign are read up to the mark behind them. -/
theorem number_signed (value : Nat) (rest : List Char) :
    number 1 none (padded 4 value ++ '-' :: rest) = some (value, '-' :: rest) := by
  have run : (padded 4 value ++ '-' :: rest).takeWhile Char.isDigit = padded 4 value := by
    rw [takeWhile_padded]
    exact List.append_nil _
  obtain ⟨c, digits, begins, _⟩ := padded_begins 4 value
  have length : ¬(padded 4 value).length < 1 := by
    rw [begins, List.length_cons]
    omega
  simp only [number, run, if_neg length, digitsValue_padded, List.drop_left]

/-- A year is read as it was written, with a sign if it has not four digits. -/
theorem relaxedYear_yearText (year : Int) (rest : List Char) :
    relaxedYear (yearText year ++ '-' :: rest) = some (year, '-' :: rest) := by
  unfold yearText
  split
  · rename_i plain
    obtain ⟨c, digits, begins, digit⟩ := padded_begins 4 year.toNat
    have short : year.toNat < 10 ^ 4 := by omega
    have read := number_padded 1 4 (by decide) (by decide) short ('-' :: rest)
    rw [relaxedYear, trimStart_padded]
    rw [begins, List.cons_append] at read ⊢
    split
    · rename_i sign
      cases sign
      cases digit
    · rename_i sign
      cases sign
      cases digit
    · rw [read]
      exact congrArg (fun year => some (year, _)) (Int.toNat_of_nonneg plain.1)
  · split <;> rename_i sign
    · rw [List.cons_append, relaxedYear, trimStart_cons rfl]
      simp only [number_signed, Option.map_some]
      exact congrArg (fun year => some (year, _)) (by show -(year.natAbs : Int) = year; omega)
    · rw [List.cons_append, relaxedYear, trimStart_cons rfl]
      simp only [number_signed, Option.map_some]
      exact congrArg (fun year => some (year, _)) (by show (year.natAbs : Int) = year; omega)

/-- The fraction of a second is read as it was written, with the fewest digits. -/
theorem fractionPart_shortestFraction {nanoseconds : Nat} (bound : nanoseconds < 1000000000) :
    fractionPart (shortestFraction nanoseconds ++ ['Z']) = some (nanoseconds, ['Z']) := by
  -- What is written is the fraction over the least of three powers of ten that divides it.
  have read (width value : Nat) (positive : 0 < width) (most : width ≤ 9)
      (short : value < 10 ^ width) (same : value * 10 ^ (9 - width) = nanoseconds) :
      fractionPart ('.' :: padded width value ++ ['Z']) = some (nanoseconds, ['Z']) := by
    rw [List.cons_append, fractionPart_padded width positive most short, same]
  unfold shortestFraction
  split
  · rename_i none
    rw [none]
    rfl
  split
  · exact read 3 _ (by decide) (by decide) (by omega) (by omega)
  split
  · exact read 6 _ (by decide) (by decide) (by omega) (by omega)
  · exact read 9 _ (by decide) (by decide) bound (Nat.mul_one _)

/-! ### Instants in messages -/

/-- Whether an instant is one of a clock, in a year that dates may have. -/
def InRange (t : Instant) : Prop := t.IsProper ∧ t.date.isValid = true

theorem relaxedFields_text {t : Instant} (inRange : t.InRange) :
    relaxedFields t.text.toList = some (t.fieldsWith t.fraction) := by
  obtain ⟨month, day⟩ := isValid_bounds inRange.2
  obtain ⟨hour, minute, second⟩ := time_bounds inRange.1
  have fraction : t.fraction < 1000000000 := Nat.mod_lt _ (by decide)
  have dash := expect_trimStart (c := '-') rfl
  have colon := expect_trimStart (c := ':') rfl
  rw [text, String.toList_ofList, secondText]
  simp only [List.append_assoc, List.cons_append]
  refine Option.bind_eq_some_iff.mpr ⟨_, relaxedYear_yearText _ _, ?_⟩
  refine Option.bind_eq_some_iff.mpr ⟨_, dash _, ?_⟩
  refine Option.bind_eq_some_iff.mpr ⟨_, relaxedField_padded month _, ?_⟩
  refine Option.bind_eq_some_iff.mpr ⟨_, dash _, ?_⟩
  refine Option.bind_eq_some_iff.mpr ⟨_, relaxedField_padded day _, ?_⟩
  refine Option.bind_eq_some_iff.mpr ⟨_, rfl, ?_⟩
  refine Option.bind_eq_some_iff.mpr ⟨_, relaxedField_padded hour _, ?_⟩
  refine Option.bind_eq_some_iff.mpr ⟨_, colon _, ?_⟩
  refine Option.bind_eq_some_iff.mpr ⟨_, relaxedField_padded minute _, ?_⟩
  refine Option.bind_eq_some_iff.mpr ⟨_, colon _, ?_⟩
  refine Option.bind_eq_some_iff.mpr ⟨_, relaxedField_padded second _, ?_⟩
  exact Option.bind_eq_some_iff.mpr ⟨_, fractionPart_shortestFraction fraction, rfl⟩

/-- A message gives back the instant that it was given. -/
theorem ofText?_text {t : Instant} (inRange : t.InRange) : ofText? t.text = some t := by
  rw [ofText?, relaxedFields_text inRange, Option.bind_some,
    instant?_fieldsWith inRange.1 inRange.2, fraction_add inRange.1]

end ApplicationLedger.Instant
