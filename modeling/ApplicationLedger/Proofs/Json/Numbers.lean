/-
This file proves that a whole number of 64 bits, with or without sign, is read back from its text.
The reader takes digits into a word one by one, and none of them is too many.
-/

import ApplicationLedger.Json.Reader
import ApplicationLedger.Proofs.Number.Digits

namespace ApplicationLedger.Json

/-! ### Words -/

theorem le_foldl_digitValue (digits : List Char) (word : Nat) :
    word ≤ digits.foldl (fun value c => value * 10 + digitValue c) word := by
  induction digits generalizing word with
  | nil => exact Nat.le_refl word
  | cons c rest inductionHypothesis =>
    exact Nat.le_trans (by omega) (inductionHypothesis (word * 10 + digitValue c))

/-- Digits that make a word are all taken. -/
theorem takeDigits_eq {digits : List Char} {word : Nat}
    (fits : digits.foldl (fun value c => value * 10 + digitValue c) word ≤ greatestWord) :
    takeDigits word digits =
      (digits.foldl (fun value c => value * 10 + digitValue c) word, []) := by
  induction digits generalizing word with
  | nil => rfl
  | cons c rest inductionHypothesis =>
    have small := Nat.le_trans (le_foldl_digitValue rest (word * 10 + digitValue c)) fits
    rw [takeDigits, if_neg (Nat.not_lt.mpr small), inductionHypothesis fits]
    rfl

theorem takeDigits_toDigits {value : Nat} (fits : value ≤ greatestWord) :
    takeDigits 0 (Nat.toDigits 10 value) = (value, []) := by
  have same : (Nat.toDigits 10 value).foldl (fun value c => value * 10 + digitValue c) 0 = value :=
    digitsValue_toDigits value
  rw [takeDigits_eq (same.symm ▸ fits), same]

/-! ### Numbers -/

/-- A whole number that fits 64 bits, with or without sign. -/
def IsWord (value : Int) : Prop := -Int.pow 2 63 ≤ value ∧ value < Int.pow 2 64

/-- A numeral without point and exponent is the number that was written. -/
theorem value?_toDigits {value : Int} (isWord : IsWord value) :
    Numeral.value? ⟨decide (value < 0), Nat.toDigits 10 value.natAbs, [], none⟩ =
      some (.integer value) := by
  have least : -9223372036854775808 ≤ value := isWord.1
  have greatest : value < 18446744073709551616 := isWord.2
  have fits : value.natAbs ≤ greatestWord := by
    show value.natAbs ≤ 18446744073709551615
    omega
  simp only [Numeral.value?, takeDigits_toDigits fits]
  by_cases negative : value < 0
  · have large : ¬(value.natAbs = 0 ∨ value.natAbs > Nat.pow 2 63) := by
      show ¬(value.natAbs = 0 ∨ value.natAbs > 9223372036854775808)
      omega
    have written : -Int.ofNat value.natAbs = value := by
      show -(value.natAbs : Int) = value
      omega
    simp only [negative, decide_true, List.isEmpty_nil, Option.isNone_none, Bool.and_self, if_true,
      Bool.not_true, Bool.false_eq_true, if_false, if_neg large, written]
  · have written : (value.natAbs : Int) = value := by omega
    simp only [negative, decide_false, List.isEmpty_nil, Option.isNone_none, Bool.and_self, if_true,
      Bool.not_false, written]

/-- Whether a text does not go on with a number, if with anything. -/
def EndsNumber (text : List Char) : Prop :=
  ∀ c ∈ text.head?, c.isDigit = false ∧ c ≠ '.' ∧ c ≠ 'e' ∧ c ≠ 'E'

theorem scanExponent_eq {rest : List Char} (ends : EndsNumber rest) :
    scanExponent rest = some (none, rest) := by
  cases rest with
  | nil => rfl
  | cons c rest =>
    obtain ⟨_, _, small, capital⟩ := ends c rfl
    rw [scanExponent, if_neg fun exponent => exponent.elim small capital]

/-- The digits of a number are read up to what follows them. -/
theorem digits_append_rest {digits rest : List Char} (allDigits : ∀ c ∈ digits, c.isDigit = true)
    (ends : EndsNumber rest) :
    (digits ++ rest).takeWhile Char.isDigit = digits ∧
      (digits ++ rest).dropWhile Char.isDigit = rest := by
  rw [List.takeWhile_append_of_pos allDigits, List.dropWhile_append_of_pos allDigits]
  cases rest with
  | nil => exact ⟨List.append_nil digits, rfl⟩
  | cons c rest =>
    have other : ¬c.isDigit := Bool.eq_false_iff.mp (ends c rfl).1
    rw [List.takeWhile_cons_of_neg other, List.dropWhile_cons_of_neg other, List.append_nil]
    exact ⟨rfl, rfl⟩

/-- Digits without a zero in front of others are read as one numeral, with a minus or without. -/
theorem scanNumber_digits (negative : Bool) {digits rest : List Char}
    (allDigits : ∀ c ∈ digits, c.isDigit = true) (nonempty : digits ≠ [])
    (zero : ∀ others, digits = '0' :: others → others = []) (ends : EndsNumber rest) :
    scanNumber ((if negative then ['-'] else []) ++ digits ++ rest) =
      match Numeral.value? ⟨negative, digits, [], none⟩ with
      | none => (.unreadable, some rest)
      | some value => (.number value, some rest) := by
  obtain ⟨run, behind⟩ := digits_append_rest allDigits ends
  have whole : (digits.isEmpty || (digits.head? == some '0' && digits.length > 1)) = false := by
    cases digits with
    | nil => exact absurd rfl nonempty
    | cons c others =>
      by_cases isZero : c = '0'
      · rw [isZero, zero others (isZero ▸ rfl)]
        rfl
      · simp [isZero]
  have pointless (text : List Char) : ¬rest = '.' :: text := by
    rintro rfl
    exact (ends '.' rfl).2.1 rfl
  have unsigned (text : List Char) : ¬digits ++ rest = '-' :: text := by
    cases digits with
    | nil => exact absurd rfl nonempty
    | cons c others =>
      rintro ⟨⟩
      exact absurd (allDigits '-' List.mem_cons_self) (by decide)
  cases negative with
  | true =>
    show scanNumber ('-' :: (digits ++ rest)) = _
    rw [scanNumber]
    cases value : Numeral.value? ⟨true, digits, [], none⟩ <;>
      simp only [run, behind, whole, Bool.false_and, Bool.false_eq_true, if_false,
        scanExponent_eq ends, value]
  | false =>
    show scanNumber (digits ++ rest) = _
    rw [scanNumber]
    · cases value : Numeral.value? ⟨false, digits, [], none⟩ <;>
        simp only [run, behind, whole, Bool.false_and, Bool.false_eq_true, if_false,
          scanExponent_eq ends, value]
    · exact unsigned

/-- A whole number is read back from its text. -/
theorem scanNumber_toString {value : Int} (isWord : IsWord value) {rest : List Char}
    (ends : EndsNumber rest) :
    scanNumber ((toString value).toList ++ rest) = (.number (.integer value), some rest) := by
  have allDigits : ∀ c ∈ Nat.toDigits 10 value.natAbs, c.isDigit = true :=
    fun _ => isDigit_of_mem_toDigits
  have scanned := scanNumber_digits (decide (value < 0)) allDigits Nat.toDigits_ne_nil
    (fun _ => toDigits_eq_singleton_of_zero) ends
  rw [value?_toDigits isWord] at scanned
  simp only [decide_eq_true_eq] at scanned
  rw [toList_toString_int, scanned]

end ApplicationLedger.Json
