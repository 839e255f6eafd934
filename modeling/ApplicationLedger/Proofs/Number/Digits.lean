/-
This file holds the arithmetic of decimal digits: digits are the number they were written for, and a
number is written without zeros in front.
-/

import Mathlib.Algebra.Group.Nat.Defs
import ApplicationLedger.Number.Decimal

namespace ApplicationLedger

/-! ### The number of some digits -/

theorem digitsValue_eq {digits : List Char} (allDigits : ∀ c ∈ digits, c.isDigit = true) :
    digitsValue digits = Nat.ofDigitChars 10 digits 0 := by
  unfold digitsValue
  generalize 0 = value
  induction digits generalizing value with
  | nil => rfl
  | cons c rest inductionHypothesis =>
    rw [List.foldl_cons, Nat.ofDigitChars_cons, digitValue, if_pos (allDigits c List.mem_cons_self),
      Nat.mul_comm, inductionHypothesis fun d member => allDigits d (List.mem_cons_of_mem c member)]
    rfl

theorem digitValue_le (c : Char) : digitValue c ≤ 9 := by
  unfold digitValue
  split
  · rename_i isDigit
    have below : c.toNat ≤ 57 := (Char.isDigit_iff_toNat.mp isDigit).2
    omega
  · decide

theorem foldl_digits (digits : List Char) (value : Nat) :
    digits.foldl (fun value c => value * 10 + digitValue c) value =
      value * 10 ^ digits.length + digitsValue digits := by
  induction digits generalizing value with
  | nil => exact (Nat.mul_one value).symm
  | cons c rest inductionHypothesis =>
    have behind : digitsValue (c :: rest) =
        rest.foldl (fun value c => value * 10 + digitValue c) (0 * 10 + digitValue c) := rfl
    rw [List.foldl_cons, inductionHypothesis, behind, inductionHypothesis, Nat.zero_mul,
      Nat.zero_add, List.length_cons, Nat.pow_succ', Nat.add_mul, Nat.mul_assoc, Nat.add_assoc]

/-- The first digit counts as much as its place says. -/
theorem digitsValue_cons (c : Char) (rest : List Char) :
    digitsValue (c :: rest) = digitValue c * 10 ^ rest.length + digitsValue rest := by
  rw [digitsValue, List.foldl_cons, foldl_digits, Nat.zero_mul, Nat.zero_add]

theorem digitsValue_lt (digits : List Char) : digitsValue digits < 10 ^ digits.length := by
  induction digits with
  | nil => decide
  | cons c rest inductionHypothesis =>
    have first : digitValue c * 10 ^ rest.length ≤ 9 * 10 ^ rest.length :=
      Nat.mul_le_mul_right _ (digitValue_le c)
    rw [digitsValue_cons, List.length_cons, Nat.pow_succ']
    omega

/-! ### The digits of a number -/

theorem isDigit_of_mem_toDigits {value : Nat} {c : Char} (member : c ∈ Nat.toDigits 10 value) :
    c.isDigit = true :=
  Nat.isDigit_of_mem_toDigits (by decide) (by decide) member

theorem digitsValue_toDigits (value : Nat) : digitsValue (Nat.toDigits 10 value) = value := by
  rw [digitsValue_eq fun _ => isDigit_of_mem_toDigits, Nat.ofDigitChars_ten_toDigits]

/-- Only zero itself is written with a zero in front. -/
theorem toDigits_eq_singleton_of_zero {value : Nat} {rest : List Char}
    (written : Nat.toDigits 10 value = '0' :: rest) : rest = [] := by
  cases rest with
  | nil => rfl
  | cons c rest =>
    have same : digitsValue (c :: rest) = value := by
      rw [← digitsValue_toDigits value, written]
      rfl
    have positive : 0 < (c :: rest).length := Nat.zero_lt_succ _
    have short := (Nat.length_toDigits_le_iff (by decide : 1 < 10) positive).mpr
      (same ▸ digitsValue_lt (c :: rest))
    rw [written, List.length_cons] at short
    exact absurd short (Nat.not_succ_le_self _)

/-- An integer is written with a minus if it is negative, and then its digits. -/
theorem toList_toString_int (value : Int) :
    (toString value).toList =
      (if value < 0 then ['-'] else []) ++ Nat.toDigits 10 value.natAbs := by
  cases value with
  | ofNat value =>
    have nonnegative : ¬Int.ofNat value < 0 := Int.not_lt.mpr (Int.natCast_nonneg value)
    rw [if_neg nonnegative]
    exact Nat.toList_repr
  | negSucc value =>
    rw [if_pos (Int.negSucc_lt_zero value)]
    show ("-" ++ (value + 1).repr).toList = _
    rw [String.toList_append, Nat.toList_repr]
    rfl

/-- An integer is written with digits and a minus only. -/
theorem not_mem_toString_int {mark : Char} (notMinus : mark ≠ '-') (notDigit : mark.isDigit = false)
    (value : Int) : mark ∉ (toString value).toList := by
  rw [toList_toString_int, List.mem_append, not_or]
  constructor
  · split
    · exact mt List.mem_singleton.mp notMinus
    · exact List.not_mem_nil
  · intro member
    rw [isDigit_of_mem_toDigits member] at notDigit
    cases notDigit

theorem minus_not_mem_toDigits (value : Nat) : '-' ∉ Nat.toDigits 10 value := fun member =>
  Bool.noConfusion (isDigit_of_mem_toDigits member : '-'.isDigit = true)

/-- Integers that are written alike are the same. -/
theorem toString_int_inj {value value' : Int} :
    toString value = toString value' ↔ value = value' := by
  refine ⟨fun same => ?_, congrArg toString⟩
  have written := congrArg String.toList same
  rw [toList_toString_int, toList_toString_int] at written
  have sameSign : value < 0 ↔ value' < 0 := by
    have marked := congrArg ('-' ∈ ·) written
    simp only [List.mem_append, minus_not_mem_toDigits, or_false, eq_iff_iff] at marked
    simpa using marked
  simp only [sameSign] at written
  have size : value.natAbs = value'.natAbs := by
    rw [← digitsValue_toDigits value.natAbs, List.append_cancel_left written, digitsValue_toDigits]
  omega

end ApplicationLedger
