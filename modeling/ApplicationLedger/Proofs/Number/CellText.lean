/-
This file relates numbers to their texts. An integer of 64 bits is read back from its decimal
digits, and the text that a cell takes for a number is never empty.
-/

import Mathlib.Data.List.TakeWhile
import ApplicationLedger.Proofs.Number.Digits

namespace ApplicationLedger

/-! ### Integers -/

namespace Decimal

section Digits

variable {digits : List Char}

theorem sign_digits (allDigits : ∀ c ∈ digits, c.isDigit = true) :
    sign digits = (false, digits) := by
  unfold sign
  split
  · exact absurd (allDigits '-' List.mem_cons_self) (by decide)
  · exact absurd (allDigits '+' List.mem_cons_self) (by decide)
  · rfl

theorem mantissa_digits (allDigits : ∀ c ∈ digits, c.isDigit = true) :
    mantissa digits = (digits, [], [], false) := by
  have whole : digits.takeWhile Char.isDigit = digits := List.takeWhile_eq_self_iff.mpr allDigits
  have rest : digits.dropWhile Char.isDigit = [] := List.dropWhile_eq_nil_iff.mpr allDigits
  rw [mantissa, whole, rest]

/-- Digits behind a sign are read as a whole number. -/
theorem ofText?_digits (allDigits : ∀ c ∈ digits, c.isDigit = true) (some : digits ≠ [])
    (negative : Bool) :
    ofText? ((if negative then ['-'] else []) ++ digits) =
      .some ⟨negative, digitsValue digits, 0, true⟩ := by
  have signed : sign ((if negative then ['-'] else []) ++ digits) = (negative, digits) := by
    cases negative with
    | true => rfl
    | false => exact sign_digits allDigits
  have present : digits.isEmpty = false := List.isEmpty_eq_false_iff.mpr some
  rw [ofText?, signed]
  simp only [mantissa_digits allDigits, present, List.append_nil]
  rfl

end Digits

end Decimal

/-- An integer of 64 bits is read back from its text. -/
theorem Numeric.ofValue?_toString {value : Int} (least : -Int.pow 2 63 ≤ value)
    (greatest : value < Int.pow 2 63) : ofValue? (toString value) = some (.integer value) := by
  have text : (toString value).toList =
      (if decide (value < 0) then ['-'] else []) ++ Nat.toDigits 10 value.natAbs := by
    rw [toList_toString_int]
    simp only [decide_eq_true_eq]
  have whole : (if decide (value < 0) then -Int.ofNat value.natAbs else Int.ofNat value.natAbs) =
      value := by
    simp only [decide_eq_true_eq, Int.ofNat_eq_natCast]
    split <;> omega
  have decimal : Decimal.ofText? (toString value).toList =
      some ⟨decide (value < 0), value.natAbs, 0, true⟩ := by
    rw [text, Decimal.ofText?_digits (fun _ => isDigit_of_mem_toDigits) Nat.toDigits_ne_nil,
      digitsValue_toDigits]
  have fits : Decimal.toInt64? ⟨decide (value < 0), value.natAbs, 0, true⟩ = some value := by
    rw [Decimal.toInt64?]
    simp only [whole]
    exact if_pos ⟨trivial, least, greatest⟩
  rw [ofValue?, decimal, Option.map_some, ofDecimal, fits]
  rfl

/-! ### Numbers in cells -/

namespace Binary64

theorem dropZeros_ne_nil (digits : List Char) : dropZeros digits ≠ [] := by
  unfold dropZeros
  split
  · exact List.cons_ne_nil _ _
  · rename_i some
    exact some

theorem roundedDigits_ne_nil (count significand : Nat) (exponent : Int) :
    (roundedDigits count significand exponent).digits ≠ [] := by
  unfold roundedDigits
  split
  · exact List.cons_ne_nil _ _
  · dsimp only
    split <;> exact dropZeros_ne_nil _

theorem Format.write_ne_nil (format : Format) {d : Digits} (some : d.digits ≠ []) :
    format.write d ≠ [] := by
  unfold Format.write
  split
  · split
    · contradiction
    · split <;> exact List.cons_ne_nil _ _
    · exact List.cons_ne_nil _ _
  · split
    · exact List.cons_ne_nil _ _
    · simp

end Binary64

/-- No number has an empty text. -/
theorem Numeric.cellText_ne_empty (number : Numeric) : number.cellText ≠ "" := by
  rw [ne_eq, ← String.toList_eq_nil_iff]
  cases number with
  | integer value =>
    rw [cellText, toList_toString_int]
    exact List.append_ne_nil_of_right_ne_nil _ Nat.toDigits_ne_nil
  | real value =>
    cases value with
    | infinite negative => cases negative <;> decide
    | finite negative significand exponent =>
      rw [cellText, Binary64.cellText, String.toList_ofList]
      exact List.append_ne_nil_of_right_ne_nil _
        (Binary64.Format.write_ne_nil _ (Binary64.roundedDigits_ne_nil _ _ _))

end ApplicationLedger
