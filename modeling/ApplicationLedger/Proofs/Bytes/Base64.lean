/-
This file proves that the form of base 64 that stands in links tells the bytes that it was written
for. Six bits have a symbol of their own, and nothing is filled in, so the last group tells by its
length how many bytes it holds.
-/

import Mathlib.Data.List.Nodup
import ApplicationLedger.Bytes.Base64

namespace ApplicationLedger.Base64

/-- Different bits have different symbols. -/
theorem symbol_inj {value value' : Nat} (bound : value < 64) (bound' : value' < 64)
    (same : symbol forLinks.last value = symbol forLinks.last value') : value = value' := by
  have nodup : ((List.range 64).map (symbol forLinks.last)).Nodup := by decide
  exact List.inj_on_of_nodup_map nodup (List.mem_range.mpr bound) (List.mem_range.mpr bound') same

section Groups

variable {a b c a' b' c' : UInt8}

/-- The first two symbols of a group tell its first byte and four bits of the next one. -/
theorem first_inj {high high' : Nat} (bound : high < 16) (bound' : high' < 16)
    (first : symbol forLinks.last (a.toNat / 4) = symbol forLinks.last (a'.toNat / 4))
    (second : symbol forLinks.last (a.toNat % 4 * 16 + high) =
      symbol forLinks.last (a'.toNat % 4 * 16 + high')) : a = a' ∧ high = high' := by
  have := a.toNat_lt
  have := a'.toNat_lt
  have upper := symbol_inj (by omega) (by omega) first
  have lower := symbol_inj (by omega) (by omega) second
  exact ⟨UInt8.toNat_inj.mp (by omega), by omega⟩

/-- With the four bits that are known, the third symbol tells the second byte and two bits of the
last one. -/
theorem second_inj {high high' : Nat} (bound : high < 4) (bound' : high' < 4)
    (upper : b.toNat / 16 = b'.toNat / 16)
    (third : symbol forLinks.last (b.toNat % 16 * 4 + high) =
      symbol forLinks.last (b'.toNat % 16 * 4 + high')) : b = b' ∧ high = high' := by
  have lower := symbol_inj (by omega) (by omega) third
  exact ⟨UInt8.toNat_inj.mp (by omega), by omega⟩

/-- With the two bits that are known, the last symbol tells the last byte. -/
theorem third_inj (upper : c.toNat / 64 = c'.toNat / 64)
    (fourth : symbol forLinks.last (c.toNat % 64) = symbol forLinks.last (c'.toNat % 64)) :
    c = c' := by
  have lower := symbol_inj (by omega) (by omega) fourth
  exact UInt8.toNat_inj.mp (by omega)

end Groups

/-- The induction takes a group of three bytes at a time. Groups of different lengths have
different numbers of symbols. -/
theorem symbols_injective (bytes bytes' : Bytes)
    (same : symbols forLinks bytes = symbols forLinks bytes') : bytes = bytes' := by
  have high (byte : UInt8) : byte.toNat / 16 < 16 := by have := byte.toNat_lt; omega
  have top (byte : UInt8) : byte.toNat / 64 < 4 := by have := byte.toNat_lt; omega
  induction bytes using symbols.induct generalizing bytes' with
  | case1 =>
    match bytes' with
    | [] => rfl
    | [_] | [_, _] | _ :: _ :: _ :: _ => simp [symbols] at same
  | case2 a =>
    match bytes' with
    | [a'] =>
      simp only [symbols, forLinks, List.append_nil, List.cons.injEq, and_true] at same
      rw [(first_inj (by decide : 0 < 16) (by decide : 0 < 16) same.1 same.2).1]
    | [] | [_, _] | _ :: _ :: _ :: _ => simp [symbols, forLinks] at same
  | case3 a b =>
    match bytes' with
    | [a', b'] =>
      simp only [symbols, forLinks, List.append_nil, List.cons.injEq, and_true] at same
      obtain ⟨rfl, upper⟩ := first_inj (high b) (high b') same.1 same.2.1
      rw [(second_inj (by decide : 0 < 4) (by decide : 0 < 4) upper same.2.2).1]
    | [] | [_] | _ :: _ :: _ :: _ => simp [symbols, forLinks] at same
  | case4 a b c rest inductionHypothesis =>
    match bytes' with
    | a' :: b' :: c' :: rest' =>
      simp only [symbols, List.cons.injEq] at same
      obtain ⟨first, second, third, fourth, others⟩ := same
      obtain ⟨rfl, upper⟩ := first_inj (high b) (high b') first second
      obtain ⟨rfl, highest⟩ := second_inj (top c) (top c') upper third
      rw [third_inj highest fourth, inductionHypothesis rest' others]
    | [] | [_] | [_, _] => simp [symbols, forLinks] at same

theorem encode_injective {bytes bytes' : Bytes}
    (same : encode forLinks bytes = encode forLinks bytes') : bytes = bytes' :=
  symbols_injective bytes bytes' (String.ofList_inj.mp same)

end ApplicationLedger.Base64
