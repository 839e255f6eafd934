/-
This file proves that JSON loses nothing of a string: whatever characters it has, the reader takes
back what the writer made of each of them, up to the closing quote.
-/

import ApplicationLedger.Json.Reader
import ApplicationLedger.Json.Writer

namespace ApplicationLedger.Json

/-! ### Characters -/

theorem hexUnit?_control : ∀ n < 0x20,
    hexUnit? '0' '0' (Nat.digitChar (n / 16)) (Nat.digitChar (n % 16)) = some n := by decide

theorem pushUnit_control (s : StringScan) {c : Char} (control : c.toNat < 0x20) :
    s.pushUnit c.toNat = s.push c := by
  rw [StringScan.pushUnit, if_neg (by omega), if_neg (by omega), Char.ofNat_toNat]

/-- Each character is read back from what was written for it. -/
theorem scanString_escapedChar (s : StringScan) (c : Char) (rest : List Char) :
    scanString s (escapedChar c ++ rest) = scanString (s.push c) rest := by
  unfold escapedChar
  split
  · rename_i quote; subst quote; rfl
  split
  · rename_i backslash; subst backslash; rfl
  split
  · rename_i newline; subst newline; rfl
  split
  · rename_i carriage; subst carriage; rfl
  split
  · rename_i tab; subst tab; rfl
  split
  · rename_i backspace; subst backspace; rfl
  split
  · rename_i feed; subst feed; rfl
  split
  · rename_i control
    simp only [List.cons_append, List.nil_append, scanString, hexUnit?_control _ control,
      pushUnit_control s control]
  · rename_i notBackslash _ _ _ _ _ notControl
    simp [scanString, notBackslash, notControl]

theorem skipBlanks_cons {c : Char} (mark : isBlank c = false) (rest : List Char) :
    skipBlanks (c :: rest) = c :: rest := by
  rw [skipBlanks, List.dropWhile_cons_of_neg (Bool.eq_false_iff.mp mark)]

/-! ### Strings -/

/-- A string is read up to its closing quote. -/
theorem scanString_flatMap (chars rest : List Char) {s : StringScan} (alone : s.lead = none)
    (isReadable : s.isReadable = true) :
    scanString s (chars.flatMap escapedChar ++ '"' :: rest) =
      some (some (String.ofList (s.reversed.reverse ++ chars)), rest) := by
  induction chars generalizing s with
  | nil =>
    rw [List.flatMap_nil, List.nil_append, scanString, StringScan.value?, alone, isReadable,
      List.append_nil]
    rfl
  | cons c others inductionHypothesis =>
    have stillReadable : (s.push c).isReadable = true := by
      rw [StringScan.push, alone, isReadable]
      rfl
    rw [List.flatMap_cons, List.append_assoc, scanString_escapedChar,
      inductionHypothesis rfl stillReadable, StringScan.push, List.reverse_cons, List.append_assoc]
    rfl

theorem escapedChar_eq {c : Char} (plain : needsEscape c = false) : escapedChar c = [c] := by
  simp only [needsEscape, Bool.or_eq_false_iff, decide_eq_false_iff_not] at plain
  obtain ⟨⟨notQuote, notBackslash⟩, notControl⟩ := plain
  have other (d : Char) (control : d.toNat < 0x20) : c ≠ d := by
    rintro rfl
    exact notControl control
  rw [escapedChar, if_neg notQuote, if_neg notBackslash, if_neg (other _ (by decide)),
    if_neg (other _ (by decide)), if_neg (other _ (by decide)), if_neg (other _ (by decide)),
    if_neg (other _ (by decide)), if_neg notControl]

/-- Without a character to escape, a string stands as it is. -/
theorem flatMap_escapedChar {chars : List Char} (plain : chars.any needsEscape = false) :
    chars.flatMap escapedChar = chars := by
  induction chars with
  | nil => rfl
  | cons c rest inductionHypothesis =>
    rw [List.any_cons, Bool.or_eq_false_iff] at plain
    rw [List.flatMap_cons, inductionHypothesis plain.2, escapedChar_eq plain.1]
    rfl

theorem toList_stringText (value : String) :
    (stringText value).toList = '"' :: (value.toList.flatMap escapedChar ++ ['"']) := by
  unfold stringText
  split
  · simp
  · rename_i plain
    have none : value.toList.any needsEscape = false :=
      String.contains_bool_eq.symm.trans (Bool.eq_false_iff.mpr plain)
    simp [flatMap_escapedChar none]

theorem stringText_eq (value : String) :
    stringText value = String.ofList ('"' :: (value.toList.flatMap escapedChar ++ ['"'])) := by
  rw [← String.toList_inj, toList_stringText, String.toList_ofList]

/-- A string is read back up to its closing quote. -/
theorem scanString_stringText (value : String) (rest : List Char) :
    scanString .empty (value.toList.flatMap escapedChar ++ '"' :: rest) =
      some (some value, rest) := by
  rw [scanString_flatMap _ _ rfl rfl]
  exact congrArg (fun text => some (some text, rest)) String.ofList_toList

end ApplicationLedger.Json
