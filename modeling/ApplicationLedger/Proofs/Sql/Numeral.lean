/-
This file reads numbers as the database does: an optional sign, digits with an optional fraction,
and an optional exponent, each part as long as it can be. What is a number for a filter value is one
number here, of the same characters, whatever follows it in a statement.
-/

import Mathlib.Data.List.TakeWhile
import ApplicationLedger.Number.Decimal

namespace ApplicationLedger.Sql

/-! ### The parts of a number -/

/-- The sign at the start of a text, if there is one, and the rest. -/
def signPart : List Char → List Char × List Char
  | [] => ([], [])
  | c :: rest => if c = '-' ∨ c = '+' then ([c], rest) else ([], c :: rest)

/-- The point at the start of a text with the digits behind it, if there is one, and the rest. -/
def fractionPart : List Char → List Char × List Char
  | [] => ([], [])
  | c :: rest =>
    if c = '.' then (c :: rest.takeWhile Char.isDigit, rest.dropWhile Char.isDigit)
    else ([], c :: rest)

/-- The exponent at the start of a text, if there is one with digits, and the rest. -/
def exponentPart : List Char → List Char × List Char
  | [] => ([], [])
  | e :: rest =>
    let (sign, unsigned) := signPart rest
    if (e == 'e' || e == 'E') && !(unsigned.takeWhile Char.isDigit).isEmpty then
      (e :: sign ++ unsigned.takeWhile Char.isDigit, unsigned.dropWhile Char.isDigit)
    else ([], e :: rest)

/-- The number at the start of a text and the rest. There has to be a digit before the exponent. -/
def number? (text : List Char) : Option (List Char × List Char) :=
  let (sign, unsigned) := signPart text
  let whole := unsigned.takeWhile Char.isDigit
  let (fraction, behind) := fractionPart (unsigned.dropWhile Char.isDigit)
  let (exponent, rest) := exponentPart behind
  if whole.isEmpty && fraction.tail.isEmpty then none
  else some (sign ++ (whole ++ (fraction ++ exponent)), rest)

/-! ### Nothing is lost -/

theorem signPart_append (text : List Char) : (signPart text).1 ++ (signPart text).2 = text := by
  unfold signPart
  split
  · rfl
  · split <;> rfl

theorem fractionPart_append (text : List Char) :
    (fractionPart text).1 ++ (fractionPart text).2 = text := by
  unfold fractionPart
  split
  · rfl
  · split
    · exact congrArg (_ :: ·) List.takeWhile_append_dropWhile
    · rfl

theorem exponentPart_append (text : List Char) :
    (exponentPart text).1 ++ (exponentPart text).2 = text := by
  unfold exponentPart
  split
  · rfl
  · rename_i e rest
    dsimp only
    split
    · rw [List.cons_append, List.cons_append, List.append_assoc, List.takeWhile_append_dropWhile,
        signPart_append]
    · rfl

/-- A number and what follows it make up the text, and the number is not empty. -/
theorem number?_spec {text written rest : List Char} (read : number? text = some (written, rest)) :
    written ++ rest = text ∧ written ≠ [] := by
  unfold number? at read
  dsimp only at read
  split at read
  · cases read
  · rename_i digits
    cases read
    constructor
    · simp only [List.append_assoc, exponentPart_append, fractionPart_append,
        List.takeWhile_append_dropWhile, signPart_append]
    · intro empty
      simp only [List.append_eq_nil_iff] at empty
      rw [empty.2.1, empty.2.2.1] at digits
      exact digits rfl

/-! ### Where numbers end -/

/-- Whether a text begins with what ends an operand of a statement, if with anything. -/
def EndsOperand (text : List Char) : Prop := ∀ c ∈ text.head?, c = ' ' ∨ c = ')'

section Ends

variable {rest : List Char}

theorem EndsOperand.isDigit (ends : EndsOperand rest) : ∀ c ∈ rest.head?, c.isDigit = false := by
  intro c member
  rcases ends c member with rfl | rfl <;> rfl

theorem digits_append (ends : EndsOperand rest) (text : List Char) :
    (text ++ rest).takeWhile Char.isDigit = text.takeWhile Char.isDigit ∧
      (text ++ rest).dropWhile Char.isDigit = text.dropWhile Char.isDigit ++ rest := by
  induction text with
  | nil =>
    cases rest with
    | nil => exact ⟨rfl, rfl⟩
    | cons c rest =>
      have other := ends.isDigit c rfl
      simp only [List.nil_append, List.takeWhile_cons, List.dropWhile_cons, other,
        Bool.false_eq_true, if_false, List.takeWhile_nil, List.dropWhile_nil, and_self]
  | cons c text inductionHypothesis =>
    simp only [List.cons_append, List.takeWhile_cons, List.dropWhile_cons, inductionHypothesis]
    split <;> simp only [List.cons_append, and_self]

theorem signPart_append_rest (ends : EndsOperand rest) (text : List Char) :
    signPart (text ++ rest) = ((signPart text).1, (signPart text).2 ++ rest) := by
  cases text with
  | nil =>
    cases rest with
    | nil => rfl
    | cons c rest => rcases ends c rfl with rfl | rfl <;> rfl
  | cons c text =>
    simp only [List.cons_append, signPart]
    split <;> rfl

theorem fractionPart_append_rest (ends : EndsOperand rest) (text : List Char) :
    fractionPart (text ++ rest) = ((fractionPart text).1, (fractionPart text).2 ++ rest) := by
  cases text with
  | nil =>
    cases rest with
    | nil => rfl
    | cons c rest => rcases ends c rfl with rfl | rfl <;> rfl
  | cons c text =>
    simp only [List.cons_append, fractionPart, digits_append ends]
    split <;> rfl

theorem exponentPart_append_rest (ends : EndsOperand rest) (text : List Char) :
    exponentPart (text ++ rest) = ((exponentPart text).1, (exponentPart text).2 ++ rest) := by
  cases text with
  | nil =>
    cases rest with
    | nil => rfl
    | cons c rest => rcases ends c rfl with rfl | rfl <;> rfl
  | cons e text =>
    simp only [List.cons_append, exponentPart, signPart_append_rest ends, digits_append ends]
    split <;> rfl

/-- What follows a text and ends operands is no part of a number in it. -/
theorem number?_append (ends : EndsOperand rest) {text written behind : List Char}
    (read : number? text = some (written, behind)) :
    number? (text ++ rest) = some (written, behind ++ rest) := by
  unfold number? at read ⊢
  simp only [signPart_append_rest ends, digits_append ends, fractionPart_append_rest ends,
    exponentPart_append_rest ends] at read ⊢
  split at read
  · cases read
  · rename_i digits
    cases read
    rw [if_neg digits]

end Ends

/-! ### Numbers of filter values -/

theorem snd_signPart (text : List Char) : (signPart text).2 = (Decimal.sign text).2 := by
  unfold Decimal.sign
  split
  · rfl
  · rfl
  · rename_i notMinus notPlus
    cases text with
    | nil => rfl
    | cons c rest =>
      rw [signPart, if_neg]
      rintro (rfl | rfl)
      · exact notMinus rest rfl
      · exact notPlus rest rfl

/-- The digits behind the point of a number, and what follows the number up to there. -/
theorem mantissa_eq (text : List Char) :
    ∃ pointed, Decimal.mantissa text = (text.takeWhile Char.isDigit,
      (fractionPart (text.dropWhile Char.isDigit)).1.tail,
      (fractionPart (text.dropWhile Char.isDigit)).2, pointed) := by
  unfold Decimal.mantissa
  dsimp only
  split
  · rename_i rest behind
    exact ⟨true, by rw [behind]; rfl⟩
  · rename_i rest notPoint
    refine ⟨false, ?_⟩
    cases behind : text.dropWhile Char.isDigit with
    | nil => rfl
    | cons c rest =>
      rw [fractionPart, if_neg]
      · rfl
      · rintro rfl
        exact notPoint rest behind

theorem exponentPart_of_exponent? {text : List Char} {value : Int}
    (read : Decimal.exponent? text = some value) : exponentPart text = (text, []) := by
  cases text with
  | nil => rfl
  | cons e rest =>
    rw [Decimal.exponent?] at read
    dsimp only at read
    split at read
    · rename_i shape
      simp only [Bool.and_eq_true] at shape
      obtain ⟨⟨letter, nonempty⟩, digits⟩ := shape
      rw [← snd_signPart] at nonempty digits
      have run : (signPart rest).2.takeWhile Char.isDigit = (signPart rest).2 :=
        List.takeWhile_eq_self_iff.mpr (List.all_eq_true.mp digits)
      have behind : (signPart rest).2.dropWhile Char.isDigit = [] :=
        List.dropWhile_eq_nil_iff.mpr (List.all_eq_true.mp digits)
      simp only [exponentPart, run, behind, letter, nonempty, Bool.and_self, if_true,
        List.cons_append, signPart_append]
    · cases read

/-- A text that is a number throughout is read as one number. -/
theorem number?_of_ofText? {text : List Char} {d : Decimal} (read : Decimal.ofText? text = some d) :
    number? text = some (text, []) := by
  rw [Decimal.ofText?] at read
  simp only [Option.bind_eq_bind] at read
  split at read
  · cases read
  · rename_i digits
    obtain ⟨exponent, exponent_eq, _⟩ := Option.bind_eq_some_iff.mp read
    obtain ⟨pointed, parts⟩ := mantissa_eq (Decimal.sign text).2
    rw [parts, ← snd_signPart] at exponent_eq digits
    have all : (signPart text).1 ++ ((signPart text).2.takeWhile Char.isDigit ++
        ((fractionPart ((signPart text).2.dropWhile Char.isDigit)).1 ++
          (fractionPart ((signPart text).2.dropWhile Char.isDigit)).2)) = text := by
      rw [fractionPart_append, List.takeWhile_append_dropWhile, signPart_append]
    simp only [number?, exponentPart_of_exponent? exponent_eq, if_neg digits, all]

/-- Digits are one number. -/
theorem number?_of_digits {c : Char} {rest : List Char}
    (digits : ∀ d ∈ c :: rest, d.isDigit = true) : number? (c :: rest) = some (c :: rest, []) := by
  have unsigned : signPart (c :: rest) = ([], c :: rest) := by
    rw [signPart, if_neg]
    rintro (rfl | rfl)
    · cases digits '-' List.mem_cons_self
    · cases digits '+' List.mem_cons_self
  have run : (c :: rest).takeWhile Char.isDigit = c :: rest :=
    List.takeWhile_eq_self_iff.mpr digits
  have behind : (c :: rest).dropWhile Char.isDigit = [] := List.dropWhile_eq_nil_iff.mpr digits
  simp only [number?, unsigned, run, behind, fractionPart, exponentPart, List.isEmpty_cons,
    Bool.false_and, Bool.false_eq_true, if_false, List.nil_append, List.append_nil]

/-- The digits of a natural number are one number. -/
theorem number?_toDigits (value : Nat) :
    number? (Nat.toDigits 10 value) = some (Nat.toDigits 10 value, []) := by
  have digits : ∀ c ∈ Nat.toDigits 10 value, c.isDigit = true :=
    fun c member => Nat.isDigit_of_mem_toDigits (by decide) (by decide) member
  cases written : Nat.toDigits 10 value with
  | nil => exact absurd written Nat.toDigits_ne_nil
  | cons c rest =>
    rw [written] at digits
    exact number?_of_digits digits

end ApplicationLedger.Sql
