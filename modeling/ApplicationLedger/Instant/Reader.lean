/-
This file reads instants. Messages may write them in a relaxed form: fields with fewer digits,
blanks around them, years with a sign, an offset with or without a colon. The record table holds
them in the strict form, with every field in full width. In both, a second of 60 is a leap second, a
fraction is cut to nanoseconds, and the time given is taken back by the offset.
-/

import ApplicationLedger.Instant.Basic
import ApplicationLedger.Number.Decimal
import ApplicationLedger.Text.Blank

namespace ApplicationLedger.Instant

open Text (trimStart)

/-! ### Parts -/

/-- What is left of a text behind one given character. -/
def expect (c : Char) : List Char → Option (List Char)
  | [] => none
  | d :: rest => if d = c then some rest else none

/-- A number of at least `least` digits, and of at most `most` of them if given. -/
def number (least : Nat) (most : Option Nat) (text : List Char) : Option (Nat × List Char) :=
  let run := text.takeWhile Char.isDigit
  let digits := match most with
    | some most => run.take most
    | none => run
  if digits.length < least then none else some (digitsValue digits, text.drop digits.length)

/-- The fraction of a second behind a point, in nanoseconds; digits from the tenth on are skipped.
Without a point it is zero. -/
def fractionPart : List Char → Option (Nat × List Char)
  | '.' :: rest => do
    let (value, _) ← number 1 (some 9) rest
    let width := min 9 (rest.takeWhile Char.isDigit).length
    some (value * Nat.pow 10 (9 - width), rest.dropWhile Char.isDigit)
  | text => some (0, text)

/-- The sign of an offset; the minus sign of typography counts as well. -/
def offsetSign : List Char → Option (Bool × List Char)
  | '+' :: rest => some (false, rest)
  | '-' :: rest => some (true, rest)
  | '\u2212' :: rest => some (true, rest)
  | _ => none

/-- An offset from universal time in seconds: `Z`, or a sign, two digits of hours, a separator and
two digits of minutes below 60. -/
def offset (separator : List Char → Option (List Char)) (text : List Char) :
    Option (Int × List Char) :=
  match text with
  | 'Z' :: rest => some (0, rest)
  | 'z' :: rest => some (0, rest)
  | text => do
    let (negative, rest) ← offsetSign text
    let (hours, rest) ← number 2 (some 2) rest
    let rest ← separator rest
    let (minutes, rest) ← number 2 (some 2) rest
    if minutes ≥ 60 then none
    let seconds : Int := hours * 3600 + minutes * 60
    some (if negative then -seconds else seconds, rest)

/-- The fields of a written instant. -/
structure Fields where
  date : Date
  hour : Nat
  minute : Nat
  second : Nat
  nanosecond : Nat
  /-- Seconds ahead of universal time. -/
  offset : Int

/-- The instant that some fields stand for, if every field is in range and so is the date in
universal time. -/
def Fields.instant? (f : Fields) : Option Instant :=
  if f.date.isValid ∧ f.hour < 24 ∧ f.minute < 60 ∧ f.second ≤ 60 ∧ f.offset.natAbs < 86400 then
    let leap := f.second = 60
    let second : Int := f.date.toDays * 86400 + f.hour * 3600 + f.minute * 60 +
      (if leap then 59 else f.second) - f.offset
    let instant : Instant := ⟨second, f.nanosecond + if leap then 1000000000 else 0⟩
    if instant.date.isValid then some instant else none
  else none

/-! ### The relaxed form -/

/-- A year with a sign and any number of digits, or without one and with at most four. -/
def relaxedYear (text : List Char) : Option (Int × List Char) :=
  match trimStart text with
  | '-' :: rest => (number 1 none rest).map fun (value, rest) => (-Int.ofNat value, rest)
  | '+' :: rest => (number 1 none rest).map fun (value, rest) => (Int.ofNat value, rest)
  | text => (number 1 (some 4) text).map fun (value, rest) => (Int.ofNat value, rest)

/-- A field of one or two digits behind blanks. -/
def relaxedField (text : List Char) : Option (Nat × List Char) :=
  number 1 (some 2) (trimStart text)

/-- What is left behind the mark between date and time. -/
def timeMark : List Char → Option (List Char)
  | 'T' :: rest => some rest
  | 't' :: rest => some rest
  | ' ' :: rest => some rest
  | _ => none

/-- The offset of the relaxed form, where `UTC` stands for zero and any colons and blanks, or none,
separate hours from minutes. -/
def relaxedOffset (text : List Char) : Option (Int × List Char) :=
  if (text.take 3).map Char.toUpper = ['U', 'T', 'C'] then some (0, text.drop 3)
  else offset (fun rest => some (rest.dropWhile fun c => c == ':' || Text.isBlank c)) text

/-- The fields of an instant in the relaxed form. -/
def relaxedFields (text : List Char) : Option Fields := do
  let (year, text) ← relaxedYear text
  let (month, text) ← relaxedField (← expect '-' (trimStart text))
  let (day, text) ← relaxedField (← expect '-' (trimStart text))
  let (hour, text) ← relaxedField (← timeMark text)
  let (minute, text) ← relaxedField (← expect ':' (trimStart text))
  let (second, text) ← relaxedField (← expect ':' (trimStart text))
  let (nanosecond, text) ← fractionPart text
  let (offset, text) ← relaxedOffset (trimStart text)
  if (trimStart text).isEmpty then
    some ⟨⟨year, month, day⟩, hour, minute, second, nanosecond, offset⟩
  else none

/-- The instant that a text of a message writes. -/
def ofText? (text : String) : Option Instant :=
  (relaxedFields text.toList).bind Fields.instant?

/-! ### The strict form -/

/-- The fields of an instant in the strict form. -/
def strictFields (text : List Char) : Option Fields := do
  let (year, text) ← number 4 (some 4) text
  let (month, text) ← number 2 (some 2) (← expect '-' text)
  let (day, text) ← number 2 (some 2) (← expect '-' text)
  let (hour, text) ← number 2 (some 2) (← timeMark text)
  let (minute, text) ← number 2 (some 2) (← expect ':' text)
  let (second, text) ← number 2 (some 2) (← expect ':' text)
  let (nanosecond, text) ← fractionPart text
  let (offset, text) ← offset (expect ':') text
  if text.isEmpty then
    some ⟨⟨Int.ofNat year, month, day⟩, hour, minute, second, nanosecond, offset⟩
  else none

/-- The instant that a cell of the record table writes. -/
def ofCellText? (text : String) : Option Instant :=
  (strictFields text.toList).bind Fields.instant?

end ApplicationLedger.Instant
