/-
This file decodes JSON values into texts, truth values, numbers, instants and lists. A value is
decoded either straight from the text of a message, where arrays and objects count towards the
nesting limit, or from a buffer in which it was kept until it was known what to decode.
-/

import ApplicationLedger.Json.DecodeFault
import ApplicationLedger.Json.Reader
import ApplicationLedger.Instant.Reader

namespace ApplicationLedger

/-- Where a value is decoded from. -/
inductive Medium where
  /-- The text of a message, with one more than the levels that may still be entered. -/
  | text (depth : Nat)
  /-- Values kept apart, all plain and within the nesting limit. -/
  | buffer
  deriving DecidableEq, Repr

namespace Medium

/-- The medium inside an array or object. -/
def enter : Medium → Except DecodeFault Medium
  | .text depth => if depth ≤ 1 then .error .malformed else .ok (.text (depth - 1))
  | .buffer => .ok .buffer

/-- Whether a value can be passed over without being decoded. -/
def skips : Medium → Json → Bool
  | .text _, value => value.isComplete
  | .buffer, _ => true

/-- Whether a value can be kept in a buffer. -/
def keeps : Medium → Json → Bool
  | .text depth, value => value.fits depth
  | .buffer, _ => true

end Medium

/-- A way to decode values of one type. -/
abbrev Decoder (α : Type) := Medium → Json → Except DecodeFault α

namespace Decoder

/-- Any text. -/
def text : Decoder String
  | _, .string value => .ok value
  | _, value => .error (value.mismatch "a string")

/-- A truth value. -/
def boolean : Decoder Bool
  | _, .boolean value => .ok value
  | _, value => .error (value.mismatch "a boolean")

/-- A whole number from a range that has a name. -/
def integer (least greatest : Int) (range : String) : Decoder Int
  | _, .number (.integer value) =>
    if least ≤ value ∧ value ≤ greatest then .ok value
    else .error (.invalidValue ("integer `" ++ toString value ++ "`") range)
  | _, value => .error (value.mismatch range)

/-- A whole number of 64 bits with sign. -/
def int64 : Decoder Int := integer (-Int.pow 2 63) (Int.pow 2 63 - 1) "i64"

/-- A whole number of 16 bits without sign. -/
def word16 : Decoder Nat := fun medium value =>
  (integer 0 (Int.pow 2 16 - 1) "u16" medium value).map Int.toNat

/-- A count. -/
def count : Decoder Nat := fun medium value =>
  (integer 0 (Int.pow 2 64 - 1) "usize" medium value).map Int.toNat

/-- An instant, written as a text. -/
def instant : Decoder Instant
  | _, .string value =>
    match Instant.ofText? value with
    | some instant => .ok instant
    | none => .error .badTimestamp
  | _, value => .error (value.mismatch "an RFC 3339 formatted date and time string")

/-- A value that may be `null` instead. -/
def optional {α : Type} (decode : Decoder α) : Decoder (Option α)
  | _, .null => .ok none
  | medium, value => (decode medium value).map some

/-- The items of an array, one after the other. -/
def items {α : Type} (decode : Decoder α) (medium : Medium) :
    List Json → Except DecodeFault (List α)
  | [] => .ok []
  | value :: rest => do
    let item ← decode medium value
    let others ← items decode medium rest
    .ok (item :: others)

/-- An array of values of one kind. -/
def list {α : Type} (decode : Decoder α) : Decoder (List α)
  | medium, .array values => do items decode (← medium.enter) values
  | _, value => .error (value.mismatch "a sequence")

/-- Decodes all of a text. What is wrong with the value counts before what follows it. -/
def ofText {α : Type} (decode : Decoder α) (text : String) : Except DecodeFault α := do
  let reading := Json.read text
  let result ← decode (.text (Json.nestingLimit + 1)) reading.value
  if reading.isWhole then .ok result else .error .malformed

end Decoder

end ApplicationLedger
