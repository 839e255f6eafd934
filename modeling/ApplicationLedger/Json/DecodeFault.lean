/-
This file says how a JSON value can fail to be what a message needs, and words each way.
-/

import ApplicationLedger.Json.Basic
import ApplicationLedger.Number.Digits
import ApplicationLedger.Text.Quoted

namespace ApplicationLedger

/-- Why a value does not decode. -/
inductive DecodeFault where
  /-- The text is not JSON, or JSON that no message may have. -/
  | malformed
  /-- A value of another kind than expected. -/
  | invalidType (found expected : String)
  /-- A value of the expected kind, but out of range. -/
  | invalidValue (found expected : String)
  /-- An array of another length than the fields it stands for. -/
  | invalidLength (length : Nat) (expected : String)
  | missingField (name : String)
  | duplicateField (name : String)
  /-- A name that is not among the known ones. -/
  | unknownVariant (name : String) (known : List String)
  /-- A text that writes no instant. -/
  | badTimestamp
  /-- A text that a type of its own refuses, with its reason. -/
  | refused (reason : String)
  deriving DecidableEq, Repr

namespace DecodeFault

/-- The names between the marks that messages put around names. -/
def marked (name : String) : String := "`" ++ name ++ "`"

/-- The fault in words. -/
def message : DecodeFault → String
  | malformed => "<json>"
  | invalidType found expected => "invalid type: " ++ found ++ ", expected " ++ expected
  | invalidValue found expected => "invalid value: " ++ found ++ ", expected " ++ expected
  | invalidLength length expected =>
    "invalid length " ++ toString length ++ ", expected " ++ expected
  | missingField name => "missing field " ++ marked name
  | duplicateField name => "duplicate field " ++ marked name
  | unknownVariant name known =>
    "unknown variant " ++ marked name ++ ", expected one of " ++
      ", ".intercalate (known.map marked)
  | badTimestamp => "<bad timestamp>"
  | refused reason => reason

end DecodeFault

namespace Json

/-- What a value is, in words; nothing for what stands in place of a value. -/
def description? : Json → Option String
  | .null => some "null"
  | .boolean true => some "boolean `true`"
  | .boolean false => some "boolean `false`"
  | .number (.integer value) => some ("integer `" ++ toString value ++ "`")
  | .number (.real value) => some ("floating point `" ++ value.messageText ++ "`")
  | .string value => some ("string " ++ Text.quoted value)
  | .array _ => some "sequence"
  | .object _ => some "map"
  | .unreadable => none
  | .broken => none

/-- The fault of a value where another kind is expected. -/
def mismatch (value : Json) (expected : String) : DecodeFault :=
  match value.description? with
  | some found => .invalidType found expected
  | none => .malformed

end Json

end ApplicationLedger
