/-
This file writes a text so that it can stand in a link: every byte of its UTF-8 form that is not an
ASCII letter, a digit or one of `-`, `_`, `.`, `~` becomes a percent sign and two uppercase
hexadecimal digits.
-/

import ApplicationLedger.Bytes.Utf8

namespace ApplicationLedger.Percent

/-- The bytes that stand for themselves in a link. -/
def isUnreserved (byte : UInt8) : Bool :=
  (65 ≤ byte && byte ≤ 90) || (97 ≤ byte && byte ≤ 122) || (48 ≤ byte && byte ≤ 57) ||
    byte == 45 || byte == 46 || byte == 95 || byte == 126

/-- The uppercase hexadecimal digit of a number below sixteen. -/
def hexDigit (value : Nat) : Char :=
  if value < 10 then Char.ofNat (48 + value) else Char.ofNat (55 + value)

/-- One byte in a link. -/
def encodeByte (byte : UInt8) : List Char :=
  if isUnreserved byte then [Char.ofNat byte.toNat]
  else ['%', hexDigit (byte.toNat / 16), hexDigit (byte.toNat % 16)]

/-- The text in a link. -/
def encode (text : String) : String :=
  String.ofList ((Bytes.ofText text).flatMap encodeByte)

end ApplicationLedger.Percent
