/-
This file holds the ids of records: 128 random bits, of which six are set aside to say that they are
random, and their text in five groups of hexadecimal digits.
-/

import ApplicationLedger.Bytes.Utf8

namespace ApplicationLedger

/-- A random id, 16 bytes. -/
structure Uuid where
  bytes : Bytes
  deriving DecidableEq, Repr

namespace Uuid

/-- The bytes of a number of 128 bits, the highest first. -/
def bytesOf (bits : Nat) : Bytes :=
  (List.range 16).map fun index => UInt8.ofNat (bits / Nat.pow 2 (8 * (15 - index)))

/-- The id of 128 random bits: the seventh byte starts with the version 4, the ninth with the bits
`10`. -/
def ofRandom (bits : Nat) : Uuid :=
  ⟨(bytesOf bits).mapIdx fun index byte =>
    if index = 6 then (byte &&& 0x0f) ||| 0x40
    else if index = 8 then (byte &&& 0x3f) ||| 0x80
    else byte⟩

/-- The two hexadecimal digits of a byte. -/
def hexByte (byte : UInt8) : List Char :=
  [Nat.digitChar (byte.toNat / 16), Nat.digitChar (byte.toNat % 16)]

/-- The id in five groups. -/
def text (id : Uuid) : String :=
  String.ofList (id.bytes.mapIdx (fun index byte =>
    (if index = 4 ∨ index = 6 ∨ index = 8 ∨ index = 10 then ['-'] else []) ++ hexByte byte)).flatten

end Uuid

end ApplicationLedger
