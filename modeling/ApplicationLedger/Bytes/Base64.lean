/-
This file writes bytes in base 64 and reads them back. Three bytes become four symbols of six bits
each. The standard form fills the last group with `=`; the form for links uses `-` and `_` in place
of `+` and `/` and does not fill. Reading takes the standard form only, and only as writing makes
it: whole groups, no stray symbols, and no bits set behind the last byte.
-/

import ApplicationLedger.Bytes.Utf8

namespace ApplicationLedger.Base64

/-- The symbol for six bits, with the two symbols that stand for 62 and 63. -/
def symbol (last : Char × Char) (value : Nat) : Char :=
  if value < 26 then Char.ofNat (65 + value)
  else if value < 52 then Char.ofNat (71 + value)
  else if value < 62 then Char.ofNat (value - 4)
  else if value = 62 then last.1
  else last.2

/-- How the last group of a text is written. -/
structure Style where
  /-- The symbols for 62 and 63. -/
  last : Char × Char
  /-- Written in place of the symbols that a short last group lacks. -/
  fill : List Char

/-- The standard alphabet, filled with `=`. -/
def standard : Style := ⟨('+', '/'), ['=']⟩

/-- The alphabet that is safe in links, not filled. -/
def forLinks : Style := ⟨('-', '_'), []⟩

/-- The symbols of some bytes, group by group. -/
def symbols (style : Style) : Bytes → List Char
  | [] => []
  | [a] =>
    [symbol style.last (a.toNat / 4), symbol style.last (a.toNat % 4 * 16)] ++
      style.fill ++ style.fill
  | [a, b] =>
    [symbol style.last (a.toNat / 4), symbol style.last (a.toNat % 4 * 16 + b.toNat / 16),
      symbol style.last (b.toNat % 16 * 4)] ++ style.fill
  | a :: b :: c :: rest =>
    symbol style.last (a.toNat / 4) :: symbol style.last (a.toNat % 4 * 16 + b.toNat / 16) ::
      symbol style.last (b.toNat % 16 * 4 + c.toNat / 64) :: symbol style.last (c.toNat % 64) ::
      symbols style rest

/-- The bytes in base 64. -/
def encode (style : Style) (bytes : Bytes) : String :=
  String.ofList (symbols style bytes)

/-- The six bits of a symbol of the standard alphabet. -/
def bits? (c : Char) : Option Nat :=
  if 'A' ≤ c ∧ c ≤ 'Z' then some (c.toNat - 65)
  else if 'a' ≤ c ∧ c ≤ 'z' then some (c.toNat - 71)
  else if '0' ≤ c ∧ c ≤ '9' then some (c.toNat + 4)
  else if c = '+' then some 62
  else if c = '/' then some 63
  else none

/-- The bytes behind some symbols of the standard form. Bits behind the last byte must be zero. -/
def bytes? : List Char → Option Bytes
  | [] => some []
  | [a, b, '=', '='] => do
    let a ← bits? a
    let b ← bits? b
    if b % 16 = 0 then some [UInt8.ofNat (a * 4 + b / 16)] else none
  | [a, b, c, '='] => do
    let a ← bits? a
    let b ← bits? b
    let c ← bits? c
    if c % 4 = 0 then
      some [UInt8.ofNat (a * 4 + b / 16), UInt8.ofNat (b % 16 * 16 + c / 4)]
    else none
  | a :: b :: c :: d :: rest => do
    let a ← bits? a
    let b ← bits? b
    let c ← bits? c
    let d ← bits? d
    let rest ← bytes? rest
    some (UInt8.ofNat (a * 4 + b / 16) :: UInt8.ofNat (b % 16 * 16 + c / 4) ::
      UInt8.ofNat (c % 4 * 64 + d) :: rest)
  | _ => none

/-- The bytes of a text in the standard form, if it is one. -/
def decode? (text : String) : Option Bytes :=
  bytes? text.toList

end ApplicationLedger.Base64
