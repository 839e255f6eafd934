/-
This file reads numbers in decimal notation: an optional sign, digits with at most one point and at
least one digit, and an optional exponent. Two readings share this grammar. A filter value is a
number if all of it is one; a table cell takes blanks around the number too.
-/

import ApplicationLedger.Number.Digits

namespace ApplicationLedger

/-! ### The grammar -/

/-- The value of a digit, 0 for any other character. -/
def digitValue (c : Char) : Nat :=
  if c.isDigit then c.toNat - 48 else 0

/-- The number with these decimal digits. -/
def digitsValue (digits : List Char) : Nat :=
  digits.foldl (fun value c => value * 10 + digitValue c) 0

/-- A number in decimal notation: `± digits · 10 ^ power`. -/
structure Decimal where
  negative : Bool
  digits : Nat
  power : Int
  /-- Whether the text has neither a point nor an exponent. -/
  isWhole : Bool

namespace Decimal

/-- An optional sign and the rest; `true` is a minus. -/
def sign : List Char → Bool × List Char
  | '-' :: rest => (true, rest)
  | '+' :: rest => (false, rest)
  | text => (false, text)

/-- The digits and, behind a point, the fraction digits of a text, with what follows them. The last
part says whether there is a point. -/
def mantissa (text : List Char) : List Char × List Char × List Char × Bool :=
  let whole := text.takeWhile Char.isDigit
  match text.dropWhile Char.isDigit with
  | '.' :: rest => (whole, rest.takeWhile Char.isDigit, rest.dropWhile Char.isDigit, true)
  | rest => (whole, [], rest, false)

/-- The exponent that makes up all of a text: an `e`, an optional sign and digits, or nothing. -/
def exponent? : List Char → Option Int
  | [] => some 0
  | e :: rest =>
    let (negative, digits) := sign rest
    if (e == 'e' || e == 'E') && !digits.isEmpty && digits.all Char.isDigit then
      some (if negative then -Int.ofNat (digitsValue digits) else Int.ofNat (digitsValue digits))
    else none

/-- The number that makes up all of a text. -/
def ofText? (text : List Char) : Option Decimal := do
  let (negative, unsigned) := sign text
  let (whole, fraction, rest, pointed) := mantissa unsigned
  if whole.isEmpty && fraction.isEmpty then none
  let exponent ← exponent? rest
  some ⟨negative, digitsValue (whole ++ fraction), exponent - Int.ofNat fraction.length,
    !pointed && rest.isEmpty⟩

/-- The floating point number nearest to a decimal. -/
def toBinary64 (d : Decimal) : Binary64 :=
  .ofDecimal d.negative d.digits d.power

/-- The whole number that a decimal without point and exponent writes, with 64 bits. -/
def toInt64? (d : Decimal) : Option Int :=
  let value := if d.negative then -Int.ofNat d.digits else Int.ofNat d.digits
  if d.isWhole ∧ -Int.pow 2 63 ≤ value ∧ value < Int.pow 2 63 then some value else none

end Decimal

/-! ### Numbers of queries and cells -/

/-- A number: a whole one of 64 bits, or a floating point one. -/
inductive Numeric where
  | integer (value : Int)
  | real (value : Binary64)
  deriving DecidableEq, Repr

namespace Numeric

/-- The number that a decimal stands for: whole if it is written so and fits, else floating. -/
def ofDecimal (d : Decimal) : Numeric :=
  match d.toInt64? with
  | some value => .integer value
  | none => .real d.toBinary64

/-- Whether the number is not an infinity. -/
def isFinite : Numeric → Bool
  | .integer _ => true
  | .real value => value.isFinite

/-- The number that a filter value writes, if all of it is a number and not too large for one. -/
def ofValue? (value : String) : Option Numeric :=
  ((Decimal.ofText? value.toList).map ofDecimal).filter isFinite

/-- The blanks that a cell takes around a number. -/
def isCellBlank (c : Char) : Bool :=
  c == ' ' || (9 ≤ c.toNat && c.toNat ≤ 13)

/-- The number that a cell's text writes, blanks around it allowed. -/
def ofCellText? (text : String) : Option Numeric :=
  let stripped := ((text.toList.dropWhile isCellBlank).reverse.dropWhile isCellBlank).reverse
  (Decimal.ofText? stripped).map ofDecimal

/-- The text that a cell of text takes for a number. -/
def cellText : Numeric → String
  | .integer value => toString value
  | .real value => value.cellText

/-- Compares the values exactly. -/
def compare : Numeric → Numeric → Ordering
  | .integer a, .integer b => Ord.compare a b
  | .integer a, .real b => Binary64.compareInt a b
  | .real a, .integer b => (Binary64.compareInt b a).swap
  | .real a, .real b => Binary64.compare a b

end Numeric

end ApplicationLedger
