/-
This file writes floating point numbers in decimal, in two ways: with the fewest digits that read
back as the same number, and rounded to a fixed count of digits. The first digits are found by exact
arithmetic, the others by products with twice the usual precision; what is done with digits and
their decimal exponent is the part of the two formats.
-/

import ApplicationLedger.Number.TwoPart

namespace ApplicationLedger.Binary64

/-! ### Digits -/

/-- Decimal digits with the power of ten of the first one: `d.ddd · 10 ^ exponent`. -/
structure Digits where
  digits : List Char
  exponent : Int

/-- Whether the quotient is at least a power of ten. -/
def reachesPower (numerator denominator : Nat) (exponent : Int) : Bool :=
  if 0 ≤ exponent then denominator * Nat.pow 10 exponent.toNat ≤ numerator
  else denominator ≤ numerator * Nat.pow 10 (-exponent).toNat

/-- The whole part of the decimal logarithm of a positive quotient. The lengths of numerator and
denominator leave two candidates. -/
def decimalMagnitude (numerator denominator : Nat) : Int :=
  let guess : Int := Int.ofNat (decimalLength numerator) - Int.ofNat (decimalLength denominator)
  if reachesPower numerator denominator guess then guess else guess - 1

/-- The quotient over a power of ten, as numerator and denominator. -/
def overPower (numerator denominator : Nat) (exponent : Int) : Nat × Nat :=
  if 0 ≤ exponent then (numerator, denominator * Nat.pow 10 exponent.toNat)
  else (numerator * Nat.pow 10 (-exponent).toNat, denominator)

/-- Digits without the zeros at their end; at least one digit stays. -/
def dropZeros (digits : List Char) : List Char :=
  match (digits.reverse.dropWhile (· == '0')).reverse with
  | [] => ['0']
  | kept => kept

/-- The digits of a whole number of units, where the unit is the power of ten of the last digit. -/
def Digits.ofUnits (units : Nat) (unit : Int) : Digits :=
  let written := Nat.toDigits 10 units
  ⟨dropZeros written, unit + Int.ofNat written.length - 1⟩

/-! ### The fewest digits -/

/-- The numbers that round to `significand · 2 ^ exponent` lie between two bounds, given here with
the number itself in quarters of `2 ^ exponent`: lower bound, number, upper bound. Below a power of
two the gap is half as wide. -/
def roundingBounds (significand : Nat) (exponent : Int) : Nat × Nat × Nat :=
  let below := if significand = Nat.pow 2 52 ∧ exponent > -1074 then 1 else 2
  (4 * significand - below, 4 * significand, 4 * significand + 2)

/-- The neighbour on a decimal grid that reads back as the number, the nearer one of two. The bounds
read back as the number when its significand is even. -/
def gridHit? (significand : Nat) (exponent unit : Int) : Option Nat :=
  let (lower, middle, upper) := roundingBounds significand exponent
  let (quarterNumerator, quarterDenominator) := magnitude 1 (exponent - 2)
  let (numerator, denominator) := overPower (middle * quarterNumerator) quarterDenominator unit
  let (lowerNumerator, _) := overPower (lower * quarterNumerator) quarterDenominator unit
  let (upperNumerator, _) := overPower (upper * quarterNumerator) quarterDenominator unit
  let inside (units : Nat) : Bool :=
    let point := units * denominator
    if significand % 2 = 0 then lowerNumerator ≤ point ∧ point ≤ upperNumerator
    else lowerNumerator < point ∧ point < upperNumerator
  let floor := numerator / denominator
  let rest := 2 * (numerator % denominator)
  let nearer :=
    if rest < denominator ∨ (rest = denominator ∧ floor % 2 = 0) then floor else floor + 1
  let farther := if nearer = floor then floor + 1 else floor
  if inside nearer then some nearer
  else if inside farther then some farther
  else none

/-- The fewest digits that read back as the positive number, searched from a count of digits on;
the first argument is what is left of 17. -/
def fewestFrom (significand : Nat) (exponent power : Int) : Nat → Nat → Digits
  | 0, count =>
    Digits.ofUnits ((gridHit? significand exponent (power - count + 1)).getD 0) (power - count + 1)
  | left + 1, count =>
    match gridHit? significand exponent (power - count + 1) with
    | some units => Digits.ofUnits units (power - count + 1)
    | none => fewestFrom significand exponent power left (count + 1)

/-- The fewest digits that read back as the positive number `significand · 2 ^ exponent`. -/
def fewestDigits (significand : Nat) (exponent : Int) : Digits :=
  if significand = 0 then ⟨['0'], 0⟩
  else
    let (numerator, denominator) := magnitude significand exponent
    fewestFrom significand exponent (decimalMagnitude numerator denominator) 16 1

/-- The positive number rounded to some digits, a half upwards, after it was cut to a whole number
of 63 bits times a power of ten. -/
def roundedDigits (count : Nat) (significand : Nat) (exponent : Int) : Digits :=
  if significand = 0 then ⟨['0'], 0⟩
  else
    let (word, power) := TwoPart.scaled (.finite false significand exponent)
    match decimalLength word - count with
    | 0 => Digits.ofUnits word power
    | further + 1 =>
      Digits.ofUnits ((word / Nat.pow 10 further + 5) / 10) (power + Int.ofNat (further + 1))

/-! ### Formats -/

/-- How digits and exponent become a text. -/
structure Format where
  /-- The least exponent written without an exponent part. -/
  leastPlain : Int
  /-- The greatest exponent written without an exponent part. -/
  greatestPlain : Int
  /-- Whether one digit and an exponent have `.0` between them. -/
  fillsPoint : Bool

/-- The exponent part: a sign and at least two digits. -/
def exponentPart (exponent : Int) : List Char :=
  let written := Nat.toDigits 10 exponent.natAbs
  ['e', if exponent < 0 then '-' else '+'] ++ (if written.length < 2 then ['0'] else []) ++ written

/-- Digits with their exponent as a text. A point always has a digit on both sides. -/
def Format.write (format : Format) (d : Digits) : List Char :=
  if d.exponent < format.leastPlain ∨ format.greatestPlain < d.exponent then
    match d.digits with
    | [] => []
    | [first] =>
      (if format.fillsPoint then [first, '.', '0'] else [first]) ++ exponentPart d.exponent
    | first :: rest => first :: '.' :: rest ++ exponentPart d.exponent
  else if d.exponent < 0 then
    ['0', '.'] ++ List.replicate ((-d.exponent).toNat - 1) '0' ++ d.digits
  else
    let whole := d.exponent.toNat + 1
    let fraction := d.digits.drop whole
    d.digits.take whole ++ List.replicate (whole - d.digits.length) '0' ++ ['.'] ++
      if fraction.isEmpty then ['0'] else fraction

/-- A number in a message: the fewest digits, plain from `1e-5` to below `1e16`. -/
def messageText : Binary64 → String
  | .infinite negative => if negative then "-inf" else "inf"
  | .finite negative significand exponent =>
    String.ofList ((if negative then ['-'] else []) ++
      Format.write ⟨-5, 15, false⟩ (fewestDigits significand exponent))

/-- A number as the text that a table cell of text takes for it: fifteen digits, plain from `1e-4`
to below `1e15`, and no sign on zero. -/
def cellText : Binary64 → String
  | .infinite negative => if negative then "-Inf" else "Inf"
  | .finite negative significand exponent =>
    String.ofList ((if negative && significand != 0 then ['-'] else []) ++
      Format.write ⟨-4, 14, true⟩ (roundedDigits 15 significand exponent))

end ApplicationLedger.Binary64
