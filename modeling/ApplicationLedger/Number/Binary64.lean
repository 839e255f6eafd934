/-
This file holds the binary floating point numbers of 64 bits that stand in queries and in table
cells. A finite number is kept as a significand and a power of two, so that every operation here is
exact arithmetic followed by one rounding: to the nearest number, a tie to the even significand.
-/

namespace ApplicationLedger

/-- A binary floating point number: `± significand · 2 ^ exponent`, or one of the infinities. Only
numbers made by `Binary64.round` are built, whose significand has at most 53 bits, all of them used
unless the exponent is the least one, -1074. -/
inductive Binary64 where
  | finite (negative : Bool) (significand : Nat) (exponent : Int)
  | infinite (negative : Bool)
  deriving DecidableEq, Repr

namespace Binary64

/-! ### Rounding -/

/-- The quotient rounded to the nearest whole number, a tie to the even one. -/
def roundQuotient (numerator denominator : Nat) : Nat :=
  let whole := numerator / denominator
  let rest := 2 * (numerator % denominator)
  if rest < denominator ∨ (rest = denominator ∧ whole % 2 = 0) then whole else whole + 1

/-- The quotient over a power of two, as numerator and denominator. -/
def scaled (numerator denominator : Nat) (exponent : Int) : Nat × Nat :=
  if 0 ≤ exponent then (numerator, denominator * Nat.pow 2 exponent.toNat)
  else (numerator * Nat.pow 2 (-exponent).toNat, denominator)

/-- The whole part of the binary logarithm of a positive quotient. -/
def binaryMagnitude (numerator denominator : Nat) : Int :=
  let guess : Int := Int.ofNat (Nat.log2 numerator) - Int.ofNat (Nat.log2 denominator)
  let (scaledNumerator, scaledDenominator) := scaled numerator denominator guess
  if scaledNumerator < scaledDenominator then guess - 1 else guess

/-- Zero with a sign. -/
def zero (negative : Bool) : Binary64 := .finite negative 0 (-1074)

/-- The number nearest to a quotient with a positive denominator. -/
def round (negative : Bool) (numerator denominator : Nat) : Binary64 :=
  if numerator = 0 then zero negative
  else
    let exponent := max (-1074) (binaryMagnitude numerator denominator - 52)
    let (scaledNumerator, scaledDenominator) := scaled numerator denominator exponent
    let significand := roundQuotient scaledNumerator scaledDenominator
    let (significand, exponent) :=
      if significand = Nat.pow 2 53 then (Nat.pow 2 52, exponent + 1) else (significand, exponent)
    if exponent > 971 then .infinite negative else .finite negative significand exponent

/-- How many decimal digits a number has; zero has one. -/
def decimalLength (value : Nat) : Nat :=
  (Nat.toDigits 10 value).length

/-- The number nearest to `± digits · 10 ^ power`. A power far outside the range is decided without
being computed. -/
def ofDecimal (negative : Bool) (digits : Nat) (power : Int) : Binary64 :=
  if digits = 0 then zero negative
  else if power + Int.ofNat (decimalLength digits) > 310 then .infinite negative
  else if power + Int.ofNat (decimalLength digits) < -330 then zero negative
  else if 0 ≤ power then round negative (digits * Nat.pow 10 power.toNat) 1
  else round negative digits (Nat.pow 10 (-power).toNat)

/-! ### Arithmetic and order -/

/-- Whether the sign is minus. Zero has a sign too. -/
def negative : Binary64 → Bool
  | .finite negative _ _ => negative
  | .infinite negative => negative

/-- Whether the number is not an infinity. -/
def isFinite : Binary64 → Bool
  | .finite _ _ _ => true
  | .infinite _ => false

/-- The number with the opposite sign. -/
def neg : Binary64 → Binary64
  | .finite negative significand exponent => .finite (!negative) significand exponent
  | .infinite negative => .infinite (!negative)

/-- The size of a finite number as numerator and denominator. -/
def magnitude (significand : Nat) (exponent : Int) : Nat × Nat :=
  if 0 ≤ exponent then (significand * Nat.pow 2 exponent.toNat, 1)
  else (significand, Nat.pow 2 (-exponent).toNat)

/-- The product with a finite factor that is not zero. -/
def mul (x y : Binary64) : Binary64 :=
  match x, y with
  | .finite negativeX significandX exponentX, .finite negativeY significandY exponentY =>
    let (numerator, denominator) := magnitude (significandX * significandY) (exponentX + exponentY)
    round (negativeX != negativeY) numerator denominator
  | _, _ => .infinite (x.negative != y.negative)

/-- The sum of two numbers that are not both infinite. -/
def add (x y : Binary64) : Binary64 :=
  match x, y with
  | .finite negativeX significandX exponentX, .finite negativeY significandY exponentY =>
    let exponent := min exponentX exponentY
    let units (negative : Bool) (significand : Nat) (shifted : Int) : Int :=
      let size := Int.ofNat (significand * Nat.pow 2 (shifted - exponent).toNat)
      if negative then -size else size
    let sum := units negativeX significandX exponentX + units negativeY significandY exponentY
    let (numerator, denominator) := magnitude sum.natAbs exponent
    round (decide (sum < 0)) numerator denominator
  | .infinite negative, _ => .infinite negative
  | _, .infinite negative => .infinite negative

/-- The quotient by a finite divisor that is not zero. -/
def div (x y : Binary64) : Binary64 :=
  match x, y with
  | .finite negativeX significandX exponentX, .finite negativeY significandY exponentY =>
    let (numerator, denominator) := magnitude significandX (exponentX - exponentY)
    round (negativeX != negativeY) numerator (denominator * significandY)
  | _, _ => .infinite (x.negative != y.negative)

/-- The number without the last 26 bits of its significand. -/
def leading : Binary64 → Binary64
  | .finite negative significand exponent =>
    .finite negative (significand - significand % Nat.pow 2 26) exponent
  | .infinite negative => .infinite negative

/-- The whole part of the size of a number. -/
def wholePart : Binary64 → Nat
  | .finite _ significand exponent =>
    let (numerator, denominator) := magnitude significand exponent
    numerator / denominator
  | .infinite _ => 0

/-- A finite number as a signed numerator and a positive denominator. -/
def fraction (negative : Bool) (significand : Nat) (exponent : Int) : Int × Nat :=
  let (numerator, denominator) := magnitude significand exponent
  (if negative then -Int.ofNat numerator else Int.ofNat numerator, denominator)

/-- Compares the values; zeros of both signs are equal. -/
def compare : Binary64 → Binary64 → Ordering
  | .infinite negativeX, .infinite negativeY =>
    if negativeX = negativeY then .eq else if negativeX then .lt else .gt
  | .infinite negativeX, .finite _ _ _ => if negativeX then .lt else .gt
  | .finite _ _ _, .infinite negativeY => if negativeY then .gt else .lt
  | .finite negativeX significandX exponentX, .finite negativeY significandY exponentY =>
    let (numeratorX, denominatorX) := fraction negativeX significandX exponentX
    let (numeratorY, denominatorY) := fraction negativeY significandY exponentY
    Ord.compare (numeratorX * denominatorY) (numeratorY * denominatorX)

/-- Compares a whole number with a number, both exactly. -/
def compareInt (value : Int) : Binary64 → Ordering
  | .infinite negative => if negative then .gt else .lt
  | .finite negative significand exponent =>
    let (numerator, denominator) := fraction negative significand exponent
    Ord.compare (value * denominator) numerator

/-- The whole number that a number is, if it is one. -/
def toInt? : Binary64 → Option Int
  | .infinite _ => none
  | .finite negative significand exponent =>
    let (numerator, denominator) := fraction negative significand exponent
    if numerator % denominator = 0 then some (numerator / denominator) else none

/-! ### The interchange form -/

/-- The 64 bits of the interchange form. -/
def toBits : Binary64 → Nat
  | .infinite negative => (if negative then Nat.pow 2 63 else 0) + 2047 * Nat.pow 2 52
  | .finite negative significand exponent =>
    (if negative then Nat.pow 2 63 else 0) +
      if significand < Nat.pow 2 52 then significand
      else (exponent + 1075).toNat * Nat.pow 2 52 + (significand - Nat.pow 2 52)

end Binary64

end ApplicationLedger
