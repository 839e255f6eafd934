/-
This file scales floating point numbers by powers of ten with about twice their precision. A value
is the sum of a number and a much smaller one. For the product of two such sums the factors are
split, so that the products of their parts lose little or nothing. What is left at the end is a
whole number of 63 bits, whose digits are those of the number.
-/

import ApplicationLedger.Number.Binary64

namespace ApplicationLedger

/-- A value as the sum of a number and a much smaller one. -/
structure TwoPart where
  head : Binary64
  tail : Binary64
  deriving DecidableEq, Repr

namespace TwoPart

open Binary64 in
/-- The product of two values, without that of their tails. -/
def mul (x y : TwoPart) : TwoPart :=
  let leadingX := x.head.leading
  let restX := x.head.add leadingX.neg
  let leadingY := y.head.leading
  let restY := y.head.add leadingY.neg
  let high := leadingX.mul leadingY
  let middle := (leadingX.mul restY).add (restX.mul leadingY)
  let product := high.add middle
  let lost := ((high.add product.neg).add middle).add (restX.mul restY)
  let small := ((x.head.mul y.tail).add (x.tail.mul y.head)).add lost
  let head := product.add small
  ⟨head, (product.add head.neg).add small⟩

/-- The whole number that a positive value is cut to, each part by itself towards zero. -/
def cut (x : TwoPart) : Nat :=
  if x.tail.compare (.zero false) = .lt then x.head.wholePart - x.tail.wholePart
  else x.head.wholePart + x.tail.wholePart

/-! ### Scaling -/

/-- A step towards a whole number of 63 bits: as long as the head of a value is on some side of a
bound, the value is multiplied by a power of ten. -/
structure Scaling where
  side : Ordering
  bound : Binary64
  /-- The power of ten. -/
  power : Int
  factor : TwoPart

namespace Scaling

/-- The bound of steps, times a power of ten. -/
def boundAt (power : Int) : Binary64 := .ofDecimal false 9223372036854774784 power

/-- The steps for values above all whole numbers of 63 bits. The tails are what the heads are away
from powers of ten. -/
def down : List Scaling :=
  [⟨.gt, boundAt 100, -100, .ofDecimal false 1 (-100),
      .ofDecimal true 199918998026028836196 (-137)⟩,
    ⟨.gt, boundAt 10, -10, .ofDecimal false 1 (-10), .ofDecimal true 36432197315497741579 (-46)⟩,
    ⟨.gt, boundAt 0, -1, .ofDecimal false 1 (-1), .ofDecimal true 55511151231257827021 (-37)⟩]

/-- The steps for all other values. -/
def up : List Scaling :=
  [⟨.lt, boundAt (-101), 100, .ofDecimal false 1 100, .ofDecimal true 15902891109759918046 64⟩,
    ⟨.lt, boundAt (-11), 10, .ofDecimal false 1 10, .zero false⟩,
    ⟨.lt, .ofDecimal false 922337203685477478 0, 1, .ofDecimal false 1 1, .zero false⟩]

/-- Multiplies a value for some rounds at most. The exponent makes up for it. -/
def run (step : Scaling) : Nat → TwoPart × Int → TwoPart × Int
  | 0, scaled => scaled
  | rounds + 1, (value, exponent) =>
    if value.head.compare step.bound = step.side then
      step.run rounds (value.mul step.factor, exponent - step.power)
    else (value, exponent)

end Scaling

/-- A positive number as a whole number of 63 bits times a power of ten. No step takes more than ten
rounds. -/
def scaled (value : Binary64) : Nat × Int :=
  let steps := if value.compare (Scaling.boundAt 0) = .gt then Scaling.down else Scaling.up
  let (value, exponent) :=
    steps.foldl (fun scaled step => step.run 10 scaled) (⟨value, .zero false⟩, 0)
  (value.cut, exponent)

end TwoPart

end ApplicationLedger
