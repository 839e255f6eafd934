/-
This file says how long to wait between attempts. The wait doubles from attempt to attempt up to a
limit; half of it is fixed and the other half is drawn at random, in whole milliseconds. Lengths of
time are counted in nanoseconds, up to a greatest one.
-/

namespace ApplicationLedger

/-! ### Durations -/

/-- The greatest number of nanoseconds in a length of time: seconds of 64 bits and a part of a
second. -/
def Duration.greatest : Nat := (Nat.pow 2 64 - 1) * 1000000000 + 999999999

/-- A length of time. -/
structure Duration where
  nanoseconds : Nat
  isBounded : nanoseconds ≤ Duration.greatest
  deriving DecidableEq, Repr

namespace Duration

/-- A number of nanoseconds, if a length of time can have as many. -/
def ofNanoseconds? (count : Nat) : Option Duration :=
  if isBounded : count ≤ greatest then some ⟨count, isBounded⟩ else none

/-- A number of nanoseconds, or the greatest one if there are more. -/
def ofNanoseconds (count : Nat) : Duration :=
  ⟨min count greatest, Nat.min_le_right count greatest⟩

instance (count : Nat) : OfNat Duration count := ⟨ofNanoseconds count⟩

instance : Coe Nat Duration := ⟨ofNanoseconds⟩

instance : ToString Duration := ⟨fun d => toString d.nanoseconds⟩

instance : LE Duration := ⟨fun a b => a.nanoseconds ≤ b.nanoseconds⟩

instance : DecidableLE Duration := fun a b => Nat.decLe a.nanoseconds b.nanoseconds

instance : Min Duration := minOfLe

/-- Both lengths one behind the other, at most the greatest one. -/
instance : Add Duration := ⟨fun a b => ofNanoseconds (a.nanoseconds + b.nanoseconds)⟩

/-- How many times a number of nanoseconds fits into a length of time. -/
instance : HDiv Duration Nat Nat := ⟨fun d count => d.nanoseconds / count⟩

/-- A length of time several times, at most the greatest one. -/
def times (d : Duration) (count : Nat) : Duration := ofNanoseconds (d.nanoseconds * count)

/-- Half of a length of time. -/
def half (d : Duration) : Duration :=
  ⟨d.nanoseconds / 2, Nat.le_trans (Nat.div_le_self _ _) d.isBounded⟩

/-- The nanoseconds of a millisecond. -/
def perMillisecond : Nat := 1000000

/-- A number of milliseconds, or the greatest length of time if there are more. -/
def ofMilliseconds (count : Nat) : Duration := ofNanoseconds (count * perMillisecond)

end Duration

/-! ### Random draws -/

/-- What is left of a source of random words of 64 bits; behind its end there are zeros. -/
abbrev Draws := List Nat

namespace Draws

/-- The number of different words. -/
def wordCount : Nat := Nat.pow 2 64

/-- Whether a word is drawn again: its product with the number of choices ends beyond the last whole
round of that number, shifted up to the top of a word. -/
def isRejected (choices word : Nat) : Bool :=
  word * choices % wordCount ≥ choices * Nat.pow 2 (63 - choices.log2)

/-- A number below the number of choices, each as likely as the others. -/
def below (choices : Nat) : Draws → Nat × Draws
  | [] => (0, [])
  | word :: rest =>
    if choices = wordCount then (word, rest)
    else if isRejected choices word then below choices rest
    else (word * choices / wordCount, rest)

end Draws

/-! ### The wait -/

/-- The bounds of trying again. -/
structure RetryPolicy where
  /-- Attempts in all; there is always one. -/
  maxAttempts : Nat
  /-- The wait before the second attempt. -/
  baseDelay : Duration
  /-- The longest wait. -/
  maxDelay : Duration
  /-- When to give up, counted from the first attempt. -/
  deadline : Option Duration
  deriving DecidableEq, Repr

namespace RetryPolicy

/-- Eight attempts with waits from ten milliseconds to a second, for ten seconds at most. -/
def standard : RetryPolicy :=
  ⟨8, .ofMilliseconds 10, .ofMilliseconds 1000, some (.ofMilliseconds 10000)⟩

/-- The longest wait after an attempt. It doubles sixteen times at most. -/
def ceiling (p : RetryPolicy) (attempt : Nat) : Duration :=
  min (p.baseDelay.times (Nat.pow 2 (min (attempt - 1) 16))) p.maxDelay

/-- The wait after an attempt, with what is left of the draws. A wait that leaves no whole
millisecond to chance is the longest one. -/
def backoff (p : RetryPolicy) (attempt : Nat) (draws : Draws) : Duration × Draws :=
  let longest := p.ceiling attempt
  let range := (longest.nanoseconds - longest.half.nanoseconds) / Duration.perMillisecond %
    Draws.wordCount
  if range = 0 then (longest, draws)
  else
    let (jitter, left) := draws.below (range + 1)
    (longest.half + .ofMilliseconds jitter, left)

end RetryPolicy

end ApplicationLedger
