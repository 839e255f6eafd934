/-
This file says which waits may follow an attempt. Whatever words are drawn, a wait lies in the upper
half of the longest one. All whole milliseconds of that half can be drawn: a word stands for the
choice that its product with the number of choices leads to, and the least word for a choice is
never drawn again. Where the longest wait doubles from one attempt to the next, no wait behind the
second is shorter than one behind the first.
-/

import Mathlib.Order.Interval.Set.Basic
import Mathlib.Order.MinMax
import ApplicationLedger.Retry.Backoff

namespace ApplicationLedger

/-! ### Draws -/

namespace Draws

/-- Whether all draws are words of 64 bits. -/
def AreWords (draws : Draws) : Prop := ∀ word ∈ draws, word < wordCount

theorem wordCount_pos : 0 < wordCount := by decide

variable {choices : Nat}

/-- What is drawn is one of the choices. -/
theorem below_lt {draws : Draws} (positive : 0 < choices) (words : draws.AreWords) :
    (draws.below choices).1 < choices := by
  induction draws with
  | nil => exact positive
  | cons word rest inductionHypothesis =>
    obtain ⟨small, others⟩ := List.forall_mem_cons.mp words
    unfold below
    split
    · rename_i all
      rw [all]
      exact small
    · split
      · exact inductionHypothesis others
      · exact Nat.div_lt_of_lt_mul (Nat.mul_lt_mul_of_pos_right small positive)

/-- The draws that are left are the last ones. -/
theorem below_suffix (choices : Nat) (draws : Draws) : (draws.below choices).2 <:+ draws := by
  induction draws with
  | nil => exact List.suffix_refl _
  | cons word rest inductionHypothesis =>
    have last : rest <:+ word :: rest := List.suffix_cons word rest
    unfold below
    split
    · exact last
    · split
      · exact inductionHypothesis.trans last
      · exact last

/-- The product of some word with the number of choices is the first one that leads to a choice, or
less than that number above it. -/
theorem exists_mul_eq_add (choice : Nat) (positive : 0 < choices) :
    ∃ word excess, word * choices = choice * wordCount + excess ∧ excess < choices := by
  let total := choice * wordCount + (choices - 1)
  have parts : choices * (total / choices) + total % choices = total :=
    Nat.div_add_mod total choices
  have rest : total % choices < choices := Nat.mod_lt total positive
  refine ⟨total / choices, choices - 1 - total % choices, ?_, by omega⟩
  rw [Nat.mul_comm]
  omega

/-- Each choice is drawn by a word. -/
theorem exists_below_eq {choice : Nat} (less : choice < choices) (few : choices ≤ wordCount) :
    ∃ word < wordCount, below choices [word] = (choice, []) := by
  by_cases all : choices = wordCount
  · exact ⟨choice, all ▸ less, if_pos all⟩
  · have positive : 0 < choices := Nat.zero_lt_of_lt less
    obtain ⟨word, excess, product, little⟩ := exists_mul_eq_add choice positive
    have small : excess < wordCount := Nat.lt_of_lt_of_le little few
    have chosen : word * choices / wordCount = choice := by
      rw [product, Nat.add_comm, Nat.add_mul_div_right _ _ wordCount_pos, Nat.div_eq_of_lt small,
        Nat.zero_add]
    -- The excess is below the number of choices, so it is below the last whole round of it.
    have kept : isRejected choices word = false := by
      have round : choices ≤ choices * Nat.pow 2 (63 - choices.log2) :=
        Nat.le_mul_of_pos_right _ (Nat.pow_pos (by decide))
      rw [isRejected, product, Nat.mul_add_mod_of_lt small, decide_eq_false_iff_not, Nat.not_le]
      exact Nat.lt_of_lt_of_le little round
    have bound : word * choices < wordCount * choices := by
      calc word * choices = choice * wordCount + excess := product
        _ < (choice + 1) * wordCount := by rw [Nat.succ_mul]; omega
        _ ≤ choices * wordCount := Nat.mul_le_mul_right _ less
        _ = wordCount * choices := Nat.mul_comm _ _
    refine ⟨word, Nat.lt_of_mul_lt_mul_right bound, ?_⟩
    rw [below, if_neg all, kept, chosen]
    rfl

end Draws

/-! ### Lengths of time -/

namespace Duration

theorem nanoseconds_min (a b : Duration) :
    (min a b).nanoseconds = min a.nanoseconds b.nanoseconds := by
  show (if a.nanoseconds ≤ b.nanoseconds then a else b).nanoseconds = _
  split
  · rename_i less
    exact (Nat.min_eq_left less).symm
  · rename_i greater
    exact (Nat.min_eq_right (Nat.le_of_not_le greater)).symm

/-- A sum that can be counted is the sum of the numbers of nanoseconds. -/
theorem nanoseconds_add_ofMilliseconds {d : Duration} {count : Nat}
    (counted : d.nanoseconds + count * perMillisecond ≤ greatest) :
    (d + ofMilliseconds count).nanoseconds = d.nanoseconds + count * perMillisecond := by
  show min (d.nanoseconds + min (count * perMillisecond) greatest) greatest = _
  rw [Nat.min_eq_left ((Nat.le_add_left _ _).trans counted), Nat.min_eq_left counted]

end Duration

namespace RetryPolicy

variable (p : RetryPolicy)

/-! ### The longest wait -/

/-- The nanoseconds of the longest wait that are left to chance. -/
def spread (attempt : Nat) : Nat :=
  (p.ceiling attempt).nanoseconds - (p.ceiling attempt).nanoseconds / 2

/-- The whole milliseconds of that part, counted in a word. -/
def wholeMilliseconds (attempt : Nat) : Nat :=
  p.spread attempt / Duration.perMillisecond % Draws.wordCount

theorem half_add_spread (attempt : Nat) :
    (p.ceiling attempt).nanoseconds / 2 + p.spread attempt = (p.ceiling attempt).nanoseconds :=
  Nat.add_sub_of_le (Nat.div_le_self _ _)

theorem nanoseconds_ceiling (attempt : Nat) :
    (p.ceiling attempt).nanoseconds =
      min (min (p.baseDelay.nanoseconds * Nat.pow 2 (min (attempt - 1) 16)) Duration.greatest)
        p.maxDelay.nanoseconds :=
  Duration.nanoseconds_min _ _

/-- The longest wait never becomes shorter. -/
theorem ceiling_mono : Monotone fun attempt => (p.ceiling attempt).nanoseconds := by
  intro attempt later before
  have doublings : min (attempt - 1) 16 ≤ min (later - 1) 16 :=
    min_le_min_right 16 (Nat.sub_le_sub_right before 1)
  simp only [nanoseconds_ceiling]
  exact min_le_min_right _ (min_le_min_right _
    (Nat.mul_le_mul_left _ (Nat.pow_le_pow_right (by decide) doublings)))

/-- Half of the longest wait and all milliseconds that can be drawn are no longer than it. -/
theorem half_add_wholeMilliseconds_le (attempt : Nat) :
    (p.ceiling attempt).nanoseconds / 2 + p.wholeMilliseconds attempt * Duration.perMillisecond ≤
      (p.ceiling attempt).nanoseconds := by
  calc (p.ceiling attempt).nanoseconds / 2 + p.wholeMilliseconds attempt * Duration.perMillisecond
      ≤ (p.ceiling attempt).nanoseconds / 2 +
          p.spread attempt / Duration.perMillisecond * Duration.perMillisecond :=
        Nat.add_le_add_left (Nat.mul_le_mul_right _ (Nat.mod_le _ _)) _
    _ ≤ (p.ceiling attempt).nanoseconds / 2 + p.spread attempt :=
        Nat.add_le_add_left (Nat.div_mul_le_self _ _) _
    _ = (p.ceiling attempt).nanoseconds := p.half_add_spread attempt

/-! ### Waits -/

/-- The waits that may follow an attempt, in nanoseconds, whatever is drawn. A wait takes the first
word that is not drawn again, so finitely many words are enough to speak of all sources. -/
def waits (attempt : Nat) : Set Nat :=
  {wait | ∃ draws : Draws, draws.AreWords ∧ (p.backoff attempt draws).1.nanoseconds = wait}

variable {p} {attempt : Nat}

/-- Without a whole millisecond to draw, or if their number is lost, a wait is the longest one. -/
theorem backoff_of_eq_zero (none : p.wholeMilliseconds attempt = 0) (draws : Draws) :
    p.backoff attempt draws = (p.ceiling attempt, draws) :=
  if_pos none

theorem backoff_of_ne_zero (some : p.wholeMilliseconds attempt ≠ 0) (draws : Draws) :
    p.backoff attempt draws =
      ((p.ceiling attempt).half +
          .ofMilliseconds (draws.below (p.wholeMilliseconds attempt + 1)).1,
        (draws.below (p.wholeMilliseconds attempt + 1)).2) :=
  if_neg some

/-- What is drawn can be added to half of the longest wait. -/
theorem half_add_drawn_le {draws : Draws} (words : draws.AreWords) :
    (p.ceiling attempt).nanoseconds / 2 +
        (draws.below (p.wholeMilliseconds attempt + 1)).1 * Duration.perMillisecond ≤
      (p.ceiling attempt).nanoseconds := by
  have drawn : (draws.below (p.wholeMilliseconds attempt + 1)).1 ≤ p.wholeMilliseconds attempt :=
    Nat.le_of_lt_succ (Draws.below_lt (Nat.succ_pos _) words)
  exact (Nat.add_le_add_left (Nat.mul_le_mul_right _ drawn) _).trans
    (p.half_add_wholeMilliseconds_le attempt)

/-- A wait with something drawn is the sum of half of the longest one and what is drawn. -/
theorem nanoseconds_backoff (some : p.wholeMilliseconds attempt ≠ 0) {draws : Draws}
    (words : draws.AreWords) :
    (p.backoff attempt draws).1.nanoseconds = (p.ceiling attempt).nanoseconds / 2 +
      (draws.below (p.wholeMilliseconds attempt + 1)).1 * Duration.perMillisecond := by
  rw [backoff_of_ne_zero some]
  exact Duration.nanoseconds_add_ofMilliseconds
    ((half_add_drawn_le words).trans (p.ceiling attempt).isBounded)

/-- The draws that are left are words. -/
theorem areWords_backoff {draws : Draws} (words : draws.AreWords) :
    (p.backoff attempt draws).2.AreWords := by
  by_cases none : p.wholeMilliseconds attempt = 0
  · rw [backoff_of_eq_zero none]
    exact words
  · rw [backoff_of_ne_zero none]
    exact fun word left => words word ((Draws.below_suffix _ draws).subset left)

/-- A wait is at least half of the longest one, and at most the longest. -/
theorem waits_subset : p.waits attempt ⊆
    Set.Icc ((p.ceiling attempt).nanoseconds / 2) (p.ceiling attempt).nanoseconds := by
  rintro _ ⟨draws, words, rfl⟩
  by_cases none : p.wholeMilliseconds attempt = 0
  · rw [backoff_of_eq_zero none]
    exact ⟨Nat.div_le_self _ _, Nat.le_refl _⟩
  · rw [nanoseconds_backoff none words]
    exact ⟨Nat.le_add_right _ _, half_add_drawn_le words⟩

theorem waits_nonempty : (p.waits attempt).Nonempty := ⟨_, [], nofun, rfl⟩

/-- Less than a millisecond is not left to chance. -/
theorem waits_eq_singleton (short : p.spread attempt < Duration.perMillisecond) :
    p.waits attempt = {(p.ceiling attempt).nanoseconds} := by
  have none : p.wholeMilliseconds attempt = 0 := by
    rw [wholeMilliseconds, Nat.div_eq_of_lt short, Nat.zero_mod]
  refine waits_nonempty.subset_singleton_iff.mp ?_
  rintro _ ⟨draws, _, rfl⟩
  rw [backoff_of_eq_zero none]
  rfl

/-- Otherwise all whole milliseconds of the upper half can be drawn, and nothing else, as long as
their number is a word. -/
theorem waits_eq_image (long : Duration.perMillisecond ≤ p.spread attempt)
    (counted : p.spread attempt < Draws.wordCount * Duration.perMillisecond) :
    p.waits attempt =
      (fun count => (p.ceiling attempt).nanoseconds / 2 + count * Duration.perMillisecond) ''
        Set.Iic (p.spread attempt / Duration.perMillisecond) := by
  have few : p.spread attempt / Duration.perMillisecond < Draws.wordCount :=
    Nat.div_lt_of_lt_mul (counted.trans_eq (Nat.mul_comm _ _))
  have same : p.wholeMilliseconds attempt = _ := Nat.mod_eq_of_lt few
  have some : p.wholeMilliseconds attempt ≠ 0 := by
    rw [same]
    exact (Nat.div_pos long (by decide)).ne'
  have drawn {draws : Draws} (words : draws.AreWords) := nanoseconds_backoff some words
  rw [same] at drawn
  refine Set.Subset.antisymm ?_ ?_
  · rintro _ ⟨draws, words, rfl⟩
    exact ⟨_, Nat.le_of_lt_succ (Draws.below_lt (Nat.succ_pos _) words), (drawn words).symm⟩
  · rintro _ ⟨count, within, rfl⟩
    obtain ⟨word, small, chosen⟩ := Draws.exists_below_eq (Nat.lt_succ_of_le within) few
    have words : Draws.AreWords [word] := List.forall_mem_singleton.mpr small
    refine ⟨[word], words, ?_⟩
    rw [drawn words, chosen]

/-- If the longest wait doubles, each wait behind the next attempt is at least as long as each one
behind this attempt: half of the longest one there is the longest one here. -/
theorem le_of_mem_waits_succ
    (doubled : (p.ceiling (attempt + 1)).nanoseconds = 2 * (p.ceiling attempt).nanoseconds)
    {wait later : Nat} (here : wait ∈ p.waits attempt) (next : later ∈ p.waits (attempt + 1)) :
    wait ≤ later := by
  have half : (p.ceiling (attempt + 1)).nanoseconds / 2 = (p.ceiling attempt).nanoseconds := by
    rw [doubled, Nat.mul_div_cancel_left _ (by decide)]
  exact (waits_subset here).2.trans (half.symm.le.trans (waits_subset next).1)

/-- The longest wait behind an attempt doubles up to sixteen times, within the policy and the
greatest length of time, and never becomes shorter. There is always a wait, and it is in the upper
half of the longest one; half of the longest wait and what is drawn can always be added. If that
half has whole milliseconds and a word can count them, exactly these can be waited; if it has none,
only the longest wait can. Where the longest wait doubles, no wait is shorter than one before it. -/
theorem waits_fill_upper_half (p : RetryPolicy) (attempt : Nat) :
    let longest := (p.ceiling attempt).nanoseconds
    let random := longest - longest / 2
    (∀ number, (p.ceiling number).nanoseconds =
      min (min (p.baseDelay.nanoseconds * Nat.pow 2 (min (number - 1) 16)) p.maxDelay.nanoseconds)
        Duration.greatest) ∧
    (Monotone fun number => (p.ceiling number).nanoseconds) ∧
    (p.waits attempt).Nonempty ∧ p.waits attempt ⊆ Set.Icc (longest / 2) longest ∧
    longest ≤ Duration.greatest ∧
    (∀ draws : Draws, draws.AreWords →
      let choices := random / Duration.perMillisecond % Nat.pow 2 64 + 1
      longest / 2 + (draws.below choices).1 * Duration.perMillisecond ≤ longest) ∧
    (Duration.perMillisecond ≤ random → random < Nat.pow 2 64 * Duration.perMillisecond →
      p.waits attempt = (fun count => longest / 2 + count * Duration.perMillisecond) ''
        Set.Iic (random / Duration.perMillisecond)) ∧
    (random < Duration.perMillisecond → p.waits attempt = {longest}) ∧
    ((p.ceiling (attempt + 1)).nanoseconds = 2 * longest →
      ∀ wait ∈ p.waits attempt, ∀ later ∈ p.waits (attempt + 1), wait ≤ later) := by
  refine ⟨fun number => ?_, p.ceiling_mono, waits_nonempty, waits_subset,
    (p.ceiling attempt).isBounded, fun draws words => half_add_drawn_le words, waits_eq_image,
    waits_eq_singleton, ?_⟩
  · rw [nanoseconds_ceiling, min_right_comm]
  · exact fun doubled wait here later next => le_of_mem_waits_succ doubled here next

/-- With the usual policy, the first wait has five whole milliseconds to draw, and no second wait is
shorter than a first one; a nanosecond is waited as it is. -/
theorem waits_fill_upper_half_standard :
    standard.waits 1 = (fun count => 5000000 + count * Duration.perMillisecond) '' Set.Iic 5 ∧
    (∀ wait ∈ standard.waits 1, ∀ later ∈ standard.waits 2, wait ≤ later) ∧
    (⟨8, 1, 1, none⟩ : RetryPolicy).waits 3 = {1} := by
  obtain ⟨_, _, _, _, _, _, image, _, ordered⟩ := waits_fill_upper_half standard 1
  obtain ⟨_, _, _, _, _, _, _, single, _⟩ := waits_fill_upper_half ⟨8, 1, 1, none⟩ 3
  exact ⟨image (by decide) (by decide), ordered (by decide), single (by decide)⟩

end RetryPolicy

end ApplicationLedger
