/-
This file follows the clock through a run of transactions. Only the transactions and the waits
between them take time, so an attempt begins after those before it and the waits behind them. A wait
is begun only if it ends within the deadline; so under a deadline every attempt but the first begins
within it, and all waits together are no longer than that. Behind the last attempt there is no wait.
A run breaks off only if its deadline, its last attempt and the longest wait are together longer
than a length of time can be.
-/

import Mathlib.Algebra.BigOperators.Group.List.Basic
import Mathlib.Algebra.GroupWithZero.Nat
import ApplicationLedger.Proofs.Retry.Course
import ApplicationLedger.Proofs.Retry.Waits

namespace ApplicationLedger.RetryPolicy

variable {σ α : Type}

/-! ### The time of an attempt -/

section Clock

variable (transaction : σ → Attempt σ α) (state : σ)

/-- The nanoseconds that a transaction of a run takes; the first one has index 0. -/
def timeOf (index : Nat) : Nat :=
  (transaction ((fun state => (transaction state).state)^[index] state)).took.nanoseconds

/-- When an attempt of a run begins, if nothing takes time but the transactions before it and the
waits behind these. -/
def beginning (sleeps : List Nat) (index : Nat) : Nat :=
  ((List.range index).map (timeOf transaction state)).sum + (sleeps.take index).sum

end Clock

section Attempts

variable {p : RetryPolicy} {transaction : σ → Attempt σ α} {m : Moment σ}

theorem timeOf_eq (index : Nat) :
    (transaction ((p.next transaction)^[index] m).state).took.nanoseconds =
      timeOf transaction m.state index := by
  rw [state_iterate_next]
  rfl

/-- The clock of a run moves by transactions and waits. The induction is on the attempts before. -/
theorem elapsed_iterate_next (count : Nat) :
    ((p.next transaction)^[count] m).elapsed =
      m.elapsed + ((List.range count).map (timeOf transaction m.state)).sum +
        ((List.range count).map fun earlier =>
          p.waitBehind ((p.next transaction)^[earlier] m)).sum := by
  induction count with
  | zero => rfl
  | succ count inductionHypothesis =>
    have moved : ((p.next transaction)^[count + 1] m).elapsed =
        ((p.next transaction)^[count] m).elapsed +
          (timeOf transaction m.state count + p.waitBehind ((p.next transaction)^[count] m)) := by
      rw [Function.iterate_succ_apply', ← timeOf_eq, ← Nat.add_assoc]
      rfl
    rw [moved, inductionHypothesis, List.sum_range_succ, List.sum_range_succ,
      Nat.add_add_add_comm, Nat.add_assoc m.elapsed]

/-- A wait that is not late ends within the deadline. -/
theorem elapsed_next_le {limit : Duration} (bounded : p.deadline = some limit)
    (inTime : p.isLate transaction m = false) :
    (p.next transaction m).elapsed ≤ limit.nanoseconds := by
  rw [isLate, bounded] at inTime
  exact Nat.le_of_not_lt (of_decide_eq_false inTime)

theorem areWords_iterate_next (words : m.draws.AreWords) (count : Nat) :
    ((p.next transaction)^[count] m).draws.AreWords := by
  induction count with
  | zero => exact words
  | succ count inductionHypothesis =>
    rw [Function.iterate_succ_apply']
    exact areWords_backoff inductionHypothesis

/-- A wait behind an attempt is one that may follow it. -/
theorem waitBehind_mem_waits (words : m.draws.AreWords) : p.waitBehind m ∈ p.waits m.number :=
  ⟨m.draws, words, rfl⟩

/-! ### The times of a course -/

variable {left count : Nat} {run : Run σ α}

theorem IsCourse.length_sleeps (course : IsCourse p transaction left m run count) :
    run.sleeps.length = count := by
  rw [course.sleeps, List.length_map, List.length_range]

/-- The attempts of a course begin when they find the clock to stand so. -/
theorem IsCourse.elapsed_eq (course : IsCourse p transaction left m run count) {index : Nat}
    (within : index ≤ count) :
    ((p.next transaction)^[index] m).elapsed =
      m.elapsed + beginning transaction m.state run.sleeps index := by
  rw [elapsed_iterate_next, beginning, course.sleeps, ← List.map_take, List.take_range,
    Nat.min_eq_left within, Nat.add_assoc]

/-- Each attempt of a course behind its first one begins within the deadline. -/
theorem IsCourse.beginning_le {limit : Duration} (course : IsCourse p transaction left m run count)
    (bounded : p.deadline = some limit) {index : Nat} (within : index < count) :
    beginning transaction m.state run.sleeps (index + 1) ≤ limit.nanoseconds := by
  have inTime := elapsed_next_le bounded (course.conflicts index within).2
  rw [← Function.iterate_succ_apply' (p.next transaction), course.elapsed_eq within] at inTime
  exact (Nat.le_add_left _ _).trans inTime

/-- Each wait of a course is one that may follow its attempt. -/
theorem IsCourse.sleep_mem_waits (course : IsCourse p transaction left m run count)
    (words : m.draws.AreWords) {index : Nat} (within : index < run.sleeps.length) :
    run.sleeps[index] ∈ p.waits (m.number + index) := by
  rw [List.getElem_of_eq course.sleeps within, List.getElem_map, List.getElem_range,
    ← number_iterate_next]
  exact waitBehind_mem_waits (areWords_iterate_next words index)

/-- The last attempt of a course begins within the deadline. -/
theorem IsCourse.elapsed_le {limit : Duration} (course : IsCourse p transaction left m run count)
    (bounded : p.deadline = some limit) (inTime : m.elapsed ≤ limit.nanoseconds) :
    ((p.next transaction)^[count] m).elapsed ≤ limit.nanoseconds := by
  cases count with
  | zero => exact inTime
  | succ earlier =>
    rw [Function.iterate_succ_apply']
    exact elapsed_next_le bounded (course.conflicts earlier (Nat.lt_succ_self earlier)).2

end Attempts

/-- A run breaks off only if it has a deadline, and this, the last attempt and the longest wait are
together longer than a length of time can be. -/
theorem greatest_lt_of_overflowed {p : RetryPolicy} (transaction : σ → Attempt σ α) {draws : Draws}
    (words : draws.AreWords) (state : σ) {conflict : Fault}
    (brokenOff : (p.run transaction draws state).ending = .overflowed conflict) :
    ∃ limit, p.deadline = some limit ∧ ∃ last, Duration.greatest <
      limit.nanoseconds + timeOf transaction state last + p.maxDelay.nanoseconds := by
  obtain ⟨count, course⟩ := p.exists_isCourse_run transaction draws state
  have overflows := overflows_of_endingAt (course.ending.symm.trans brokenOff)
  obtain ⟨limited, beyond⟩ := Bool.and_eq_true_iff.mp overflows
  obtain ⟨limit, bounded⟩ := Option.isSome_iff_exists.mp limited
  refine ⟨limit, bounded, count, (of_decide_eq_true beyond).trans_le (Nat.add_le_add ?_ ?_)⟩
  · rw [endOf, timeOf_eq]
    exact Nat.add_le_add_right (course.elapsed_le bounded (Nat.zero_le _)) _
  · have left : ((p.next transaction)^[count] ⟨1, 0, draws, state⟩).draws.AreWords :=
      areWords_iterate_next words count
    have wait := waits_subset (waitBehind_mem_waits (p := p) left)
    exact wait.2.trans ((p.nanoseconds_ceiling _).trans_le (min_le_right _ _))

/-- Under a deadline, every attempt of a run but the first begins within it, and the waits together
are no longer than it. There is a wait behind every attempt but the last, none is shorter than half
of the longest wait behind its attempt or longer than that, and the run is over when its last
attempt is. -/
theorem run_keeps_deadline {p : RetryPolicy} {limit : Duration} (bounded : p.deadline = some limit)
    (transaction : σ → Attempt σ α) {draws : Draws} (words : draws.AreWords) (state : σ) :
    let run := p.run transaction draws state
    let begins := beginning transaction state run.sleeps
    (∀ index, 1 ≤ index → index < run.attempts → begins index ≤ limit.nanoseconds) ∧
    run.sleeps.sum ≤ limit.nanoseconds ∧
    run.attempts = run.sleeps.length + 1 ∧
    (∀ index (within : index < run.sleeps.length), run.sleeps[index] ∈
      Set.Icc ((p.ceiling (index + 1)).nanoseconds / 2) (p.ceiling (index + 1)).nanoseconds) ∧
    run.elapsed = begins run.sleeps.length + timeOf transaction state run.sleeps.length := by
  intro run begins
  obtain ⟨count, course⟩ := p.exists_isCourse_run transaction draws state
  have length : run.sleeps.length = count := course.length_sleeps
  have attempts : run.attempts = count + 1 := course.attempts.trans (Nat.add_comm 1 count)
  have inTime (index : Nat) (within : index < count) :
      begins (index + 1) ≤ limit.nanoseconds :=
    course.beginning_le bounded within
  refine ⟨fun index positive before => ?_, ?_, by rw [attempts, length], fun index within => ?_, ?_⟩
  · obtain ⟨earlier, rfl⟩ := Nat.exists_eq_add_of_le' positive
    exact inTime earlier (by omega)
  · cases count with
    | zero =>
      rw [List.eq_nil_of_length_eq_zero length]
      exact Nat.zero_le _
    | succ earlier =>
      -- The last attempt begins behind all waits.
      have last := inTime earlier (Nat.lt_succ_self earlier)
      have all : run.sleeps.take (earlier + 1) = run.sleeps := List.take_of_length_le length.le
      exact (all ▸ Nat.le_add_left _ _ : run.sleeps.sum ≤ begins (earlier + 1)).trans last
  · rw [Nat.add_comm index 1]
    exact waits_subset (course.sleep_mem_waits words within)
  · rw [length]
    have ended : run.elapsed = _ := course.elapsed
    rw [ended, endOf, timeOf_eq, course.elapsed_eq (Nat.le_refl count)]
    exact congrArg (· + _) (Nat.zero_add _)

/-- Transactions of two milliseconds that all end in conflicts, with thirty milliseconds in all: the
run gives up behind the third one, when the next wait would be too long. -/
theorem run_keeps_deadline_threeAttempts :
    let transaction := Scene.play [⟨2000000, some (.conflict "busy"), none, none⟩]
    let run := RetryPolicy.run ⟨8, 10000000, 1000000000, some 30000000⟩ transaction
      [9223372036854775808] ⟨0, 0, 0⟩
    run.sleeps = [8000000, 10000000] ∧ run.sleeps.sum ≤ 30000000 ∧ run.attempts = 3 ∧
      beginning transaction ⟨0, 0, 0⟩ run.sleeps 2 ≤ 30000000 ∧ run.elapsed = 24000000 := by
  intro transaction run
  have sleeps : run.sleeps = [8000000, 10000000] := by decide +kernel
  obtain ⟨begins, slept, attempts, _, ended⟩ :=
    run_keeps_deadline (p := ⟨8, 10000000, 1000000000, some 30000000⟩) rfl transaction
      (List.forall_mem_singleton.mpr (by decide) : Draws.AreWords [9223372036854775808]) ⟨0, 0, 0⟩
  have three : run.attempts = 3 := by rw [attempts, sleeps]; rfl
  refine ⟨sleeps, slept, three, begins 2 (by decide) (by rw [three]; decide), ?_⟩
  rw [ended, sleeps]
  decide +kernel

end ApplicationLedger.RetryPolicy
