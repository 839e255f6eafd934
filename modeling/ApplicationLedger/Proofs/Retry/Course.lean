/-
This file says how a run of transactions ends. If every transaction ended in a conflict and nothing
bounded the run, its attempts would go on for ever, each one finding the state, the time and the
draws that the attempt before it and the wait behind that left. A run makes these attempts up to the
first one that ends otherwise, that is the last one allowed or whose wait would pass the deadline,
and this attempt alone decides how the run ends. It breaks off if the end of that wait is too far
away to be compared with the deadline. In a rehearsal the tally counts as many transactions as the
run has attempts, and the work is called once in each of them that begins.
-/

import Mathlib.Logic.Function.Iterate
import ApplicationLedger.Retry.Script

namespace ApplicationLedger

/-- What an attempt of a run finds. -/
structure Moment (σ : Type) where
  /-- The number of the attempt, from 1. -/
  number : Nat
  /-- The nanoseconds since the first attempt began. -/
  elapsed : Nat
  draws : Draws
  state : σ

namespace RetryPolicy

/-! ### Attempts -/

section Attempts

variable {σ α : Type} (p : RetryPolicy) (transaction : σ → Attempt σ α)

/-- The time at which an attempt has ended. -/
def endOf (m : Moment σ) : Nat := m.elapsed + (transaction m.state).took.nanoseconds

/-- The wait behind an attempt, if the run goes on. -/
def waitBehind (m : Moment σ) : Nat := (p.backoff m.number m.draws).1.nanoseconds

/-- Whether the wait behind an attempt would pass the deadline. -/
def isLate (m : Moment σ) : Bool :=
  p.deadline.any fun limit => limit.nanoseconds < endOf transaction m + p.waitBehind m

/-- Whether there is a deadline, and the time at which the wait behind an attempt would end is too
far away to be compared with it. -/
def overflows (m : Moment σ) : Bool :=
  p.deadline.isSome && Duration.greatest < endOf transaction m + p.waitBehind m

/-- What the attempt behind an attempt finds, after the wait between them. -/
def next (m : Moment σ) : Moment σ :=
  ⟨m.number + 1, endOf transaction m + p.waitBehind m, (p.backoff m.number m.draws).2,
    (transaction m.state).state⟩

/-- What the attempt with a number finds, if the run comes so far. -/
def moment (draws : Draws) (state : σ) (number : Nat) : Moment σ :=
  (p.next transaction)^[number - 1] ⟨1, 0, draws, state⟩

/-- Whether an attempt ends in a conflict. -/
def IsConflict (m : Moment σ) : Prop :=
  ∃ fault, (transaction m.state).result = .error fault ∧ fault.isTransient = true

/-- How a run ends that ends with an attempt, which some more may follow. -/
def endingAt (left : Nat) (m : Moment σ) : Ending α :=
  match (transaction m.state).result with
  | .ok value => .returned (.ok value)
  | .error fault =>
    if fault.isTransient then
      if 0 < left ∧ p.overflows transaction m then .overflowed fault
      else .returned (.error (.exhausted m.number fault))
    else .returned (.error fault)

variable {p transaction} {m : Moment σ}

/-- Only what is too far away makes a run break off. -/
theorem overflows_of_endingAt {left : Nat} {conflict : Fault}
    (brokenOff : p.endingAt transaction left m = .overflowed conflict) :
    p.overflows transaction m = true := by
  unfold endingAt at brokenOff
  split at brokenOff
  · cases brokenOff
  · split at brokenOff
    · split at brokenOff
      · rename_i beyond
        exact beyond.2
      · cases brokenOff
    · cases brokenOff

/-- What is too far away to be compared with a deadline is behind it. -/
theorem isLate_of_overflows (overflows : p.overflows transaction m = true) :
    p.isLate transaction m = true := by
  obtain ⟨limited, beyond⟩ := Bool.and_eq_true_iff.mp overflows
  obtain ⟨limit, bounded⟩ := Option.isSome_iff_exists.mp limited
  rw [isLate, bounded]
  exact decide_eq_true (Nat.lt_of_le_of_lt limit.isBounded (of_decide_eq_true beyond))

theorem passesDeadline?_eq (p : RetryPolicy) (transaction : σ → Attempt σ α) (m : Moment σ) :
    p.passesDeadline? (endOf transaction m) (p.backoff m.number m.draws).1 =
      if p.overflows transaction m then none else some (p.isLate transaction m) := by
  unfold passesDeadline? overflows isLate waitBehind
  cases p.deadline with
  | none => rfl
  | some limit =>
    dsimp only [Option.isSome_some, Option.any_some]
    unfold Duration.ofNanoseconds?
    by_cases counted :
        endOf transaction m + (p.backoff m.number m.draws).1.nanoseconds ≤ Duration.greatest
    · rw [dif_pos counted, decide_eq_false (Nat.not_lt.mpr counted)]
      rfl
    · rw [dif_neg counted, decide_eq_true (Nat.lt_of_not_le counted)]
      rfl

theorem number_iterate_next (count : Nat) :
    ((p.next transaction)^[count] m).number = m.number + count := by
  induction count generalizing m with
  | zero => rfl
  | succ count inductionHypothesis =>
    rw [Function.iterate_succ_apply, inductionHypothesis, next, Nat.add_right_comm, Nat.add_assoc]

theorem state_iterate_next (count : Nat) :
    ((p.next transaction)^[count] m).state =
      (fun state => (transaction state).state)^[count] m.state := by
  induction count generalizing m with
  | zero => rfl
  | succ count inductionHypothesis =>
    rw [Function.iterate_succ_apply, Function.iterate_succ_apply, inductionHypothesis]
    rfl

/-! ### Runs -/

/-- An attempt ends the run, and is no conflict unless it is the last one allowed or late; or it is
a conflict in time, and the run goes on with the next attempt. -/
theorem runFrom_cases (p : RetryPolicy) (transaction : σ → Attempt σ α) (left : Nat)
    (m : Moment σ) :
    (∃ draws, p.runFrom transaction left m.number m.elapsed m.draws m.state =
        ⟨(transaction m.state).state, p.endingAt transaction left m, m.number, [],
          endOf transaction m, draws⟩ ∧
      (IsConflict transaction m → left = 0 ∨ p.isLate transaction m = true)) ∨
    ∃ further, left = further + 1 ∧ IsConflict transaction m ∧ p.isLate transaction m = false ∧
      p.runFrom transaction left m.number m.elapsed m.draws m.state =
        let rest := p.runFrom transaction further (p.next transaction m).number
          (p.next transaction m).elapsed (p.next transaction m).draws (p.next transaction m).state
        { rest with sleeps := p.waitBehind m :: rest.sleeps } := by
  rw [runFrom.eq_def p transaction left, endingAt]
  cases ended : (transaction m.state).result with
  | ok value =>
    simp only [ended]
    refine .inl ⟨_, rfl, ?_⟩
    rintro ⟨fault, failed, -⟩
    cases ended.symm.trans failed
  | error fault =>
    cases transient : fault.isTransient with
    | false =>
      simp only [ended, transient, Bool.false_eq_true, if_false]
      refine .inl ⟨_, rfl, ?_⟩
      rintro ⟨other, failed, conflict⟩
      cases ended.symm.trans failed
      cases transient.symm.trans conflict
    | true =>
      simp only [ended, transient, if_true]
      cases left with
      | zero => exact .inl ⟨_, rfl, fun _ => .inl rfl⟩
      | succ further =>
        have passes := p.passesDeadline?_eq transaction m
        unfold endOf at passes
        dsimp only
        cases overflows : p.overflows transaction m with
        | true =>
          rw [passes, overflows]
          exact .inl ⟨_, rfl, fun _ => .inr (isLate_of_overflows overflows)⟩
        | false =>
          rw [passes, overflows]
          cases late : p.isLate transaction m with
          | true => exact .inl ⟨_, rfl, fun _ => .inr rfl⟩
          | false => exact .inr ⟨further, rfl, ⟨fault, ended, transient⟩, rfl, rfl⟩

/-- How a run goes on from an attempt that some more may follow: it makes some of them, all but the
last of which end in conflicts and in time. If the last one does so too, it is the last allowed. -/
structure IsCourse (p : RetryPolicy) (transaction : σ → Attempt σ α) (left : Nat) (m : Moment σ)
    (run : Run σ α) (count : Nat) : Prop where
  bound : count ≤ left
  attempts : run.attempts = m.number + count
  conflicts : ∀ earlier < count, IsConflict transaction ((p.next transaction)^[earlier] m) ∧
    p.isLate transaction ((p.next transaction)^[earlier] m) = false
  state : run.state = (fun state => (transaction state).state)^[count + 1] m.state
  ending : run.ending = p.endingAt transaction (left - count) ((p.next transaction)^[count] m)
  sleeps : run.sleeps =
    (List.range count).map fun earlier => p.waitBehind ((p.next transaction)^[earlier] m)
  elapsed : run.elapsed = endOf transaction ((p.next transaction)^[count] m)
  used : IsConflict transaction ((p.next transaction)^[count] m) →
    count = left ∨ p.isLate transaction ((p.next transaction)^[count] m) = true

/-- The induction is on the attempts that may still follow. -/
theorem exists_isCourse (p : RetryPolicy) (transaction : σ → Attempt σ α) (left : Nat)
    (m : Moment σ) :
    ∃ count, IsCourse p transaction left m
      (p.runFrom transaction left m.number m.elapsed m.draws m.state) count := by
  induction left generalizing m with
  | zero =>
    rcases p.runFrom_cases transaction 0 m with ⟨_, ended, _⟩ | ⟨_, more, _⟩
    · rw [ended]
      exact ⟨0, Nat.le_refl 0, rfl, nofun, rfl, rfl, rfl, rfl, fun _ => .inl rfl⟩
    · cases more
  | succ left inductionHypothesis =>
    rcases p.runFrom_cases transaction (left + 1) m with
      ⟨_, ended, used⟩ | ⟨_, ⟨⟩, conflict, inTime, goesOn⟩
    · rw [ended]
      exact ⟨0, Nat.zero_le _, rfl, nofun, rfl, rfl, rfl, rfl,
        fun conflict => (used conflict).imp nofun id⟩
    · obtain ⟨count, rest⟩ := inductionHypothesis (p.next transaction m)
      rw [goesOn]
      refine ⟨count + 1, Nat.succ_le_succ rest.bound, ?_, fun earlier before => ?_, rest.state,
        ?_, ?_, rest.elapsed, fun conflict => (rest.used conflict).imp (congrArg Nat.succ) id⟩
      · exact rest.attempts.trans (Nat.add_right_comm m.number 1 count)
      · cases earlier with
        | zero => exact ⟨conflict, inTime⟩
        | succ earlier => exact rest.conflicts earlier (Nat.lt_of_succ_lt_succ before)
      · rw [Nat.add_sub_add_right]
        exact rest.ending
      · rw [List.range_succ_eq_map, List.map_cons, List.map_map]
        exact congrArg (p.waitBehind m :: ·) rest.sleeps

end Attempts

end RetryPolicy

/-! ### Rehearsals -/

namespace Scene

variable (script : List Scene)

end Scene

namespace RetryPolicy

variable {σ α : Type}

/-- A run is a course of its first attempt. -/
theorem exists_isCourse_run (p : RetryPolicy) (transaction : σ → Attempt σ α) (draws : Draws)
    (state : σ) :
    ∃ count, IsCourse p transaction (p.maxAttempts - 1) ⟨1, 0, draws, state⟩
      (p.run transaction draws state) count :=
  p.exists_isCourse transaction (p.maxAttempts - 1) ⟨1, 0, draws, state⟩

end RetryPolicy

end ApplicationLedger
