/-
This file tries transactions again while they end in conflicts, within the bounds of a policy. Time
passes while a transaction runs and while the next one is waited for. If the end of the next wait is
further away than a length of time can say, the run breaks off and gives nothing back.
-/

import ApplicationLedger.Fault
import ApplicationLedger.Retry.Backoff

namespace ApplicationLedger

/-- How a transaction wants to lock. -/
inductive TransactionMode where
  /-- Takes the right to write only when it writes. -/
  | read
  /-- Takes the right to write at once. -/
  | write
  deriving DecidableEq, Repr

/-- The name of a mode. -/
def TransactionMode.name : TransactionMode → String
  | read => "Read"
  | write => "Write"

/-- How one transaction ended. -/
structure Attempt (σ α : Type) where
  /-- The state it left behind. -/
  state : σ
  result : Except Fault α
  took : Duration

/-- How a run ends. -/
inductive Ending (α : Type) where
  /-- It gives a result back. -/
  | returned (result : Except Fault α)
  /-- It breaks off behind a conflict: the time up to the end of the next wait cannot be counted. -/
  | overflowed (conflict : Fault)

/-- How a run of transactions ended. -/
structure Run (σ α : Type) where
  state : σ
  ending : Ending α
  /-- The number of transactions. -/
  attempts : Nat
  /-- The nanoseconds of the waits between them. -/
  sleeps : List Nat
  /-- The nanoseconds from the first transaction to the end. -/
  elapsed : Nat
  /-- The draws that are left. -/
  draws : Draws

/-- What a run gives back. A run that breaks off takes its caller with it, and no one sees what
stands for its result here. -/
def Run.result {σ α : Type} (run : Run σ α) : Except Fault α :=
  match run.ending with
  | .returned result => result
  | .overflowed conflict => .error (.exhausted run.attempts conflict)

namespace RetryPolicy

/-- Whether a wait from a point of time on would pass the deadline. There is no answer if the end of
the wait cannot be counted. -/
def passesDeadline? (p : RetryPolicy) (elapsed : Nat) (delay : Duration) : Option Bool :=
  match p.deadline with
  | none => some false
  | some deadline =>
    (Duration.ofNanoseconds? (elapsed + delay.nanoseconds)).map fun ended =>
      deadline.nanoseconds < ended.nanoseconds

/-- The transactions from one on. The second argument says how many may follow it, the third is its
number. -/
def runFrom {σ α : Type} (p : RetryPolicy) (transaction : σ → Attempt σ α) :
    Nat → Nat → Nat → Draws → σ → Run σ α
  | left, number, elapsed, draws, state =>
    let attempt := transaction state
    let elapsed := elapsed + attempt.took.nanoseconds
    let endsWith (ending : Ending α) (draws : Draws) : Run σ α :=
      ⟨attempt.state, ending, number, [], elapsed, draws⟩
    match attempt.result with
    | .ok value => endsWith (.returned (.ok value)) draws
    | .error fault =>
      if fault.isTransient then
        match left with
        | 0 => endsWith (.returned (.error (.exhausted number fault))) draws
        | left + 1 =>
          let (delay, draws) := p.backoff number draws
          match p.passesDeadline? elapsed delay with
          | none => endsWith (.overflowed fault) draws
          | some true => endsWith (.returned (.error (.exhausted number fault))) draws
          | some false =>
            let rest := runFrom p transaction left (number + 1) (elapsed + delay.nanoseconds) draws
              attempt.state
            { rest with sleeps := delay.nanoseconds :: rest.sleeps }
      else endsWith (.returned (.error fault)) draws

/-- Runs a transaction until it ends otherwise than in a conflict, or the policy is used up. -/
def run {σ α : Type} (p : RetryPolicy) (transaction : σ → Attempt σ α) (draws : Draws)
    (state : σ) : Run σ α :=
  p.runFrom transaction (p.maxAttempts - 1) 1 0 draws state

end RetryPolicy

end ApplicationLedger
