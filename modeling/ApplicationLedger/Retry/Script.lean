/-
This file rehearses transactions: a script lays down what each of them meets, and a tally counts how
far they came.
-/

import ApplicationLedger.Retry.Run

namespace ApplicationLedger

/-- What one transaction meets: how long it takes, and where it fails, if anywhere. -/
structure Scene where
  took : Duration
  begin? : Option Fault
  work? : Option Fault
  commit? : Option Fault

/-- How far the transactions came. -/
structure Tally where
  /-- Transactions begun, with or without success. -/
  begun : Nat
  /-- Calls of the work. -/
  calls : Nat
  /-- Transactions committed. -/
  commits : Nat

namespace Scene

/-- A transaction without any trouble. -/
def smooth : Scene := ⟨0, none, none, none⟩

/-- The scene of a transaction by its number, from 1. The last scene of a script is used for all
that follow. -/
def ofScript (script : List Scene) (number : Nat) : Scene :=
  (script[number - 1]?).getD (script.getLast?.getD smooth)

/-- Plays the next transaction; the value is its number. -/
def play (script : List Scene) (tally : Tally) : Attempt Tally Nat :=
  let number := tally.begun + 1
  let scene := ofScript script number
  match scene.begin? with
  | some fault => ⟨⟨number, tally.calls, tally.commits⟩, .error fault, scene.took⟩
  | none =>
    match scene.work? with
    | some fault => ⟨⟨number, tally.calls + 1, tally.commits⟩, .error fault, scene.took⟩
    | none =>
      match scene.commit? with
      | some fault => ⟨⟨number, tally.calls + 1, tally.commits⟩, .error fault, scene.took⟩
      | none => ⟨⟨number, tally.calls + 1, tally.commits + 1⟩, .ok number, scene.took⟩

/-- A run over a script. -/
def run (policy : RetryPolicy) (script : List Scene) (draws : Draws) : Run Tally Nat :=
  policy.run (play script) draws ⟨0, 0, 0⟩

end Scene

end ApplicationLedger
