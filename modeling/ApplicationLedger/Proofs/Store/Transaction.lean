/-
This file says what one transaction does to a database that no one else uses: it ends as its work
does, and leaves the table behind that the work leaves behind, or the old one if the work fails. So
the first attempt is the last one. A statement in it fails only if the engine has a reason.
-/

import ApplicationLedger.Store.RecordStore

namespace ApplicationLedger

/-! ### Transactions -/

/-- What a transaction gives to its work if no one else uses the database. -/
def Connection.alone (engine : Engine) : Connection := ⟨engine, true, none⟩

/-- The database with some table that no one else uses. -/
def Database.alone (engine : Engine) (table : Table) : Database := ⟨engine, table, false, []⟩

/-- Alone, a statement may write. -/
theorem Database.writes_alone (engine : Engine) : writes (.alone engine) = true := rfl

/-- Alone, a transaction ends as its work does. -/
theorem Database.transact_alone {α : Type} (mode : TransactionMode) (work : Work α)
    (engine : Engine) (table : Table) :
    (alone engine table).transact mode work =
      match work (.alone engine) table with
      | .error fault => (alone engine table, .error fault)
      | .ok (value, after) => (alone engine after, .ok value) := by
  have undisturbed : (alone engine table).disturbed = alone engine table := rfl
  have nothing : (alone engine table).ahead.conflict = none := rfl
  have begins : (alone engine table).begin? mode none = .ok (.alone engine) := by
    cases mode <;> rfl
  have same : (alone engine table).table = table := rfl
  simp only [transact, undisturbed, nothing, begins, same]
  rcases work (.alone engine) table with fault | ⟨value, after⟩ <;> rfl

/-- A statement that fails does so in one of its phases: it meets others there, or the engine has a
reason. -/
theorem Database.exists_of_findSome?_failure? {connection : Connection} {statement : Statement}
    {table : Table} {fault : Fault}
    (failed : Phase.all.findSome? (failure? connection statement table) = some fault) :
    ∃ phase : Phase, (connection.conflict = some phase ∧ fault = locked phase.doing) ∨
      ∃ reason, connection.engine.reason? statement table phase = some reason ∧
        fault = .database (phase.doing ++ ": " ++ reason) := by
  obtain ⟨phase, _, decided⟩ := List.exists_of_findSome?_eq_some failed
  refine ⟨phase, ?_⟩
  unfold failure? at decided
  split at decided
  · rename_i met
    cases decided
    exact .inl ⟨met, rfl⟩
  · obtain ⟨reason, said, rfl⟩ := Option.map_eq_some_iff.mp decided
    exact .inr ⟨reason, said, rfl⟩

/-- Alone, a statement fails as the engine says, if at all. -/
theorem Database.failure?_alone (engine : Engine) (statement : Statement) (table : Table)
    (phase : Phase) :
    failure? (.alone engine) statement table phase =
      (engine.reason? statement table phase).map fun reason =>
        .database (phase.doing ++ ": " ++ reason) := rfl

/-- An attempt that ends otherwise than in a conflict ends the run. -/
theorem RetryPolicy.runFrom_eq {σ α : Type} (p : RetryPolicy) (transaction : σ → Attempt σ α)
    (left number elapsed : Nat) (draws : Draws) (state : σ)
    (lasting : ∀ fault, (transaction state).result = .error fault → fault.isTransient = false) :
    p.runFrom transaction left number elapsed draws state =
      ⟨(transaction state).state, .returned (transaction state).result, number, [],
        elapsed + (transaction state).took.nanoseconds, draws⟩ := by
  unfold runFrom
  cases result : (transaction state).result with
  | ok value => simp only [result]
  | error fault => simp only [result, lasting fault result, Bool.false_eq_true, if_false]

/-- If the first attempt ends so, it is the only one. -/
theorem RetryPolicy.run_eq {σ α : Type} (p : RetryPolicy) (transaction : σ → Attempt σ α)
    (draws : Draws) (state : σ)
    (lasting : ∀ fault, (transaction state).result = .error fault → fault.isTransient = false) :
    p.run transaction draws state =
      ⟨(transaction state).state, .returned (transaction state).result, 1, [],
        0 + (transaction state).took.nanoseconds, draws⟩ :=
  p.runFrom_eq transaction (p.maxAttempts - 1) 1 0 draws state lasting

namespace RecordStore

variable {α : Type} {engine : Engine} {table : Table} {policy : RetryPolicy} {draws : Draws}

/-- A transaction whose work is done leaves the table of the work behind. -/
theorem transact_ok (mode : TransactionMode) {work : Database.Work α} {value : α} {after : Table}
    (worked : work (.alone engine) table = .ok (value, after)) :
    (⟨.alone engine table, policy, draws⟩ : RecordStore).transact mode work =
      (⟨.alone engine after, policy, draws⟩, .ok value) := by
  have ended := Database.transact_alone mode work engine table
  simp only [worked] at ended
  rw [transact, attempt, RetryPolicy.run_eq]
  · simp only [ended, Run.result]
  · simp only [ended]
    exact nofun

/-- A transaction whose work fails leaves the store as it was. -/
theorem transact_error (mode : TransactionMode) {work : Database.Work α} {fault : Fault}
    (failed : work (.alone engine) table = .error fault) (lasting : fault.isTransient = false) :
    (⟨.alone engine table, policy, draws⟩ : RecordStore).transact mode work =
      (⟨.alone engine table, policy, draws⟩, .error fault) := by
  have ended := Database.transact_alone mode work engine table
  simp only [failed] at ended
  rw [transact, attempt, RetryPolicy.run_eq]
  · simp only [ended, Run.result]
  · simp only [ended]
    rintro _ ⟨⟩
    exact lasting

end RecordStore

end ApplicationLedger
