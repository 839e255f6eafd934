/-
This file holds the store of records: every operation is one transaction, tried again while it ends
in conflicts.
-/

import ApplicationLedger.Store.Database

namespace ApplicationLedger

/-- A database with the policy for conflicts and what the source of random waits will give. -/
structure RecordStore where
  database : Database
  policy : RetryPolicy
  draws : Draws

namespace RecordStore

/-- Runs some work in a transaction until it ends otherwise than in a conflict. -/
def attempt {α : Type} (s : RecordStore) (mode : TransactionMode) (work : Database.Work α) :
    Run Database α :=
  s.policy.run
    (fun database =>
      let (after, result) := database.transact mode work
      ⟨after, result, database.ahead.took⟩)
    s.draws s.database

/-- Runs some work and keeps what it left behind. -/
def transact {α : Type} (s : RecordStore) (mode : TransactionMode) (work : Database.Work α) :
    RecordStore × Except Fault α :=
  let run := s.attempt mode work
  ({ s with database := run.state, draws := run.draws }, run.result)

/-- Adds a record. -/
def insert (s : RecordStore) (r : ApplicationRecord) : RecordStore × Except Fault Unit :=
  s.transact .write (Database.insert r)

/-- The change of a record that has to exist. -/
def updateWork (id : String) (fields : ApplicationFields) : Database.Work Unit :=
  fun connection table => do
    let (count, table) ← Database.update id fields connection table
    if count = 0 then .error (.notFound ("application " ++ id)) else .ok ((), table)

/-- Replaces the fields of a record. -/
def update (s : RecordStore) (id : String) (fields : ApplicationFields) :
    RecordStore × Except Fault Unit :=
  s.transact .write (updateWork id fields)

/-- The records that a query asks for, in order. A query that is wrong is refused before a
transaction begins. -/
def query (s : RecordStore) (q : Query) : RecordStore × Except Fault (List ApplicationRecord) :=
  match q.compile with
  | .error fault => (s, .error fault.fault)
  | .ok _ => s.transact .read (Database.select q)

end RecordStore

end ApplicationLedger
