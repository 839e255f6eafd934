/-
This file runs transactions on the table of applications. A transaction that fails leaves the table
as it was. Only one client may write at a time; a transaction that cannot get the right to write
ends in a conflict. What other clients do between transactions, where it makes a transaction fail
and how long that takes is part of the state, and so is the engine that runs the statements.
-/

import ApplicationLedger.FileTree
import ApplicationLedger.Retry.Run
import ApplicationLedger.Store.Engine
import ApplicationLedger.Text.Split

namespace ApplicationLedger

/-! ### The database and its other clients -/

/-- A point of a transaction at which it can meet a conflict. -/
inductive Stage where
  | connect
  | start
  /-- Inside the work: its first statement meets the conflict, in a phase if it reads. -/
  | work (phase : Phase)
  | commit
  deriving DecidableEq, Repr

/-- The phase of the work at a stage, if the stage is inside the work. -/
def Stage.phase? : Stage → Option Phase
  | work phase => some phase
  | _ => none

/-- What other clients do around one transaction. -/
structure Disturbance where
  /-- What they committed before it. -/
  commits : Table → Table
  /-- Where they are in its way. -/
  conflict : Option Stage
  /-- How long the transaction takes. -/
  took : Duration

/-- Nothing happens, and the transaction takes no time. -/
def Disturbance.none : Disturbance := ⟨id, .none, 0⟩

/-- The database as its clients find it. -/
structure Database where
  engine : Engine
  table : Table
  /-- Whether another client holds the right to write. -/
  isLocked : Bool
  /-- What happens around the next transactions; nothing behind the end. -/
  disturbances : List Disturbance

/-- What a transaction gives to its work. -/
structure Connection where
  engine : Engine
  /-- Whether the work may write. -/
  mayWrite : Bool
  /-- The phase in which a statement meets other clients, if it does. -/
  conflict : Option Phase

namespace Database

/-- A database without rows that no one else uses. -/
def empty : Database := ⟨.bundled, .empty, false, []⟩

/-- The conflict of a client that is not alone. -/
def locked (doing : String) : Fault := .conflict (doing ++ ": database is locked")

/-- What is done in a transaction. -/
abbrev Work (α : Type) := Connection → Table → Except Fault (α × Table)

/-- What happens around the next transaction. -/
def ahead (d : Database) : Disturbance := d.disturbances.headD .none

/-- The database behind what others do around the next transaction. -/
def disturbed (d : Database) : Database :=
  { d with table := d.ahead.commits d.table, disturbances := d.disturbances.tail }

/-- What a transaction gives to its work once it has begun, or the conflict that it begins with. -/
def begin? (d : Database) (mode : TransactionMode) (conflict : Option Stage) :
    Except Fault Connection :=
  if conflict = some .connect then .error (locked "Failed to open database")
  else if conflict = some .start ∨ (mode = .write ∧ d.isLocked) then
    .error (locked "Failed to start transaction")
  else .ok ⟨d.engine, !d.isLocked, conflict.bind Stage.phase?⟩

/-- Runs one transaction. Its changes stay only if it is committed. -/
def transact {α : Type} (mode : TransactionMode) (work : Work α) (d : Database) :
    Database × Except Fault α :=
  let found := d.disturbed
  match found.begin? mode d.ahead.conflict with
  | .error fault => (found, .error fault)
  | .ok connection =>
    match work connection found.table with
    | .error fault => (found, .error fault)
    | .ok (value, table) =>
      if d.ahead.conflict = some .commit then
        (found, .error (locked "Failed to commit transaction"))
      else ({ found with table }, .ok value)

/-! ### Statements -/

/-- Whether a statement that writes gets the right to do so. -/
def writes (c : Connection) : Bool := c.mayWrite && c.conflict.isNone

/-- Why a statement that reads fails in a phase, if it does. -/
def failure? (c : Connection) (s : Statement) (table : Table) (phase : Phase) : Option Fault :=
  if c.conflict = some phase then some (locked phase.doing)
  else (c.engine.reason? s table phase).map fun reason =>
    .database (phase.doing ++ ": " ++ reason)

/-- Adds a record. -/
def insert (r : ApplicationRecord) : Work Unit := fun connection table =>
  if writes connection then
    match table.insert (.ofRecord r) with
    | .ok table => .ok ((), table)
    | .error fault => .error (.database ("Failed to insert application: " ++ fault.reason))
  else .error (locked "Failed to insert application")

/-- Changes the fields of a record; the value is the number of rows changed. -/
def update (id : String) (fields : ApplicationFields) : Work Nat := fun connection table =>
  if writes connection then
    let (table, count) := table.update id fields
    .ok (count, table)
  else .error (locked "Failed to update application")

/-- Reads the records that a query asks for. The first phase that fails decides. -/
def select (q : Query) : Work (List ApplicationRecord) := fun connection table =>
  match q.compile with
  | .error fault => .error fault.fault
  | .ok statement =>
    match Phase.all.findSome? (failure? connection statement table) with
    | some fault => .error fault
    | none =>
      match table.records statement with
      | .ok records => .ok (records, table)
      | .error fault => .error (.database ("Failed to read row: " ++ fault.reason))

/-! ### Several statements -/

/-- One statement of a transaction. -/
inductive Step where
  | insert (record : ApplicationRecord)
  | update (id : String) (fields : ApplicationFields)
  | select (query : Query)
  | fail (fault : Fault)

/-- What a statement answers. -/
inductive StepResult where
  | inserted
  | updated (count : Nat)
  | selected (records : List ApplicationRecord)

/-- Runs one statement. -/
def Step.run : Step → Work StepResult
  | .insert record => fun connection table => do
    let ((), table) ← Database.insert record connection table
    .ok (.inserted, table)
  | .update id fields => fun connection table => do
    let (count, table) ← Database.update id fields connection table
    .ok (.updated count, table)
  | .select query => fun connection table => do
    let (records, table) ← Database.select query connection table
    .ok (.selected records, table)
  | .fail fault => fun _ _ => .error fault

/-- Runs statements up to the first that fails: what those before it answered, and the table behind
them or the fault. -/
def runSteps (connection : Connection) : List Step → Table →
    List StepResult × Except Fault Table
  | [], table => ([], .ok table)
  | step :: rest, table =>
    match step.run connection table with
    | .error fault => ([], .error fault)
    | .ok (result, table) =>
      let (results, ending) := runSteps connection rest table
      (result :: results, ending)

/-- Runs statements in one transaction, with what they answered. -/
def transactSteps (mode : TransactionMode) (steps : List Step) (d : Database) :
    Database × List StepResult × Except Fault Unit :=
  let found := d.disturbed
  let results := match found.begin? mode d.ahead.conflict with
    | .error _ => []
    | .ok connection => (runSteps connection steps found.table).1
  let (after, ending) := d.transact mode fun connection table =>
    (runSteps connection steps table).2.map fun table => ((), table)
  (after, results, ending)

/-! ### Opening -/

/-- Whether a file can be a database: it is new, or no one but a database wrote it. -/
def isDatabaseFile (content : Bytes) : Bool := content.isEmpty

/-- The part of a written path before its last name. -/
def parentText (path : String) : String :=
  match Text.splitLast? (· == '/') path.toList with
  | some (before, _) => String.ofList before
  | none => ""

/-- The directory of a written path, made if it is missing. -/
def makeParent (t : FileTree) (path : String) : Except Fault FileTree :=
  let parent := Path.ofText (parentText path)
  if parent.isEmpty || t.isPresent parent then .ok t
  else
    match t.createDirectories parent with
    | .ok created => .ok created
    | .error fault => .error (.io fault.message)

/-- Opens the file at a path as a database, and makes it if it is missing. -/
def openFile (t : FileTree) (path : String) : Except Fault FileTree :=
  let unable : Fault :=
    .database ("Failed to open database: unable to open database file: " ++ path)
  match t.locate (Path.ofText path) with
  | .error _ => .error unable
  | .ok place =>
    match t.node? place with
    | some .directory => .error unable
    | some (.file content) =>
      if isDatabaseFile content then .ok t
      else .error (.database "Failed to set journal_mode: file is not a database")
    | none => .ok (t.insert place (.file []))

/-- Opens the database at a path, and makes its file and the directory of that if they are missing.
The empty path means a database that no file holds. -/
def open? (t : FileTree) (path : String) : Except Fault FileTree :=
  if path.isEmpty then .ok t
  else do openFile (← makeParent t path) path

end Database

end ApplicationLedger
