/-
This file tries plans out over stores that fail on purpose: an object store that is a map from keys
to bytes, and a list of records. A log tells which steps were taken, the failing ones included.
-/

import ApplicationLedger.Blob.Bucket
import ApplicationLedger.Ingest.Plan

namespace ApplicationLedger

/-- Which steps fail; steps of each kind are counted from zero. -/
structure Trouble where
  /-- The step that stores no file. -/
  put? : Option Nat
  /-- The steps that remove no file. -/
  deletes : List Nat
  /-- Why records are not stored. -/
  insert? : Option Fault
  /-- The only step that stores no record; without it, none does. -/
  insertOnly? : Option Nat
  /-- Which files of a record disappear just before it is to be stored. -/
  swept : List Nat

/-- The objects by their keys, the newest first. -/
abbrev Objects := List (String × Bytes)

/-- The objects without the one under a key. -/
def Objects.without (objects : Objects) (key : String) : Objects :=
  objects.filter (·.1 != key)

/-- What two stores hold and what was done with them. -/
structure Trial where
  objects : Objects
  records : List ApplicationRecord
  /-- The steps, the last one first. -/
  log : List String
  puts : Nat
  inserts : Nat
  deletes : Nat

namespace Trial

/-- Stores that hold nothing yet. -/
def start : Trial := ⟨[], [], [], 0, 0, 0⟩

/-- Stores an object. -/
def put (trouble : Trouble) (key : String) (content : Bytes) (t : Trial) :
    Trial × Except Fault Unit :=
  let counted := { t with puts := t.puts + 1, log := ("put " ++ key) :: t.log }
  if trouble.put? = some t.puts then (counted, .error (.blob "bucket unavailable"))
  else ({ counted with objects := (key, content) :: t.objects.without key }, .ok ())

/-- Removes an object. -/
def delete (trouble : Trouble) (key : String) (t : Trial) : Trial × Except Fault Unit :=
  let counted := { t with deletes := t.deletes + 1, log := ("delete " ++ key) :: t.log }
  if trouble.deletes.contains t.deletes then (counted, .error (.blob "access denied"))
  else if (t.objects.lookup key).isSome then
    ({ counted with objects := t.objects.without key }, .ok ())
  else (counted, .error (.notFound ("file " ++ key)))

/-- The objects that are left of those of a record. -/
def sweep (trouble : Trouble) (record : ApplicationRecord) (objects : Objects) : Objects :=
  (trouble.swept.filterMap fun index => record.files[index]?).foldl Objects.without objects

/-- The fault of the next step that is to store a record, if it fails. -/
def insertFault? (trouble : Trouble) (t : Trial) : Option Fault :=
  match trouble.insertOnly? with
  | some number => if number = t.inserts then trouble.insert? else none
  | none => trouble.insert?

/-- Stores a record. -/
def insert (trouble : Trouble) (record : ApplicationRecord) (t : Trial) :
    Trial × Except Fault Unit :=
  let counted := { t with inserts := t.inserts + 1, objects := sweep trouble record t.objects }
  match insertFault? trouble t with
  | some fault => (counted, .error fault)
  | none => ({ counted with records := t.records ++ [record] }, .ok ())

/-- The stores of a trial. -/
def stores (trouble : Trouble) : IngestPlan.Stores Trial :=
  ⟨put trouble, insert trouble, delete trouble⟩

/-- Stores that keep objects in a bucket, and records as a trial does. -/
def bucketStores (bucket : Bucket) (trouble : Trouble) : IngestPlan.Stores (FileTree × Trial) where
  put key content state :=
    let (tree, result) := bucket.put key content state.1
    ((tree, state.2), result)
  insert record state :=
    let (trial, result) := insert trouble record state.2
    ((state.1, trial), result)
  delete key state :=
    let (tree, result) := bucket.delete key state.1
    ((tree, state.2), result)

end Trial

end ApplicationLedger
