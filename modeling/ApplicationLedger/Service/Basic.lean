/-
This file holds the service: the records in a database, the files in a bucket, and what is done with
both of them together. Opening it makes what is missing on the disk.
-/

import ApplicationLedger.Bytes.Uuid
import ApplicationLedger.Blob.Bucket
import ApplicationLedger.Ingest.Plan
import ApplicationLedger.Settings.Basic
import ApplicationLedger.Store.RecordStore

namespace ApplicationLedger

/-- Random ids, of which some have been given out. -/
structure IdSource where
  id : Nat → Uuid
  given : Nat

/-- The next id, and the source behind it. -/
def IdSource.next (s : IdSource) : Uuid × IdSource :=
  (s.id s.given, { s with given := s.given + 1 })

/-- The service with all that it keeps. -/
structure Service where
  records : RecordStore
  bucket : Bucket
  files : FileTree
  ids : IdSource

namespace Service

/-! ### Opening -/

/-- What links are signed with: the secret of the settings, or the bytes of a random id. -/
def secret (settings : Settings) (ids : IdSource) : Bytes × IdSource :=
  match settings.signingSecret with
  | some secret => (.ofText secret, ids)
  | none =>
    let (id, ids) := ids.next
    (id.bytes, ids)

/-- Opens the stores that settings name: first the data directory, then the database, then the
bucket. -/
def open? (settings : Settings) (t : FileTree) (ids : IdSource) (draws : Draws) :
    Except Fault Service := do
  let t ←
    match t.createDirectories (Path.ofText settings.dataDirectory) with
    | .ok created => .ok created
    | .error fault => .error (.io fault.message)
  let t ← Database.open? t settings.databaseFile
  let (secret, ids) := secret settings ids
  let (t, bucket) ← Bucket.open? t settings.bucketRoot settings.bucket
    ⟨secret, settings.boundedLifetime⟩ settings.publicUrl
  .ok ⟨⟨.empty, settings.retry.policy, draws⟩, bucket, t, ids⟩

/-! ### Operations -/

/-- The stores as plans use them. -/
def stores : IngestPlan.Stores Service where
  put key content s :=
    let (files, result) := s.bucket.put key content s.files
    ({ s with files }, result)
  insert record s :=
    let (records, result) := s.records.insert record
    ({ s with records }, result)
  delete key s :=
    let (files, result) := s.bucket.delete key s.files
    ({ s with files }, result)

/-- Stores an application with its files, under a new id. -/
def upload (s : Service) (now : Instant) (fields : ApplicationFields)
    (files : List SubmittedFile) : Service × Except Fault IngestReceipt :=
  let (id, ids) := s.ids.next
  (IngestPlan.ingest id.text fields now files).run stores { s with ids }

/-- The records that a query asks for. -/
def query (s : Service) (q : Query) : Service × Except Fault (List ApplicationRecord) :=
  let (records, result) := s.records.query q
  ({ s with records }, result)

/-- Replaces the fields of a record, and gives them back. -/
def update (s : Service) (id : String) (fields : ApplicationFields) :
    Service × Except Fault ApplicationFields :=
  if id.isEmpty then (s, .error (.validation "application id is required"))
  else
    let (records, result) := s.records.update id fields
    ({ s with records }, result.map fun _ => fields)

/-- A link to a file of a record. Its key has to hold the id of the record. -/
def fileLink (s : Service) (now : Instant) (id fileName : String) : Except Fault FileLink :=
  if fileName.isEmpty then .error (.validation "file name is required")
  else if BlobKey.recordId? fileName = some id then
    s.bucket.link fileName (.ofKey fileName) now
  else .error (.validation "file id does not match the requested id")

end Service

end ApplicationLedger
