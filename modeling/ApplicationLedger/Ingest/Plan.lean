/-
This file says what is done to store an application with its files: the files are stored one after
the other, then the record. If a file cannot be stored, the files before it stay and are named; if
the record cannot be stored, all files are removed again, and those that cannot be are named. What
is done next depends on how the last step went, so the whole is a plan that branches at every step.
-/

import ApplicationLedger.Blob.Key
import ApplicationLedger.Record
import ApplicationLedger.Bytes.Utf8

namespace ApplicationLedger

/-- A file sent with an application. -/
structure SubmittedFile where
  /-- The client's name for it. -/
  name : String
  content : Bytes
  deriving DecidableEq, Repr

/-- What a stored application is answered with. -/
structure IngestReceipt where
  application : ApplicationRecord
  fileCount : Nat
  deriving DecidableEq, Repr

/-- How far an application has come. -/
inductive IngestStage where
  | uploading
  | persisting
  | committed
  | uploadFailed
  | persistFailedCompensated
  | persistFailedUncompensated
  deriving DecidableEq, Repr

namespace IngestStage

/-- The name of a stage. -/
def name : IngestStage → String
  | uploading => "uploading"
  | persisting => "persisting"
  | committed => "committed"
  | uploadFailed => "upload_failed"
  | persistFailedCompensated => "persist_failed_compensated"
  | persistFailedUncompensated => "persist_failed_uncompensated"

/-- All stages. -/
def all : List IngestStage :=
  [uploading, persisting, committed, uploadFailed, persistFailedCompensated,
    persistFailedUncompensated]

end IngestStage

/-- The next step, and what follows it. -/
inductive IngestPlan where
  | done (result : Except Fault IngestReceipt)
  | put (key : String) (content : Bytes) (next : Except Fault Unit → IngestPlan)
  | insert (record : ApplicationRecord) (next : Except Fault Unit → IngestPlan)
  | delete (key : String) (next : Except Fault Unit → IngestPlan)

namespace IngestPlan

/-! ### The plan -/

/-- Whether a file is there no more, after it was to be removed. -/
def isGone : Except Fault Unit → Bool
  | .ok () => true
  | .error (.notFound _) => true
  | .error _ => false

/-- The fault when the record could not be stored: that alone if all files are gone, else with the
keys of those that are left. -/
def failure (cause : Fault) (removed : Nat) (left : List String) : Fault :=
  if left.isEmpty then .persistFailed removed cause else .orphaned left cause

/-- Removes files, and goes on when one cannot be removed. -/
def compensate (cause : Fault) (count : Nat) (left : List String) : List String → IngestPlan
  | [] => .done (.error (failure cause count left))
  | key :: rest =>
    .delete key fun result =>
      compensate cause count (if isGone result then left else left ++ [key]) rest

/-- Stores the record of files that are stored. -/
def persist (record : ApplicationRecord) : IngestPlan :=
  .insert record fun
    | .ok () => .done (.ok ⟨record, record.files.length⟩)
    | .error cause => compensate cause record.files.length [] record.files

/-- Stores files, of which some are stored already, and then the record. -/
def upload (id : String) (fields : ApplicationFields) (time : Instant) (uploaded : List String) :
    List SubmittedFile → IngestPlan
  | [] => persist ⟨id, fields, uploaded⟩
  | file :: rest =>
    let key := BlobKey.make file.name id time uploaded
    .put key file.content fun
      | .ok () => upload id fields time (uploaded ++ [key]) rest
      | .error fault => .done (.error (.uploadFailed file.name uploaded fault.message))

/-- The plan for an application with its files. -/
def ingest (id : String) (fields : ApplicationFields) (time : Instant)
    (files : List SubmittedFile) : IngestPlan :=
  upload id fields time [] files

/-! ### Carrying it out -/

/-- The steps over some state. -/
structure Stores (σ : Type) where
  put : String → Bytes → σ → σ × Except Fault Unit
  insert : ApplicationRecord → σ → σ × Except Fault Unit
  delete : String → σ → σ × Except Fault Unit

/-- Carries out a plan. -/
def run {σ : Type} (stores : Stores σ) : IngestPlan → σ → σ × Except Fault IngestReceipt
  | .done result, state => (state, result)
  | .put key content next, state =>
    let (state, result) := stores.put key content state
    run stores (next result) state
  | .insert record next, state =>
    let (state, result) := stores.insert record state
    run stores (next result) state
  | .delete key next, state =>
    let (state, result) := stores.delete key state
    run stores (next result) state

end IngestPlan

end ApplicationLedger
