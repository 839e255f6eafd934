/-
This file says what an upload that ended well has stored, and where: its files in the bucket, under
keys that the bucket accepts, and its record in the store of records, which no other step changes.
-/

import ApplicationLedger.Proofs.Blob.RecordId
import ApplicationLedger.Proofs.Ingest.Run
import ApplicationLedger.Proofs.Store.Records
import ApplicationLedger.Service.Basic

namespace ApplicationLedger

/-- A file is stored only under a key that names one file in the bucket. -/
theorem Bucket.isValid_of_put {b : Bucket} {key : String} {content : Bytes} {t : FileTree}
    (stored : (b.put key content t).2 = .ok ()) : BlobKey.isValid key = true := by
  by_cases valid : BlobKey.isValid key = true
  · exact valid
  · rw [put, BlobKey.check, if_neg valid] at stored
    cases stored

namespace Service

/-! ### What an upload has stored -/

/-- Only the step that stores a record changes the records of the service. -/
theorem keepsRecords_stores : stores.KeepsRecords records fun record s => s.insert record :=
  ⟨fun _ _ _ => rfl, fun _ _ => rfl, fun _ _ => rfl⟩

/-- An upload stores the record of its receipt, or it fails and stores none. -/
theorem records_of_run (s : Service) (now : Instant) (fields : ApplicationFields)
    (files : List SubmittedFile) :
    (∀ receipt, (s.upload now fields files).2 = .ok receipt →
      s.records.insert receipt.application = ((s.upload now fields files).1.records, .ok ())) ∧
    (∀ fault, (s.upload now fields files).2 = .error fault →
      (s.upload now fields files).1.records = s.records ∨
        ∃ record cause, s.records.insert record =
          ((s.upload now fields files).1.records, .error cause)) :=
  IngestPlan.records_run_upload keepsRecords_stores s.ids.next.1.text fields now [] files
    { s with ids := s.ids.next.2 }

section Upload

variable {s after : Service} {now : Instant} {fields : ApplicationFields}
  {files : List SubmittedFile} {receipt : IngestReceipt}

/-- The files of a receipt were stored one by one, each under a key made for its name and the new
id. -/
theorem files_of_upload (committed : s.upload now fields files = (after, .ok receipt)) :
    receipt.application.id = s.ids.next.1.text ∧ receipt.application.fields = fields ∧
      List.Forall₂ (fun key file => BlobKey.isValid key = true ∧
        ∃ taken, key = BlobKey.make file.name s.ids.next.1.text now taken)
        receipt.application.files files := by
  obtain ⟨keys, application, stored⟩ := IngestPlan.files_of_run_upload
    (fun key => BlobKey.isValid key = true) (fun _ _ _ ended => Bucket.isValid_of_put ended)
    (congrArg Prod.snd committed)
  rw [application]
  exact ⟨rfl, rfl, stored⟩

variable {engine : Engine} {policy : RetryPolicy} {draws : Draws} {entries : List ApplicationRecord}

/-- The record of a receipt is stored behind the others. -/
theorem records_of_upload (holds : s.records = .ofRecords engine policy draws entries)
    (committed : s.upload now fields files = (after, .ok receipt)) :
    after.records = .ofRecords engine policy draws (entries ++ [receipt.application]) := by
  have stored := (records_of_run s now fields files).1 receipt
  rw [committed, holds] at stored
  exact RecordStore.eq_of_insert_ok (stored rfl)

/-- An upload that failed has stored no record. -/
theorem records_of_upload_error {fault : Fault}
    (holds : s.records = .ofRecords engine policy draws entries)
    (failed : s.upload now fields files = (after, .error fault)) :
    after.records = .ofRecords engine policy draws entries := by
  have kept := (records_of_run s now fields files).2 fault
  rw [failed, holds] at kept
  rcases kept rfl with same | ⟨record, cause, refused⟩
  · exact same
  · exact RecordStore.eq_of_insert_error refused

end Upload

/-! ### A service to try -/

/-- A service that has stored nothing yet, with a bucket at the root. -/
def unused : Service :=
  ⟨.fresh .bundled .standard [], ⟨"files", [], ⟨[], 60⟩, "http://localhost"⟩, .empty,
    ⟨Uuid.ofRandom, 1⟩⟩

end Service

end ApplicationLedger
