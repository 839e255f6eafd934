/-
This file says who is given a link to a file. The service reads an id out of the key and compares it
with the one that is asked for, so a key that was stored leads to a link for one id alone. That is
the id of the record, unless the client's name for the file has an underscore in its extension: then
it is the text behind that underscore, and the record itself is refused.
-/

import ApplicationLedger.Proofs.Blob.Bucket
import ApplicationLedger.Proofs.Service.Upload

namespace ApplicationLedger

namespace Service

/-! ### Links -/

/-- There is a link to a valid key for the id in it and for no other. -/
theorem exists_fileLink_iff {key : String} (valid : BlobKey.isValid key = true) (s : Service)
    (now : Instant) (id : String) :
    (∃ link, s.fileLink now id key = .ok link) ↔ BlobKey.recordId? key = some id := by
  have nonempty : key.isEmpty = false :=
    String.isEmpty_eq_false_iff.mpr (BlobKey.isValid_spec valid).1
  rw [fileLink, nonempty, if_neg Bool.false_ne_true]
  by_cases same : BlobKey.recordId? key = some id
  · rw [if_pos same, Bucket.link, BlobKey.check, if_pos valid]
    exact iff_of_true ⟨_, rfl⟩ same
  · rw [if_neg same]
    refine iff_of_false ?_ same
    rintro ⟨_, ⟨⟩⟩

/-- A committed file whose extension has no underscore is linked for the id of its record and for no
other text. If the extension has one, the file is linked for what stands behind the last one and for
no other text. Neither depends on what the service has done since, or on the time. -/
theorem exists_fileLink_iff_of_upload {s after : Service} {now : Instant}
    {fields : ApplicationFields} {files : List SubmittedFile} {receipt : IngestReceipt}
    (committed : s.upload now fields files = (after, .ok receipt)) :
    List.Forall₂ (fun key (file : SubmittedFile) =>
        ('_' ∉ BlobKey.extensionOf file.name → ∀ (t : Service) (later : Instant) (id : String),
          (∃ link, t.fileLink later id key = .ok link) ↔ id = receipt.application.id) ∧
        ∀ before behind,
          Text.splitLast? (· == '_') (BlobKey.extensionOf file.name) = some (before, behind) →
          ∀ (t : Service) (later : Instant) (id : String),
            (∃ link, t.fileLink later id key = .ok link) ↔ id = String.ofList behind)
      receipt.application.files files := by
  obtain ⟨sameId, _, stored⟩ := files_of_upload committed
  refine stored.imp fun key file ⟨valid, taken, made⟩ => ⟨?_, ?_⟩
  · intro unmarked t later id
    rw [exists_fileLink_iff valid, made, sameId,
      BlobKey.recordId?_make_of_not_mem now taken unmarked (Uuid.dot_not_mem_text _)
        (Uuid.underscore_not_mem_text _), Option.some.injEq, eq_comm]
  · intro before behind split t later id
    rw [exists_fileLink_iff valid, made, BlobKey.recordId?_make_of_split now taken split,
      Option.some.injEq, eq_comm]

/-! ### A file that its record is refused -/

/-- The keys of two files of that application, without and with an underscore in the extension. -/
def plainKey : String := "cv-0000-010170_00000000-0000-4000-8000-000000000001.pdf"

@[inherit_doc plainKey]
def markedKey : String := "cv-0000-010170_00000000-0000-4000-8000-000000000001.p_df"

/-- The tree with the first of the files, and with both. -/
def onePlaced : FileTree := FileTree.empty.insert [plainKey] (.file [])

@[inherit_doc onePlaced]
def bothPlaced : FileTree := onePlaced.insert [markedKey] (.file [])

theorem put_plainKey : unused.bucket.put plainKey [] .empty = (onePlaced, .ok ()) :=
  Bucket.put_root rfl rfl (by decide) rfl nofun

theorem put_markedKey : unused.bucket.put markedKey [] onePlaced = (bothPlaced, .ok ()) :=
  Bucket.put_root rfl rfl (by decide) rfl (by decide)

/-- The record of the two files. -/
def firstRecord : ApplicationRecord :=
  ⟨(Uuid.ofRandom 1).text, .sample, [plainKey, markedKey]⟩

/-- The service at work on its first application, with some files. -/
def firstWith (files : FileTree) : Service := { unused with ids := ⟨Uuid.ofRandom, 2⟩, files }

theorem upload_unused :
    ∃ after, unused.upload ⟨0, 0⟩ .sample [⟨"cv.pdf", []⟩, ⟨"cv.p_df", []⟩] =
      (after, .ok ⟨firstRecord, 2⟩) := by
  have first : stores.put plainKey [] (firstWith .empty) = (firstWith onePlaced, .ok ()) :=
    congrArg (fun r => (firstWith r.1, r.2)) put_plainKey
  have second : stores.put markedKey [] (firstWith onePlaced) = (firstWith bothPlaced, .ok ()) :=
    congrArg (fun r => (firstWith r.1, r.2)) put_markedKey
  have third : (RecordStore.ofRecords .bundled .standard [] []).insert firstRecord =
      (.ofRecords .bundled .standard [] ([] ++ [firstRecord]), .ok ()) :=
    RecordStore.insert_ofRecords_of_new fun _ member => nomatch member
  have plain : BlobKey.make "cv.pdf" (Uuid.ofRandom 1).text ⟨0, 0⟩ [] = plainKey := rfl
  have marked : BlobKey.make "cv.p_df" (Uuid.ofRandom 1).text ⟨0, 0⟩ [plainKey] = markedKey := rfl
  refine ⟨{ firstWith bothPlaced with
    records := .ofRecords .bundled .standard [] [firstRecord] }, ?_⟩
  change (IngestPlan.upload (Uuid.ofRandom 1).text .sample ⟨0, 0⟩ []
    [⟨"cv.pdf", []⟩, ⟨"cv.p_df", []⟩]).run stores (firstWith .empty) = _
  rw [IngestPlan.run_upload_cons plain first, List.nil_append,
    IngestPlan.run_upload_cons marked second, List.singleton_append]
  refine IngestPlan.run_upload_nil (⟨0, 0⟩ : Instant) ?_
  exact congrArg (fun r => ({ firstWith bothPlaced with records := r.1 }, r.2)) third

/-- The first of the files is linked for its record alone, the second for the end of its extension
alone. -/
theorem exists_fileLink_iff_unused :
    ∃ after, unused.upload ⟨0, 0⟩ .sample [⟨"cv.pdf", []⟩, ⟨"cv.p_df", []⟩] =
        (after, .ok ⟨firstRecord, 2⟩) ∧
      (∀ id, (∃ link, after.fileLink ⟨60, 0⟩ id plainKey = .ok link) ↔ id = firstRecord.id) ∧
      ∀ id, (∃ link, after.fileLink ⟨60, 0⟩ id markedKey = .ok link) ↔ id = "df" := by
  obtain ⟨after, committed⟩ := upload_unused
  have linked := exists_fileLink_iff_of_upload committed
  rcases linked with _ | ⟨⟨plain, _⟩, _ | ⟨⟨_, marked⟩, _⟩⟩
  exact ⟨after, committed, plain (by decide) after ⟨60, 0⟩,
    marked ['.', 'p'] ['d', 'f'] rfl after ⟨60, 0⟩⟩

/-- So a committed file can be out of reach for its own record. -/
theorem not_forall_fileLink_iff_id :
    ¬ ∀ (s after : Service) (now : Instant) (fields : ApplicationFields)
        (files : List SubmittedFile) (receipt : IngestReceipt),
      s.upload now fields files = (after, .ok receipt) →
      ∀ key ∈ receipt.application.files, ∀ (later : Instant) (id : String),
        (∃ link, after.fileLink later id key = .ok link) ↔ id = receipt.application.id := by
  intro owned
  obtain ⟨after, committed⟩ := upload_unused
  have listed : markedKey ∈ firstRecord.files := List.mem_cons_of_mem _ List.mem_cons_self
  have linked := (owned _ after _ _ _ _ committed markedKey listed ⟨60, 0⟩ firstRecord.id).mpr rfl
  have read := (exists_fileLink_iff (by decide) after ⟨60, 0⟩ firstRecord.id).mp linked
  have other : BlobKey.recordId? markedKey = some "df" := rfl
  exact absurd (other.symm.trans read) (by decide)

end Service

end ApplicationLedger
