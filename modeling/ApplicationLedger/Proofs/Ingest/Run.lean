/-
This file says what has been done once a plan is carried out, whatever the stores are. A plan that
ended well has stored each file under a key made for it and then the record with these keys; a plan
that failed has tried to store a record at most once, and in vain.
-/

import Mathlib.Data.List.Forall2
import ApplicationLedger.Proofs.Ingest.Calls

namespace ApplicationLedger.IngestPlan

variable {σ : Type} {stores : Stores σ}

/-! ### Steps that go well -/

/-- A file that can be stored is stored, and the plan goes on with the others. -/
theorem run_upload_cons {id name key : String} {time : Instant} {uploaded : List String}
    {content : Bytes} {state after : σ} (made : BlobKey.make name id time uploaded = key)
    (stored : stores.put key content state = (after, .ok ())) (fields : ApplicationFields)
    (rest : List SubmittedFile) :
    (upload id fields time uploaded (⟨name, content⟩ :: rest)).run stores state =
      (upload id fields time (uploaded ++ [key]) rest).run stores after := by
  rw [upload, run, made, stored]

/-- A record that can be stored behind all files ends the plan. -/
theorem run_upload_nil {id : String} {fields : ApplicationFields} {uploaded : List String}
    {state after : σ} (time : Instant)
    (stored : stores.insert ⟨id, fields, uploaded⟩ state = (after, .ok ())) :
    (upload id fields time uploaded []).run stores state =
      (after, .ok ⟨⟨id, fields, uploaded⟩, uploaded.length⟩) := by
  rw [upload, persist, run, stored]
  rfl

/-! ### Files that are stored -/

/-- To remove files again is never to end well. -/
theorem run_compensate_ne_ok (cause : Fault) (count : Nat) (left keys : List String) (state : σ)
    (receipt : IngestReceipt) :
    ((compensate cause count left keys).run stores state).2 ≠ .ok receipt := by
  obtain ⟨outcomes, _, _, failed⟩ := trace_compensate stores cause count left keys state
  rw [failed]
  exact nofun

/-- A record that was stored is the one of the receipt. -/
theorem application_of_run_persist {record : ApplicationRecord} {state : σ}
    {receipt : IngestReceipt}
    (done : ((persist record).run stores state).2 = .ok receipt) :
    receipt.application = record := by
  rw [persist, run] at done
  split at done
  rename_i after result inserted
  cases result with
  | ok value =>
    cases done
    rfl
  | error fault => exact absurd done (run_compensate_ne_ok _ _ _ _ _ _)

/-- If a plan ends well, each file was stored, under a key made for its name and the id of the
record, and the record lists these keys in the order of the files. -/
theorem files_of_run_upload {id : String} {fields : ApplicationFields} {time : Instant}
    {uploaded : List String} {files : List SubmittedFile} {state : σ} {receipt : IngestReceipt}
    (accepts : String → Prop)
    (accepted : ∀ key content state, (stores.put key content state).2 = .ok () → accepts key)
    (done : ((upload id fields time uploaded files).run stores state).2 = .ok receipt) :
    ∃ keys, receipt.application = ⟨id, fields, uploaded ++ keys⟩ ∧
      List.Forall₂ (fun key file =>
        accepts key ∧ ∃ taken, key = BlobKey.make file.name id time taken) keys files := by
  induction files generalizing uploaded state with
  | nil =>
    refine ⟨[], ?_, .nil⟩
    rw [List.append_nil]
    exact application_of_run_persist done
  | cons file rest inductionHypothesis =>
    rw [upload, run] at done
    split at done
    rename_i after result put
    cases result with
    | error fault => cases done
    | ok value =>
      obtain ⟨keys, application, others⟩ := inductionHypothesis done
      refine ⟨_ :: keys, ?_, .cons ⟨?_, uploaded, rfl⟩ others⟩
      · rw [application, List.append_assoc, List.singleton_append]
      · exact accepted _ _ state (congrArg Prod.snd put)

/-- A receipt counts the files of its record. -/
theorem fileCount_of_run_upload {id : String} {fields : ApplicationFields} {time : Instant}
    {uploaded : List String} {files : List SubmittedFile} {state : σ} {receipt : IngestReceipt}
    (done : ((upload id fields time uploaded files).run stores state).2 = .ok receipt) :
    receipt.fileCount = receipt.application.files.length := by
  have ending := ending_upload stores id fields time uploaded files state
  rw [done] at ending
  exact ending.of_ok.2.1

/-! ### The record -/

/-- Whether the stores hold records in some part of their state, which the steps on files leave as
it is. -/
structure Stores.KeepsRecords {ρ : Type} (stores : Stores σ) (records : σ → ρ)
    (insert : ApplicationRecord → ρ → ρ × Except Fault Unit) : Prop where
  put : ∀ key content state, records (stores.put key content state).1 = records state
  delete : ∀ key state, records (stores.delete key state).1 = records state
  insert : ∀ record state, insert record (records state) =
    (records (stores.insert record state).1, (stores.insert record state).2)

section Records

variable {ρ : Type} {records : σ → ρ} {insert : ApplicationRecord → ρ → ρ × Except Fault Unit}

theorem records_run_compensate (keeps : stores.KeepsRecords records insert) (cause : Fault)
    (count : Nat) (left keys : List String) (state : σ) :
    records ((compensate cause count left keys).run stores state).1 = records state := by
  induction keys generalizing left state with
  | nil => rfl
  | cons key rest inductionHypothesis =>
    exact (inductionHypothesis _ _).trans (keeps.delete key state)

/-- The step that stores a record is the only one that the part with the records sees. -/
theorem records_run_persist (keeps : stores.KeepsRecords records insert)
    (record : ApplicationRecord) (state : σ) :
    ∃ result, insert record (records state) =
        (records ((persist record).run stores state).1, result) ∧
      (result = .ok () ↔ ∃ receipt, ((persist record).run stores state).2 = .ok receipt) := by
  refine ⟨(stores.insert record state).2, ?_⟩
  rw [keeps.insert, persist, run]
  split
  rename_i after result stored
  rw [stored]
  cases result with
  | ok value => exact ⟨rfl, fun _ => ⟨_, rfl⟩, fun _ => rfl⟩
  | error fault =>
    refine ⟨congrArg (·, Except.error fault) (records_run_compensate keeps _ _ _ _ _).symm,
      fun stored => ?_, fun ended => ?_⟩
    · cases stored
    · obtain ⟨receipt, done⟩ := ended
      exact absurd done (run_compensate_ne_ok _ _ _ _ _ receipt)

/-- A plan that ended well has stored the record of its receipt and no other; one that failed has
stored none. -/
theorem records_run_upload (keeps : stores.KeepsRecords records insert) (id : String)
    (fields : ApplicationFields) (time : Instant) (uploaded : List String)
    (files : List SubmittedFile) (state : σ) :
    (∀ receipt, ((upload id fields time uploaded files).run stores state).2 = .ok receipt →
      insert receipt.application (records state) =
        (records ((upload id fields time uploaded files).run stores state).1, .ok ())) ∧
    (∀ fault, ((upload id fields time uploaded files).run stores state).2 = .error fault →
      records ((upload id fields time uploaded files).run stores state).1 = records state ∨
        ∃ record cause, insert record (records state) =
          (records ((upload id fields time uploaded files).run stores state).1, .error cause)) := by
  induction files generalizing uploaded state with
  | nil =>
    obtain ⟨result, stored, isOk⟩ := records_run_persist keeps ⟨id, fields, uploaded⟩ state
    refine ⟨fun receipt done => ?_, fun fault failed => .inr ?_⟩
    · rw [application_of_run_persist done, upload, stored, isOk.mpr ⟨receipt, done⟩]
    · cases result with
      | ok value =>
        obtain ⟨receipt, done⟩ := isOk.mp rfl
        cases failed.symm.trans done
      | error cause => exact ⟨_, cause, stored⟩
  | cons file rest inductionHypothesis =>
    have kept := keeps.put (BlobKey.make file.name id time uploaded) file.content state
    rw [upload, run]
    split
    rename_i after result stored
    rw [stored] at kept
    rw [← show records after = records state from kept]
    cases result with
    | ok value => exact inductionHypothesis _ after
    | error fault =>
      refine ⟨fun receipt done => ?_, fun _ _ => .inl rfl⟩
      cases done

end Records

end ApplicationLedger.IngestPlan
