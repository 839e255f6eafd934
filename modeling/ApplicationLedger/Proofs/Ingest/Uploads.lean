/-
This file says what an upload leaves in an object store that is a map from keys to bytes. If a file
cannot be stored, nothing is done behind it: the objects of the files before it are there, under the
keys that the answer names, and no record is touched. If there is a receipt, each file was stored,
then the record, and every file of the record is there under its own key: keys are made so that no
file replaces another one, whatever the client calls them.
-/

import Mathlib.Data.List.Forall2
import ApplicationLedger.Proofs.Ingest.Calls

namespace ApplicationLedger.IngestPlan

variable {σ : Type} {stores : Stores σ}

/-! ### Answers to calls -/

/-- Makes a call. -/
def Stores.call (stores : Stores σ) : Call → σ → σ × Except Fault Unit
  | .put key content => stores.put key content
  | .insert record => stores.insert record
  | .delete key => stores.delete key

/-- Whether stores answer some calls, made one after the other, in some way, and which state that
leads to. -/
inductive Stores.Answer (stores : Stores σ) : σ → Trace → σ → Prop
  | nil {state : σ} : Answer stores state [] state
  | cons {state between after : σ} {call : Call} {outcome : Except Fault Unit} {calls : Trace}
      (first : stores.call call state = (between, outcome))
      (rest : Answer stores between calls after) :
      Answer stores state ((call, outcome) :: calls) after

section Answer

variable {state after : σ} {calls further : Trace}

theorem Stores.Answer.split (answer : stores.Answer state (calls ++ further) after) :
    ∃ between, stores.Answer state calls between ∧ stores.Answer between further after := by
  induction calls generalizing state with
  | nil => exact ⟨state, .nil, answer⟩
  | cons call calls inductionHypothesis =>
    cases answer with
    | cons first rest =>
      obtain ⟨between, others, second⟩ := inductionHypothesis rest
      exact ⟨between, .cons first others, second⟩

theorem Stores.Answer.singleton {call : Call} {outcome : Except Fault Unit}
    (answer : stores.Answer state [(call, outcome)] after) :
    stores.call call state = (after, outcome) := by
  cases answer with
  | cons first rest =>
    cases rest
    exact first

/-- What puts leave as it is stays as it is while there are only puts. -/
theorem Stores.Answer.eq_of_puts {ρ : Type} {part : σ → ρ}
    (same : ∀ key content state, part (stores.put key content state).1 = part state)
    (answer : stores.Answer state calls after)
    (puts : ∀ call ∈ calls, ∃ key content, call.1 = .put key content) :
    part after = part state := by
  induction answer with
  | nil => rfl
  | @cons state between _ call _ _ first _ inductionHypothesis =>
    obtain ⟨⟨key, content, isPut⟩, others⟩ := List.forall_mem_cons.mp puts
    cases isPut
    have kept := same key content state
    rw [show stores.put key content state = _ from first] at kept
    rw [inductionHypothesis others, kept]

/-- The calls of a plan are answered as the plan notes them. -/
theorem answer_trace (stores : Stores σ) (plan : IngestPlan) (state : σ) :
    stores.Answer state (plan.trace stores state) (plan.run stores state).1 := by
  induction plan generalizing state with
  | done result => exact .nil
  | put key content next inductionHypothesis => exact .cons rfl (inductionHypothesis _ _)
  | insert record next inductionHypothesis => exact .cons rfl (inductionHypothesis _ _)
  | delete key next inductionHypothesis => exact .cons rfl (inductionHypothesis _ _)

end Answer

/-! ### Objects of stored files -/

/-- Whether stores keep objects in some part of their state, as a map from keys to bytes: a file
that is stored is the object under its key, and a record is no object. -/
structure Stores.KeepsObjects (stores : Stores σ) (objects : σ → String → Option Bytes) : Prop where
  put : ∀ {key content state after}, stores.put key content state = (after, .ok ()) →
    objects after = Function.update (objects state) key (some content)
  insert : ∀ {record state after}, stores.insert record state = (after, .ok ()) →
    objects after = objects state

section Objects

variable {objects : σ → String → Option Bytes} {state after : σ}

theorem keepsObjects_of_behave {records : σ → List ApplicationRecord}
    (behave : World.Behave stores objects records) : stores.KeepsObjects objects where
  put {key content state after} stored := by
    have objectsAfter := (behave.put key content state).2
    rwa [stored] at objectsAfter
  insert {record state after} stored := by
    have objectsAfter := (behave.insert record state).1
    rwa [stored] at objectsAfter

theorem objects_of_put_failed {records : σ → List ApplicationRecord}
    (behave : World.Behave stores objects records) {key : String} {content : Bytes} {fault : Fault}
    (failed : stores.put key content state = (after, .error fault)) :
    objects after = objects state := by
  have objectsAfter := (behave.put key content state).2
  rwa [failed] at objectsAfter

/-- Files that are stored under different keys are there under their keys, and all other objects
are as they were. -/
theorem Stores.Answer.objects_of_stored (keeps : stores.KeepsObjects objects) {keys : List String}
    {files : List SubmittedFile} (distinct : keys.Nodup) (length : keys.length = files.length)
    (answer : stores.Answer state (stored keys files) after) :
    List.Forall₂ (fun key file => objects after key = some file.content) keys files ∧
      ∀ key ∉ keys, objects after key = objects state key := by
  induction keys generalizing files state with
  | nil =>
    obtain rfl := List.eq_nil_of_length_eq_zero length.symm
    cases answer
    exact ⟨.nil, fun _ _ => rfl⟩
  | cons key keys inductionHypothesis =>
    obtain _ | ⟨file, files⟩ := files
    · cases length
    obtain ⟨new, distinct⟩ := List.nodup_cons.mp distinct
    cases answer with
    | @cons _ between _ _ _ _ first rest =>
      have put : objects between = _ := keeps.put first
      obtain ⟨there, others⟩ := inductionHypothesis distinct (Nat.succ_inj.mp length) rest
      refine ⟨.cons ?_ there, fun other absent => ?_⟩
      · rw [others key new, put, Function.update_self]
      · rw [others other fun inRest => absent (List.mem_cons_of_mem key inRest), put,
          Function.update_of_ne fun same => absent (List.mem_cons.mpr (.inl same))]

end Objects

/-! ### A file that cannot be stored -/

/-- Files that can be stored are stored, and the upload goes on with the others. The induction is on
the files that are stored, each of which is taken for those behind it. -/
theorem upload_append {id : String} {time : Instant} {taken : List String}
    {before : List SubmittedFile} {state between : σ}
    (answer : stores.Answer state (stored (keys id time taken before) before) between)
    (fields : ApplicationFields) (rest : List SubmittedFile) :
    (upload id fields time taken (before ++ rest)).run stores state =
        (upload id fields time (taken ++ keys id time taken before) rest).run stores between ∧
      (upload id fields time taken (before ++ rest)).trace stores state =
        stored (keys id time taken before) before ++
          (upload id fields time (taken ++ keys id time taken before) rest).trace stores
            between := by
  induction before generalizing taken state with
  | nil =>
    cases answer
    rw [keys, List.append_nil]
    exact ⟨rfl, rfl⟩
  | cons file before inductionHypothesis =>
    cases answer with
    | cons first others =>
      obtain ⟨run_eq, trace_eq⟩ := inductionHypothesis others
      have stored : stores.put (BlobKey.make file.name id time taken) file.content state =
        (_, .ok ()) := first
      have behind : taken ++ keys id time taken (file :: before) = _ := List.append_cons _ _ _
      rw [List.cons_append, upload, run, trace, stored, behind]
      exact ⟨run_eq, congrArg (_ :: ·) trace_eq⟩

/-- If files are stored one after the other and then one cannot be, the upload ends there. The
answer names this file and the keys of those before it, and gives the reason; no other call is made.
What puts leave as it is, such as the records, is as it was. If a put that fails changes nothing,
the objects are those that were there and those of the files before, under the keys that are
named. -/
theorem uploadFailed_of_put_failed (stores : Stores σ) (id : String) (fields : ApplicationFields)
    (time : Instant) (before : List SubmittedFile) (file : SubmittedFile)
    (rest : List SubmittedFile) (fault : Fault) (state after : σ)
    (answer : stores.Answer state
      (stored (keys id time [] before) before ++
        [(.put (BlobKey.make file.name id time (keys id time [] before)) file.content,
          .error fault)]) after) :
    let uploaded := keys id time [] before
    let plan := ingest id fields time (before ++ file :: rest)
    plan.run stores state = (after, .error (.uploadFailed file.name uploaded fault.message)) ∧
      plan.trace stores state = stored uploaded before ++
        [(.put (BlobKey.make file.name id time uploaded) file.content, .error fault)] ∧
      (∀ {ρ : Type} (records : σ → ρ),
        (∀ key content state, records (stores.put key content state).1 = records state) →
        records after = records state) ∧
      ∀ objects, stores.KeepsObjects objects →
        (∀ key content state fault after, stores.put key content state = (after, .error fault) →
          objects after = objects state) →
        List.Forall₂ (fun key file => objects after key = some file.content) uploaded before ∧
          ∀ key ∉ uploaded, objects after key = objects state key := by
  intro uploaded plan
  obtain ⟨between, answers, last⟩ := answer.split
  have failed : stores.put (BlobKey.make file.name id time uploaded) file.content between =
    (after, .error fault) := last.singleton
  obtain ⟨run_eq, trace_eq⟩ := upload_append answers fields (file :: rest)
  rw [List.nil_append, upload, run, failed] at run_eq
  rw [List.nil_append, upload, trace, failed] at trace_eq
  refine ⟨run_eq, trace_eq, fun records same => ?_, fun objects keeps unchanged => ?_⟩
  · refine answer.eq_of_puts same fun call member => ?_
    rcases List.mem_append.mp member with member | member
    · obtain ⟨key, _, content, rfl⟩ := mem_stored member
      exact ⟨key, content, rfl⟩
    · exact ⟨_, _, congrArg Prod.fst (List.mem_singleton.mp member)⟩
  · rw [unchanged _ _ _ _ _ failed]
    exact answers.objects_of_stored keeps (nodup_keys id time [] before)
      (length_keys id time [] before)

/-- Of three files, the second cannot be stored. -/
theorem uploadFailed_of_put_failed_second :
    let plan := ingest "a" .sample ⟨0, 0⟩ [⟨"cv.pdf", [1]⟩, ⟨"cv.pdf", [2]⟩, ⟨"letter", [3]⟩]
    let after := plan.run (Trial.stores ⟨some 1, [], none, none, []⟩) Trial.start
    after.2 = .error (.uploadFailed "cv.pdf" ["cv-0000-010170_a.pdf"]
        "Blob store error: bucket unavailable") ∧
      after.1.records = [] ∧ after.1.objects.toMap "cv-0000-010170_a.pdf" = some [1] ∧
      ∀ key ≠ "cv-0000-010170_a.pdf", after.1.objects.toMap key = none := by
  intro plan after
  have behave : World.Behave (Trial.stores ⟨some 1, [], none, none, []⟩)
    (fun t => t.objects.toMap) Trial.records := Trial.behave _ rfl
  obtain ⟨run_eq, _, kept, held⟩ := uploadFailed_of_put_failed
    (Trial.stores ⟨some 1, [], none, none, []⟩) "a" .sample ⟨0, 0⟩ [⟨"cv.pdf", [1]⟩]
    ⟨"cv.pdf", [2]⟩ [⟨"letter", [3]⟩] (.blob "bucket unavailable") Trial.start after.1
    (.cons rfl (.cons rfl .nil))
  obtain ⟨_ | ⟨there, _⟩, others⟩ := held _ (keepsObjects_of_behave behave)
    fun _ _ _ _ _ => objects_of_put_failed behave
  refine ⟨congrArg Prod.snd run_eq, kept Trial.records fun _ _ _ => (behave.put _ _ _).1, there,
    fun key ne => others key ?_⟩
  rintro (_ | ⟨_, ⟨⟩⟩)
  exact ne rfl

/-! ### Receipts -/

/-- If an application is answered with a receipt, its files were stored one after the other, as they
were sent, and then its record, and nothing else was done. The record has the id and the fields of
the application and a key for each of its files; no key is empty or that of two files. Under these
keys are the files, and all other objects are as they were. -/
theorem files_stored_of_receipt (stores : Stores σ) (id : String) (fields : ApplicationFields)
    (time : Instant) (files : List SubmittedFile) (state : σ) (receipt : IngestReceipt)
    (done : ((ingest id fields time files).run stores state).2 = .ok receipt) :
    let after := ((ingest id fields time files).run stores state).1
    let record := receipt.application
    (ingest id fields time files).trace stores state =
        stored record.files files ++ [(.insert record, .ok ())] ∧
      record.id = id ∧ record.fields = fields ∧ receipt.fileCount = files.length ∧
      record.files.length = files.length ∧ record.files.Nodup ∧ (∀ key ∈ record.files, key ≠ "") ∧
      ∀ objects, stores.KeepsObjects objects →
        List.Forall₂ (fun key file => objects after key = some file.content) record.files files ∧
          ∀ key ∉ record.files, objects after key = objects state key := by
  intro after record
  have ending : Ending id fields time [] files ((ingest id fields time files).trace stores state)
      ((ingest id fields time files).run stores state).2 :=
    ending_upload stores id fields time [] files state
  rw [done] at ending
  obtain ⟨whole, counted, trace_eq⟩ := ending.of_ok
  have own : record.files = keys id time [] files := congrArg ApplicationRecord.files whole
  have length : record.files.length = files.length := by rw [own, length_keys]
  have distinct : record.files.Nodup := own ▸ nodup_keys id time [] files
  rw [← own] at trace_eq
  refine ⟨trace_eq, congrArg ApplicationRecord.id whole, congrArg ApplicationRecord.fields whole,
    counted.trans length, length, distinct, own ▸ ne_empty_of_mem_keys id time [] files,
    fun objects keeps => ?_⟩
  have answer := answer_trace stores (ingest id fields time files) state
  rw [trace_eq] at answer
  obtain ⟨between, answers, last⟩ := answer.split
  have inserted : objects after = objects between := keeps.insert last.singleton
  rw [inserted]
  exact answers.objects_of_stored keeps distinct length

/-- Three files, the last one named as the second is numbered. -/
theorem files_stored_of_receipt_numbered :
    let plan := ingest "a" .sample ⟨0, 0⟩
      [⟨"cv.pdf", [1]⟩, ⟨"cv.pdf", [2]⟩, ⟨"cv (2).pdf", [3]⟩]
    let after := plan.run (Trial.stores ⟨none, [], none, none, []⟩) Trial.start
    after.1.objects.toMap "cv-0000-010170_a.pdf" = some [1] ∧
      after.1.objects.toMap "cv (2)-0000-010170_a.pdf" = some [2] ∧
      after.1.objects.toMap "cv (2) (2)-0000-010170_a.pdf" = some [3] := by
  intro plan after
  obtain ⟨_, _, _, _, _, _, _, held⟩ := files_stored_of_receipt
    (Trial.stores ⟨none, [], none, none, []⟩) "a" .sample ⟨0, 0⟩
    [⟨"cv.pdf", [1]⟩, ⟨"cv.pdf", [2]⟩, ⟨"cv (2).pdf", [3]⟩] Trial.start _ rfl
  obtain ⟨_ | ⟨first, _ | ⟨second, _ | ⟨third, _⟩⟩⟩, _⟩ :=
    held _ (keepsObjects_of_behave (Trial.behave _ rfl))
  exact ⟨first, second, third⟩

end ApplicationLedger.IngestPlan
