/-
This file proves that ingests running side by side do not harm each other. In whatever order they
take their steps, every record lists keys of objects that are there, with the bytes that were
submitted, and every object that an ended ingest leaves behind is listed in its record or in its
answer.

The invariant follows each plan through its phases. It speaks of objects only under keys that hold
the id of the ingest, and no other ingest ever names such a key; so a step of one ingest keeps what
is known of all others.
-/

import Mathlib.Data.List.Forall2
import ApplicationLedger.Proofs.Blob.Key
import ApplicationLedger.Proofs.Ingest.World

namespace ApplicationLedger

namespace World

variable {ι : Type}

/-! ### What is known of an ingest -/

/-- Whether the objects under some keys are the contents of some files, one by one. -/
def Hold (w : World ι) (keys : List String) (files : List SubmittedFile) : Prop :=
  List.Forall₂ (fun key file => w.objects key = some file.content) keys files

/-- Whether a record is stored, but for later changes of its fields. -/
def IsStored (w : World ι) (record : ApplicationRecord) : Prop :=
  ∃ stored ∈ w.records, stored.id = record.id ∧ stored.files = record.files

/-- What is known of an ingest in each of its phases. A phase in which files are removed may be at
its end; so may one in which files are stored, and then the record is next. -/
inductive Progress (s : Submission) (w : World ι) (i : ι) : Prop
  | uploading (uploaded : List String) (stored rest : List SubmittedFile)
      (planned : w.plan i = .upload s.id.text s.fields s.time uploaded rest)
      (submitted : s.files = stored ++ rest) (written : w.written i = uploaded)
      (hold : w.Hold uploaded stored)
  | committed (record : ApplicationRecord) (count : Nat)
      (planned : w.plan i = .done (.ok ⟨record, count⟩)) (id : record.id = s.id.text)
      (written : w.written i = record.files) (hold : w.Hold record.files s.files)
      (isStored : w.IsStored record)
  | uploadFailed (file : String) (uploaded : List String) (reason : String)
      (planned : w.plan i = .done (.error (.uploadFailed file uploaded reason)))
      (written : w.written i = uploaded)
  | compensating (cause : Fault) (count : Nat) (left rest : List String)
      (planned : w.plan i = .compensate cause count left rest)
      (carried : ∀ key ∈ rest, BlobKey.Carries s.id.text key)
      (listed : ∀ key ∈ w.written i, w.objects key ≠ none → key ∈ left ∨ key ∈ rest)

/-- What is known of a world: how far each ingest is, that it has written keys with its own id only,
and that each record is the one of an ingest that was committed. -/
structure Sound (submissions : ι → Submission) (w : World ι) : Prop where
  progress : ∀ i, Progress (submissions i) w i
  own : ∀ i, ∀ key ∈ w.written i, BlobKey.Carries (submissions i).id.text key
  committed : ∀ record ∈ w.records, ∃ i receipt, w.plan i = .done (.ok receipt) ∧
    receipt.application.id = record.id ∧ receipt.application.files = record.files

/-! ### The start -/

theorem sound_start (submissions : ι → Submission) : Sound submissions (start submissions) where
  progress i := .uploading [] [] (submissions i).files rfl rfl rfl .nil
  own _ _ member := nomatch member
  committed _ member := nomatch member

/-! ### Steps of others -/

/-- Whether a world differs from another one in nothing that an ingest is concerned with. -/
structure SameFor (s : Submission) (i : ι) (w w' : World ι) : Prop where
  plan : w'.plan i = w.plan i
  written : w'.written i = w.written i
  objects : ∀ key, BlobKey.Carries s.id.text key → w'.objects key = w.objects key
  records : ∀ record, w.IsStored record → w'.IsStored record

theorem Hold.of_eq {w w' : World ι} {keys : List String} {files : List SubmittedFile}
    (hold : w.Hold keys files) (same : ∀ key ∈ keys, w'.objects key = w.objects key) :
    w'.Hold keys files := by
  induction hold with
  | nil => exact .nil
  | cons first _ inductionHypothesis =>
    refine .cons ((same _ List.mem_cons_self).trans first) ?_
    exact inductionHypothesis fun key member => same key (List.mem_cons_of_mem _ member)

/-- What is known of an ingest stays known while nothing changes that it is concerned with. -/
theorem Progress.of_sameFor {s : Submission} {i : ι} {w w' : World ι} (progress : Progress s w i)
    (own : ∀ key ∈ w.written i, BlobKey.Carries s.id.text key) (same : SameFor s i w w') :
    Progress s w' i := by
  have kept : ∀ key ∈ w.written i, w'.objects key = w.objects key :=
    fun key member => same.objects key (own key member)
  cases progress with
  | uploading uploaded stored rest planned submitted written hold =>
    exact .uploading uploaded stored rest (same.plan.trans planned) submitted
      (same.written.trans written) (hold.of_eq (written ▸ kept))
  | committed record count planned id written hold isStored =>
    exact .committed record count (same.plan.trans planned) id (same.written.trans written)
      (hold.of_eq (written ▸ kept)) (same.records record isStored)
  | uploadFailed file uploaded reason planned written =>
    exact .uploadFailed file uploaded reason (same.plan.trans planned)
      (same.written.trans written)
  | compensating cause count left rest planned carried listed =>
    refine .compensating cause count left rest (same.plan.trans planned) carried ?_
    intro key member present
    rw [same.written] at member
    exact listed key member (kept key member ▸ present)

/-! ### What the next step is -/

/-- An ingest that is about to store an object is uploading; the key is new and holds its id. -/
theorem Progress.of_put {s : Submission} {w : World ι} {i : ι} {key : String} {content : Bytes}
    {next : Except Fault Unit → IngestPlan} (progress : Progress s w i)
    (planned : w.plan i = .put key content next) :
    ∃ (stored : List SubmittedFile) (file : SubmittedFile) (rest : List SubmittedFile),
      s.files = stored ++ file :: rest ∧ w.Hold (w.written i) stored ∧
      key = BlobKey.make file.name s.id.text s.time (w.written i) ∧ content = file.content ∧
      next (.ok ()) = .upload s.id.text s.fields s.time (w.written i ++ [key]) rest ∧
      ∀ fault, next (.error fault) =
        .done (.error (.uploadFailed file.name (w.written i) fault.message)) := by
  cases progress with
  | uploading uploaded stored rest planned' submitted written hold =>
    rw [planned'] at planned
    cases rest with
    | nil => cases planned
    | cons file rest =>
      cases planned
      subst written
      exact ⟨stored, file, rest, submitted, hold, rfl, rfl, rfl, fun _ => rfl⟩
  | committed record count planned' => cases planned'.symm.trans planned
  | uploadFailed file uploaded reason planned' => cases planned'.symm.trans planned
  | compensating cause count left rest planned' =>
    rw [planned'] at planned
    cases rest <;> cases planned

/-- An ingest that is about to store its record has uploaded all files. -/
theorem Progress.of_insert {s : Submission} {w : World ι} {i : ι} {record : ApplicationRecord}
    {next : Except Fault Unit → IngestPlan} (progress : Progress s w i)
    (planned : w.plan i = .insert record next) :
    record = ⟨s.id.text, s.fields, w.written i⟩ ∧ w.Hold (w.written i) s.files ∧
      next (.ok ()) = .done (.ok ⟨record, record.files.length⟩) ∧
      ∀ fault, next (.error fault) =
        .compensate fault record.files.length [] (w.written i) := by
  cases progress with
  | uploading uploaded stored rest planned' submitted written hold =>
    rw [planned'] at planned
    cases rest with
    | nil =>
      cases planned
      subst written
      rw [submitted, List.append_nil]
      exact ⟨rfl, hold, rfl, fun _ => rfl⟩
    | cons file rest => cases planned
  | committed record count planned' => cases planned'.symm.trans planned
  | uploadFailed file uploaded reason planned' => cases planned'.symm.trans planned
  | compensating cause count left rest planned' =>
    rw [planned'] at planned
    cases rest <;> cases planned

/-- An ingest that is about to remove an object is compensating, and the key holds its id. -/
theorem Progress.of_delete {s : Submission} {w : World ι} {i : ι} {key : String}
    {next : Except Fault Unit → IngestPlan} (progress : Progress s w i)
    (planned : w.plan i = .delete key next) :
    ∃ (cause : Fault) (count : Nat) (left rest : List String),
      (∀ k ∈ key :: rest, BlobKey.Carries s.id.text k) ∧
      (∀ k ∈ w.written i, w.objects k ≠ none → k ∈ left ∨ k ∈ key :: rest) ∧
      ∀ result, next result = .compensate cause count
        (if IngestPlan.isGone result then left else left ++ [key]) rest := by
  cases progress with
  | uploading uploaded stored rest planned' =>
    rw [planned'] at planned
    cases rest <;> cases planned
  | committed record count planned' => cases planned'.symm.trans planned
  | uploadFailed file uploaded reason planned' => cases planned'.symm.trans planned
  | compensating cause count left rest planned' carried listed =>
    rw [planned'] at planned
    cases rest with
    | nil => cases planned
    | cons next rest =>
      cases planned
      exact ⟨cause, count, left, rest, carried, listed, fun _ => rfl⟩

/-! ### One step -/

section Steps

variable {submissions : ι → Submission} {w w' : World ι}

/-- A change of fields takes no file from a record. -/
theorem Sound.of_change (sound : Sound submissions w) (id : String) (fields : ApplicationFields) :
    Sound submissions { w with records := w.records.map (.withFields id fields) } where
  progress i := by
    refine (sound.progress i).of_sameFor (sound.own i) ⟨rfl, rfl, fun _ _ => rfl, ?_⟩
    rintro record ⟨stored, member, sameId, sameFiles⟩
    refine ⟨stored.withFields id fields, List.mem_map_of_mem member, ?_, ?_⟩
    · rw [ApplicationRecord.withFields_id, sameId]
    · rw [ApplicationRecord.withFields_files, sameFiles]
  own := sound.own
  committed record member := by
    obtain ⟨stored, inRecords, rfl⟩ := List.mem_map.mp member
    obtain ⟨i, receipt, done, sameId, sameFiles⟩ := sound.committed stored inRecords
    refine ⟨i, receipt, done, ?_, ?_⟩
    · rw [ApplicationRecord.withFields_id, sameId]
    · rw [ApplicationRecord.withFields_files, sameFiles]

variable (count : ∀ i, (submissions i).id.bytes.length = 16)
variable (distinct : Function.Injective fun i => (submissions i).id)
include count distinct

/-- What is known of a world stays known after a step of one ingest, if it is known of that ingest,
and objects have changed under keys with its id only. -/
theorem Sound.of_step (sound : Sound submissions w) (i : ι)
    (unfinished : ∀ result, w.plan i ≠ .done result)
    (plan : ∀ j, j ≠ i → w'.plan j = w.plan j)
    (written : ∀ j, j ≠ i → w'.written j = w.written j)
    (objects : ∀ key, ¬ BlobKey.Carries (submissions i).id.text key →
      w'.objects key = w.objects key)
    (old : ∀ record ∈ w.records, record ∈ w'.records)
    (new : ∀ record ∈ w'.records, record ∈ w.records ∨
      ∃ count, w'.plan i = .done (.ok ⟨record, count⟩))
    (own : ∀ key ∈ w'.written i, BlobKey.Carries (submissions i).id.text key)
    (progress : Progress (submissions i) w' i) : Sound submissions w' where
  progress j := by
    by_cases same : j = i
    · exact same ▸ progress
    · refine (sound.progress j).of_sameFor (sound.own j) ⟨plan j same, written j same, ?_, ?_⟩
      · intro key carries
        refine objects key fun carries' => same (distinct ?_)
        exact BlobKey.eq_of_carries_text ((count j).trans (count i).symm) carries carries'
      · rintro record ⟨stored, member, equal⟩
        exact ⟨stored, old stored member, equal⟩
  own j := by
    by_cases same : j = i
    · exact same ▸ own
    · rw [written j same]
      exact sound.own j
  committed record member := by
    rcases new record member with member | ⟨count, done⟩
    · obtain ⟨j, receipt, done, equal⟩ := sound.committed record member
      have other : j ≠ i := fun same => unfinished _ (same ▸ done)
      exact ⟨j, receipt, (plan j other).trans done, equal⟩
    · exact ⟨i, ⟨record, count⟩, done, rfl, rfl⟩

variable [DecidableEq ι]

/-- A file is stored under a key that is new to its record and that holds the id. -/
theorem Sound.of_put (sound : Sound submissions w) {i : ι} {key : String}
    {content : Bytes} {next : Except Fault Unit → IngestPlan}
    (planned : w.plan i = .put key content next) :
    Sound submissions { w.after i (next (.ok ())) with
      objects := Function.update w.objects key (some content)
      written := Function.update w.written i (w.written i ++ [key]) } := by
  obtain ⟨stored, file, rest, submitted, hold, made, rfl, next', -⟩ :=
    (sound.progress i).of_put planned
  have carries : BlobKey.Carries (submissions i).id.text key :=
    made ▸ BlobKey.carries_make _ _ _ _ (Uuid.dot_not_mem_text _)
  have fresh : key ∉ w.written i := made ▸ BlobKey.make_not_mem _ _ _ _
  refine sound.of_step count distinct i ?_ (fun j other => Function.update_of_ne other _ _)
    (fun j other => Function.update_of_ne other _ _) ?_ (fun _ => id) (fun _ => .inl) ?_ ?_
  · intro result done
    cases planned.symm.trans done
  · intro k foreign
    refine Function.update_of_ne ?_ _ _
    rintro rfl
    exact foreign carries
  · intro k member
    change k ∈ Function.update w.written i (w.written i ++ [key]) i at member
    rw [Function.update_self, List.mem_append, List.mem_singleton] at member
    rcases member with member | rfl
    · exact sound.own i k member
    · exact carries
  · refine .uploading (w.written i ++ [key]) (stored ++ [file]) rest ?_ ?_
      (Function.update_self _ _ _) ?_
    · exact (Function.update_self _ _ _).trans next'
    · rw [submitted, List.append_assoc, List.singleton_append]
    · refine List.rel_append (hold.of_eq fun k member => ?_) (.cons ?_ .nil)
      · refine Function.update_of_ne ?_ _ _
        rintro rfl
        exact fresh member
      · exact Function.update_self _ _ _

/-- When a file cannot be stored, the files before it are named. -/
theorem Sound.of_putFailed (sound : Sound submissions w) {i : ι} {key : String}
    {content : Bytes} {next : Except Fault Unit → IngestPlan} (fault : Fault)
    (planned : w.plan i = .put key content next) :
    Sound submissions (w.after i (next (.error fault))) := by
  obtain ⟨_, file, _, _, _, _, _, _, failed⟩ := (sound.progress i).of_put planned
  refine sound.of_step count distinct i ?_ (fun j other => Function.update_of_ne other _ _)
    (fun _ _ => rfl) (fun _ _ => rfl) (fun _ => id) (fun _ => .inl) (sound.own i) ?_
  · intro result done
    cases planned.symm.trans done
  · refine .uploadFailed file.name (w.written i) fault.message ?_ rfl
    exact (Function.update_self _ _ _).trans (failed fault)

/-- A record is stored when all its files are. -/
theorem Sound.of_insert (sound : Sound submissions w) {i : ι}
    {record : ApplicationRecord} {next : Except Fault Unit → IngestPlan}
    (planned : w.plan i = .insert record next) :
    Sound submissions
      { w.after i (next (.ok ())) with records := w.records ++ [record] } := by
  obtain ⟨rfl, hold, next', -⟩ := (sound.progress i).of_insert planned
  have done := (Function.update_self i (next (.ok ())) w.plan).trans next'
  refine sound.of_step count distinct i ?_ (fun j other => Function.update_of_ne other _ _)
    (fun _ _ => rfl) (fun _ _ => rfl) (fun _ => List.mem_append_left _) ?_ (sound.own i) ?_
  · intro result done
    cases planned.symm.trans done
  · intro record member
    rcases List.mem_append.mp member with member | member
    · exact .inl member
    · exact .inr ⟨_, List.mem_singleton.mp member ▸ done⟩
  · refine .committed _ _ done rfl rfl hold ⟨_, ?_, rfl, rfl⟩
    exact List.mem_append_right _ (List.mem_singleton.mpr rfl)

/-- When a record cannot be stored, all its files are still to be removed. -/
theorem Sound.of_insertFailed (sound : Sound submissions w) {i : ι}
    {record : ApplicationRecord} {next : Except Fault Unit → IngestPlan} (fault : Fault)
    (planned : w.plan i = .insert record next) :
    Sound submissions (w.after i (next (.error fault))) := by
  obtain ⟨_, _, _, failed⟩ := (sound.progress i).of_insert planned
  refine sound.of_step count distinct i ?_ (fun j other => Function.update_of_ne other _ _)
    (fun _ _ => rfl) (fun _ _ => rfl) (fun _ => id) (fun _ => .inl) (sound.own i) ?_
  · intro result done
    cases planned.symm.trans done
  · refine .compensating fault record.files.length [] (w.written i) ?_ (sound.own i) ?_
    · exact (Function.update_self _ _ _).trans (failed fault)
    · exact fun key member _ => .inr member

/-- A key is not named as left if its object is gone; else it is, whether or not the object is
there. -/
theorem Sound.of_delete (sound : Sound submissions w) {i : ι} {key : String}
    {next : Except Fault Unit → IngestPlan} (result : Except Fault Unit) (object : Option Bytes)
    (gone : IngestPlan.isGone result = true → object = none)
    (kept : object = w.objects key ∨ object = none) (planned : w.plan i = .delete key next) :
    Sound submissions
      { w.after i (next result) with objects := Function.update w.objects key object } := by
  obtain ⟨cause, total, left, rest, carried, listed, next'⟩ :=
    (sound.progress i).of_delete planned
  refine sound.of_step count distinct i ?_ (fun j other => Function.update_of_ne other _ _)
    (fun _ _ => rfl) ?_ (fun _ => id) (fun _ => .inl) (sound.own i) ?_
  · intro result done
    cases planned.symm.trans done
  · intro k foreign
    refine Function.update_of_ne ?_ _ _
    rintro rfl
    exact foreign (carried k List.mem_cons_self)
  · refine .compensating cause total _ rest ((Function.update_self _ _ _).trans (next' result))
      (fun k member => carried k (List.mem_cons_of_mem key member)) ?_
    intro k member present
    change Function.update w.objects key object k ≠ none at present
    by_cases same : k = key
    · subst same
      rw [Function.update_self] at present
      have failed : ¬ IngestPlan.isGone result = true := fun isGone => present (gone isGone)
      rw [if_neg failed]
      exact .inl (List.mem_append_right _ (List.mem_singleton.mpr rfl))
    · rw [Function.update_of_ne same] at present
      rcases listed k member present with inLeft | inRest
      · refine .inl ?_
        split
        · exact inLeft
        · exact List.mem_append_left _ inLeft
      · exact .inr ((List.mem_cons.mp inRest).resolve_left same)

/-- What is known of a world stays known after every step. -/
theorem sound_step (sound : Sound submissions w)
    (step : Step w w') : Sound submissions w' := by
  cases step with
  | put planned => exact sound.of_put count distinct planned
  | putFailed fault planned => exact sound.of_putFailed count distinct fault planned
  | insert planned => exact sound.of_insert count distinct planned
  | insertFailed fault planned => exact sound.of_insertFailed count distinct fault planned
  | delete result object gone kept planned =>
    exact sound.of_delete count distinct result object gone kept planned
  | change id fields => exact sound.of_change id fields

/-- In every world that can be reached, all is known. -/
theorem sound_of_reachable
    (reached : Reachable submissions w) : Sound submissions w := by
  induction reached with
  | refl => exact sound_start submissions
  | tail _ step inductionHypothesis => exact sound_step count distinct inductionHypothesis step

end Steps

/-! ### What is left in the end -/

/-- Whether the answer to an ingest names a key, or the record that it tells of lists it. -/
def Names (w : World ι) (key : String) : Except Fault IngestReceipt → Prop
  | .ok receipt =>
    ∃ record ∈ w.records, record.id = receipt.application.id ∧ key ∈ record.files
  | .error (.uploadFailed _ uploaded _) => key ∈ uploaded
  | .error (.orphaned left _) => key ∈ left
  | .error _ => False

/-- An ingest that ended well has stored a record whose files hold what was submitted. -/
theorem Progress.of_done_ok {s : Submission} {w : World ι} {i : ι} {receipt : IngestReceipt}
    (progress : Progress s w i) (planned : w.plan i = .done (.ok receipt)) :
    receipt.application.id = s.id.text ∧ w.Hold receipt.application.files s.files := by
  cases progress with
  | uploading uploaded stored rest planned' =>
    rw [planned'] at planned
    cases rest <;> cases planned
  | committed record count planned' id written hold =>
    cases planned'.symm.trans planned
    exact ⟨id, hold⟩
  | uploadFailed file uploaded reason planned' => cases planned'.symm.trans planned
  | compensating cause count left rest planned' =>
    rw [planned'] at planned
    cases rest <;> cases planned

/-- What an ended ingest has left behind is named. -/
theorem Progress.names_of_done {s : Submission} {w : World ι} {i : ι}
    {result : Except Fault IngestReceipt} (progress : Progress s w i)
    (planned : w.plan i = .done result) :
    ∀ key ∈ w.written i, w.objects key ≠ none → w.Names key result := by
  intro key member present
  cases progress with
  | uploading uploaded stored rest planned' =>
    rw [planned'] at planned
    cases rest <;> cases planned
  | committed record count planned' id written hold isStored =>
    cases planned'.symm.trans planned
    obtain ⟨stored, inRecords, sameId, sameFiles⟩ := isStored
    rw [written, ← sameFiles] at member
    exact ⟨stored, inRecords, sameId, member⟩
  | uploadFailed file uploaded reason planned' written =>
    cases planned'.symm.trans planned
    exact written ▸ member
  | compensating cause count left rest planned' carried listed =>
    rw [planned'] at planned
    cases rest with
    | cons next rest => cases planned
    | nil =>
      have inLeft := (listed key member present).resolve_right List.not_mem_nil
      cases planned
      cases left with
      | nil => cases inLeft
      | cons first others => exact inLeft

/-- Whatever the order in which ingests with different ids take their steps, whichever steps fail,
and whatever fields change in between: each record lists keys of objects that hold what was
submitted, one by one, and each object that an ended ingest has left behind is in its record or in
its answer. -/
theorem records_hold_and_rest_is_named [DecidableEq ι] {submissions : ι → Submission} {w : World ι}
    (count : ∀ i, (submissions i).id.bytes.length = 16)
    (distinct : Function.Injective fun i => (submissions i).id)
    (reached : Reachable submissions w) :
    (∀ record ∈ w.records, ∃ i, record.id = (submissions i).id.text ∧
        w.Hold record.files (submissions i).files) ∧
      ∀ i result, w.plan i = .done result →
        ∀ key ∈ w.written i, w.objects key ≠ none → w.Names key result := by
  have sound := sound_of_reachable count distinct reached
  refine ⟨fun record member => ?_, fun i result planned => ?_⟩
  · obtain ⟨i, receipt, done, sameId, sameFiles⟩ := sound.committed record member
    obtain ⟨id, hold⟩ := (sound.progress i).of_done_ok done
    exact ⟨i, sameId ▸ id, sameFiles ▸ hold⟩
  · exact (sound.progress i).names_of_done planned

/-- Two submissions that differ only in their ids and in the contents of their files. -/
def twins (i : Fin 2) : Submission where
  id := ⟨List.replicate 16 (UInt8.ofNat i)⟩
  fields := { ApplicationFields.sample with dateApplied := ⟨1767225600, 0⟩ }
  time := ⟨1767225600, 0⟩
  files := [⟨"cv.pdf", [UInt8.ofNat i]⟩]

theorem records_hold_and_rest_is_named_twins :
    ∃ w, Reachable twins w ∧ w.records.length = 1 ∧
      (∃ key cause, w.plan 1 = .done (.error (.orphaned [key] cause)) ∧ key ∈ w.written 1 ∧
        w.objects key = some [1]) ∧
      (∀ record ∈ w.records, ∃ i, record.id = (twins i).id.text ∧
        w.Hold record.files (twins i).files) ∧
      ∀ i result, w.plan i = .done result →
        ∀ key ∈ w.written i, w.objects key ≠ none → w.Names key result := by
  have count : ∀ i, (twins i).id.bytes.length = 16 := fun i => List.length_replicate
  have distinct : Function.Injective fun i => (twins i).id :=
    (by decide : ∀ i j : Fin 2, (twins i).id = (twins j).id → i = j)
  -- Both store their file, one its record; the other fails to, and fails to remove its file.
  have reached : ∃ w, Reachable twins w ∧ w.records.length = 1 ∧
      ∃ key cause, w.plan 1 = .done (.error (.orphaned [key] cause)) ∧ key ∈ w.written 1 ∧
        w.objects key = some [1] := by
    refine ⟨_, .tail (.tail (.tail (.tail (.tail .refl
      (.put (i := 0) rfl)) (.put (i := 1) rfl)) (.insert (i := 0) rfl))
      (.insertFailed (i := 1) (.database "full") rfl))
      (.delete (i := 1) (.error (.blob "denied")) (some [1]) nofun (.inl ?_) rfl),
      rfl, _, _, rfl, ?_, ?_⟩
    · simp only [after, Function.update_self]
      rfl
    · exact List.mem_append_right _ (List.mem_singleton.mpr rfl)
    · simp only [after, Function.update_self]
  obtain ⟨w, reached, stored, orphaned⟩ := reached
  exact ⟨w, reached, stored, orphaned, records_hold_and_rest_is_named count distinct reached⟩

end World

end ApplicationLedger
