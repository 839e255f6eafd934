/-
This file says which calls a plan makes while it is carried out, and what these calls do to the two
stores. There are three endings: a file cannot be stored, and no further call is made; the record is
stored behind all files; or it cannot be stored, and every file is removed again, one by one. What
a plan answers follows from its calls, so the answer can be trusted without a look at the stores.
-/

import Mathlib.Data.List.Nodup
import ApplicationLedger.Proofs.Blob.Search
import ApplicationLedger.Proofs.Ingest.World

namespace ApplicationLedger

/-! ### Calls -/

namespace IngestPlan

/-- A call to one of the stores. -/
inductive Call where
  | put (key : String) (content : Bytes)
  | insert (record : ApplicationRecord)
  | delete (key : String)
  deriving DecidableEq, Repr

/-- Calls in their order, and how each of them ended. -/
abbrev Trace := List (Call × Except Fault Unit)

variable {σ : Type}

/-- The calls of a plan that is carried out. -/
def trace (stores : Stores σ) : IngestPlan → σ → Trace
  | .done _, _ => []
  | .put key content next, state =>
    let (state, result) := stores.put key content state
    (.put key content, result) :: trace stores (next result) state
  | .insert record next, state =>
    let (state, result) := stores.insert record state
    (.insert record, result) :: trace stores (next result) state
  | .delete key next, state =>
    let (state, result) := stores.delete key state
    (.delete key, result) :: trace stores (next result) state

/-- Stores that write down the calls made to them. -/
def Stores.traced (stores : Stores σ) : Stores (σ × Trace) where
  put key content state :=
    let (after, result) := stores.put key content state.1
    ((after, state.2 ++ [(.put key content, result)]), result)
  insert record state :=
    let (after, result) := stores.insert record state.1
    ((after, state.2 ++ [(.insert record, result)]), result)
  delete key state :=
    let (after, result) := stores.delete key state.1
    ((after, state.2 ++ [(.delete key, result)]), result)

/-- The calls of a plan are those that stores see while it is carried out. -/
theorem run_traced (stores : Stores σ) (plan : IngestPlan) (state : σ) (calls : Trace) :
    plan.run stores.traced (state, calls) =
      (((plan.run stores state).1, calls ++ plan.trace stores state),
        (plan.run stores state).2) := by
  induction plan generalizing state calls with
  | done result => rw [trace, List.append_nil, run, run]
  | put key content next inductionHypothesis =>
    rw [run, run, trace, List.append_cons]
    exact inductionHypothesis _ _ _
  | insert record next inductionHypothesis =>
    rw [run, run, trace, List.append_cons]
    exact inductionHypothesis _ _ _
  | delete key next inductionHypothesis =>
    rw [run, run, trace, List.append_cons]
    exact inductionHypothesis _ _ _

/-! ### The keys of files -/

/-- The keys for some files, behind others that are taken. -/
def keys (id : String) (time : Instant) (taken : List String) : List SubmittedFile → List String
  | [] => []
  | file :: rest =>
    let key := BlobKey.make file.name id time taken
    key :: keys id time (taken ++ [key]) rest

theorem length_keys (id : String) (time : Instant) (taken : List String)
    (files : List SubmittedFile) : (keys id time taken files).length = files.length := by
  induction files generalizing taken with
  | nil => rfl
  | cons file rest inductionHypothesis => exact congrArg (· + 1) (inductionHypothesis _)

/-- The keys of files are those made one after the other for their names. -/
theorem keys_eq_makeAll (id : String) (time : Instant) (taken : List String)
    (files : List SubmittedFile) :
    keys id time taken files = BlobKey.makeAll id time taken (files.map (·.name)) := by
  induction files generalizing taken with
  | nil => rfl
  | cons file rest inductionHypothesis => exact congrArg (List.cons _) (inductionHypothesis _)

theorem ne_empty_of_mem_keys (id : String) (time : Instant) (taken : List String)
    (files : List SubmittedFile) : ∀ key ∈ keys id time taken files, key ≠ "" := by
  induction files generalizing taken with
  | nil => exact fun _ member => nomatch member
  | cons file rest inductionHypothesis =>
    exact List.forall_mem_cons.mpr ⟨BlobKey.make_ne_empty _ _ _ _, inductionHypothesis _⟩

/-- No two files have one key. -/
theorem nodup_keys (id : String) (time : Instant) (taken : List String)
    (files : List SubmittedFile) : (keys id time taken files).Nodup := by
  rw [keys_eq_makeAll]
  exact BlobKey.nodup_makeAll id time taken _

/-! ### How a plan ends -/

/-- The calls that store some files. -/
def stored (keys : List String) (files : List SubmittedFile) : Trace :=
  (keys.zip files).map fun entry => (.put entry.1 entry.2.content, .ok ())

theorem mem_stored {keys : List String} {files : List SubmittedFile}
    {call : Call × Except Fault Unit} (member : call ∈ stored keys files) :
    ∃ key ∈ keys, ∃ content, call = (.put key content, .ok ()) := by
  obtain ⟨⟨key, file⟩, both, rfl⟩ := List.mem_map.mp member
  exact ⟨key, (List.of_mem_zip both).1, file.content, rfl⟩

/-- The calls that remove some files, with some outcomes. -/
def removals (outcomes : List (String × Except Fault Unit)) : Trace :=
  outcomes.map fun outcome => (.delete outcome.1, outcome.2)

/-- The key of the file that a call did not remove: the call failed, and not because there was no
such file. -/
def unremoved? : Call × Except Fault Unit → Option String
  | (.delete _, .error (.notFound _)) => none
  | (.delete key, .error _) => some key
  | _ => none

/-- The keys of the files that some calls did not remove. -/
def unremoved (calls : Trace) : List String := calls.filterMap unremoved?

theorem unremoved_cons (call : Call × Except Fault Unit) (calls : Trace) :
    unremoved (call :: calls) = (unremoved? call).toList ++ unremoved calls := by
  rw [unremoved, List.filterMap_cons, ← unremoved]
  cases unremoved? call <;> rfl

theorem unremoved?_delete (key : String) (outcome : Except Fault Unit) :
    unremoved? (.delete key, outcome) = if isGone outcome then none else some key := by
  cases outcome with
  | ok => rfl
  | error fault => cases fault <;> rfl

/-- Each file is removed, in order, whatever became of the ones before; what is answered are the
files that some of these calls did not remove. -/
theorem trace_compensate (stores : Stores σ) (cause : Fault) (count : Nat) (left keys : List String)
    (state : σ) :
    ∃ outcomes, outcomes.map Prod.fst = keys ∧
      (compensate cause count left keys).trace stores state = removals outcomes ∧
      ((compensate cause count left keys).run stores state).2 =
        .error (failure cause count (left ++ unremoved (removals outcomes))) := by
  induction keys generalizing left state with
  | nil =>
    refine ⟨[], rfl, rfl, ?_⟩
    show _ = Except.error (failure cause count (left ++ []))
    rw [compensate, run, List.append_nil]
  | cons key rest inductionHypothesis =>
    rw [compensate, trace, run]
    generalize stores.delete key state = ended
    obtain ⟨after, outcome⟩ := ended
    obtain ⟨outcomes, rfl, calls, result⟩ := inductionHypothesis
      (if isGone outcome then left else left ++ [key]) after
    refine ⟨(key, outcome) :: outcomes, rfl, congrArg _ calls, result.trans ?_⟩
    show _ = Except.error (failure cause count
      (left ++ unremoved ((.delete key, outcome) :: removals outcomes)))
    rw [unremoved_cons, unremoved?_delete]
    cases isGone outcome with
    | true => rfl
    | false =>
      rw [if_neg Bool.false_ne_true, if_neg Bool.false_ne_true, List.append_assoc]
      rfl

/-- How it ends to store some files behind others and then their record: by which calls, and with
which answer. -/
inductive Ending (id : String) (fields : ApplicationFields) (time : Instant)
    (uploaded : List String) (files : List SubmittedFile) :
    Trace → Except Fault IngestReceipt → Prop
  | uploadFailed (before : List SubmittedFile) (file : SubmittedFile) (after : List SubmittedFile)
      (fault : Fault) (split : files = before ++ file :: after) (taken : List String)
      (behind : taken = uploaded ++ keys id time uploaded before) :
      Ending id fields time uploaded files
        (stored (keys id time uploaded before) before ++
          [(.put (BlobKey.make file.name id time taken) file.content, .error fault)])
        (.error (.uploadFailed file.name taken fault.message))
  | committed (record : ApplicationRecord)
      (whole : record = ⟨id, fields, uploaded ++ keys id time uploaded files⟩) :
      Ending id fields time uploaded files
        (stored (keys id time uploaded files) files ++ [(.insert record, .ok ())])
        (.ok ⟨record, record.files.length⟩)
  | insertFailed (record : ApplicationRecord) (cause : Fault)
      (outcomes : List (String × Except Fault Unit))
      (whole : record = ⟨id, fields, uploaded ++ keys id time uploaded files⟩)
      (all : outcomes.map Prod.fst = record.files) :
      Ending id fields time uploaded files
        (stored (keys id time uploaded files) files ++
          (.insert record, .error cause) :: removals outcomes)
        (.error (failure cause record.files.length (unremoved (removals outcomes))))

/-- A file that is stored comes before all other calls. -/
theorem Ending.cons {id : String} {fields : ApplicationFields} {time : Instant}
    {uploaded : List String} {file : SubmittedFile} {rest : List SubmittedFile} {calls : Trace}
    {result : Except Fault IngestReceipt} {key : String}
    (made : BlobKey.make file.name id time uploaded = key)
    (ending : Ending id fields time (uploaded ++ [key]) rest calls result) :
    Ending id fields time uploaded (file :: rest)
      ((.put key file.content, .ok ()) :: calls) result := by
  subst made
  cases ending with
  | uploadFailed before failed after fault split taken behind =>
    exact .uploadFailed (file :: before) failed after fault (congrArg (file :: ·) split) taken
      (behind.trans (List.append_cons ..).symm)
  | committed record whole =>
    exact .committed record (whole.trans (by rw [keys, ← List.append_cons]))
  | insertFailed record cause outcomes whole all =>
    exact .insertFailed record cause outcomes (whole.trans (by rw [keys, ← List.append_cons])) all

/-- An upload that ends well has stored all files and then their record. -/
theorem Ending.of_ok {id : String} {fields : ApplicationFields} {time : Instant}
    {uploaded : List String} {files : List SubmittedFile} {calls : Trace} {receipt : IngestReceipt}
    (ending : Ending id fields time uploaded files calls (.ok receipt)) :
    receipt.application = ⟨id, fields, uploaded ++ keys id time uploaded files⟩ ∧
      receipt.fileCount = receipt.application.files.length ∧
      calls = stored (keys id time uploaded files) files ++
        [(.insert receipt.application, .ok ())] := by
  cases ending with
  | committed record whole => exact ⟨whole, rfl, rfl⟩

/-- Whatever the stores do, the plan for an application has one of the three endings. -/
theorem ending_upload (stores : Stores σ) (id : String) (fields : ApplicationFields)
    (time : Instant) (uploaded : List String) (files : List SubmittedFile) (state : σ) :
    Ending id fields time uploaded files
      ((upload id fields time uploaded files).trace stores state)
      ((upload id fields time uploaded files).run stores state).2 := by
  induction files generalizing uploaded state with
  | nil =>
    rw [upload, persist, trace, run]
    have whole : (ApplicationRecord.mk id fields uploaded) =
        ⟨id, fields, uploaded ++ keys id time uploaded []⟩ := by rw [keys, List.append_nil]
    generalize ApplicationRecord.mk id fields uploaded = record at whole ⊢
    generalize stores.insert record state = ended
    obtain ⟨after, cause | _⟩ := ended
    · obtain ⟨outcomes, all, calls, result⟩ :=
        trace_compensate stores cause record.files.length [] record.files after
      dsimp only
      rw [calls, result]
      exact .insertFailed record cause outcomes whole all
    · exact .committed record whole
  | cons file rest inductionHypothesis =>
    rw [upload, trace, run]
    generalize made : BlobKey.make file.name id time uploaded = key
    generalize stores.put key file.content state = ended
    obtain ⟨after, fault | _⟩ := ended
    · rw [← made]
      exact .uploadFailed [] file rest fault rfl uploaded (List.append_nil _).symm
    · exact .cons made (inductionHypothesis _ after)

/-! ### What calls do to the stores -/

/-- What the two stores hold. -/
structure Holdings where
  objects : String → Option Bytes
  records : List ApplicationRecord

/-- Whether a call that ended as it did may change what the stores hold in some way. The object
store is a map from keys to bytes: a put that fails changes nothing, and a key that was deleted or
not found is not there; a delete that fails otherwise may have been carried out or not. An insert
that fails stores nothing. -/
inductive Change (before : Holdings) : Call × Except Fault Unit → Holdings → Prop
  | put (key : String) (content : Bytes) :
      Change before (.put key content, .ok ())
        { before with objects := Function.update before.objects key (some content) }
  | putFailed (key : String) (content : Bytes) (fault : Fault) :
      Change before (.put key content, .error fault) before
  | insert (record : ApplicationRecord) :
      Change before (.insert record, .ok ())
        { before with records := before.records ++ [record] }
  | insertFailed (record : ApplicationRecord) (fault : Fault) :
      Change before (.insert record, .error fault) before
  | delete (key : String) (outcome : Except Fault Unit) (object : Option Bytes)
      (gone : isGone outcome = true → object = none)
      (kept : object = before.objects key ∨ object = none) :
      Change before (.delete key, outcome)
        { before with objects := Function.update before.objects key object }

/-- Whether some calls may, one after the other, change what the stores hold in some way. -/
inductive Changes : Holdings → Trace → Holdings → Prop
  | nil {before : Holdings} : Changes before [] before
  | cons {call : Call × Except Fault Unit} {calls : Trace} {before between after : Holdings}
      (first : Change before call between) (rest : Changes between calls after) :
      Changes before (call :: calls) after

/-- The key of a call, if it is one to the object store. -/
def Call.key? : Call → Option String
  | put key _ => some key
  | insert _ => none
  | delete key => some key

section Change

variable {before after : Holdings} {call : Call × Except Fault Unit} {key : String}

theorem Change.records_eq (change : Change before call after)
    (other : ∀ record, (.insert record, .ok ()) ≠ call) : after.records = before.records := by
  cases change with
  | insert record => exact absurd rfl (other record)
  | put | putFailed | insertFailed | delete => rfl

theorem Change.objects_eq (change : Change before call after)
    (other : call.1.key? ≠ some key) : after.objects key = before.objects key := by
  cases change with
  | putFailed | insert | insertFailed => rfl
  | put changed | delete changed =>
    have ne : key ≠ changed := fun same => other (congrArg some same.symm)
    exact Function.update_of_ne ne _ _

theorem Change.objects_eq_none (change : Change before call after)
    (absent : before.objects key = none) (other : ∀ content, (.put key content, .ok ()) ≠ call) :
    after.objects key = none := by
  by_cases touched : call.1.key? = some key
  · cases change with
    | putFailed | insert | insertFailed => exact absent
    | put changed content =>
      cases touched
      exact absurd rfl (other content)
    | delete changed outcome object _ kept =>
      cases touched
      show Function.update before.objects key object key = none
      rw [Function.update_self]
      exact kept.elim (·.trans absent) id
  · rw [change.objects_eq touched, absent]

end Change

section Changes

variable {calls further : Trace} {before after : Holdings} {key : String}

theorem Changes.split (changes : Changes before (calls ++ further) after) :
    ∃ between, Changes before calls between ∧ Changes between further after := by
  induction calls generalizing before with
  | nil => exact ⟨before, .nil, changes⟩
  | cons call calls inductionHypothesis =>
    cases changes with
    | cons first rest =>
      obtain ⟨between, others, second⟩ := inductionHypothesis rest
      exact ⟨between, .cons first others, second⟩

/-- Only an insert that goes well changes the records. -/
theorem Changes.records_eq (changes : Changes before calls after)
    (others : ∀ record, (.insert record, .ok ()) ∉ calls) : after.records = before.records := by
  induction changes with
  | nil => rfl
  | cons first _ inductionHypothesis =>
    rw [inductionHypothesis fun record member => others record (List.mem_cons_of_mem _ member)]
    exact first.records_eq fun record same => others record (same ▸ List.mem_cons_self)

/-- An object stays as it is if no call has its key. -/
theorem Changes.objects_eq (changes : Changes before calls after)
    (others : ∀ call ∈ calls, call.1.key? ≠ some key) : after.objects key = before.objects key := by
  induction changes with
  | nil => rfl
  | cons first _ inductionHypothesis =>
    obtain ⟨other, others⟩ := List.forall_mem_cons.mp others
    rw [inductionHypothesis others, first.objects_eq other]

/-- A key without an object has none later on, unless one is put there. -/
theorem Changes.objects_eq_none (changes : Changes before calls after)
    (absent : before.objects key = none)
    (others : ∀ content, (.put key content, .ok ()) ∉ calls) : after.objects key = none := by
  induction changes with
  | nil => exact absent
  | cons first _ inductionHypothesis =>
    refine inductionHypothesis (first.objects_eq_none absent fun content same => ?_)
      fun content member => others content (List.mem_cons_of_mem _ member)
    exact others content (same ▸ List.mem_cons_self)

/-- A file that is removed is not there at the end, unless it is stored once more. -/
theorem Changes.objects_eq_none_of_delete {outcome : Except Fault Unit}
    (changes : Changes before (calls ++ (.delete key, outcome) :: further) after)
    (gone : isGone outcome = true)
    (others : ∀ content, (.put key content, .ok ()) ∉ further) : after.objects key = none := by
  obtain ⟨between, -, second⟩ := changes.split
  cases second with
  | cons first rest =>
    cases first with
    | delete _ _ object isNone =>
      exact rest.objects_eq_none ((Function.update_self _ _ _).trans (isNone gone)) others

end Changes

section Stores

variable {stores : Stores σ} {objects : σ → String → Option Bytes}
variable {records : σ → List ApplicationRecord}

/-- What stores that behave hold is changed by the calls of a plan only. -/
theorem changes_of_behave (behave : World.Behave stores objects records) (plan : IngestPlan)
    (state : σ) :
    Changes ⟨objects state, records state⟩ (plan.trace stores state)
      ⟨objects (plan.run stores state).1, records (plan.run stores state).1⟩ := by
  induction plan generalizing state with
  | done result => exact .nil
  | put key content next inductionHypothesis =>
    refine .cons ?_ (inductionHypothesis _ _)
    obtain ⟨recordsAfter, objectsAfter⟩ := behave.put key content state
    rw [recordsAfter, objectsAfter]
    cases (stores.put key content state).2 with
    | ok => exact .put key content
    | error fault => exact .putFailed key content fault
  | insert record next inductionHypothesis =>
    refine .cons ?_ (inductionHypothesis _ _)
    obtain ⟨objectsAfter, recordsAfter⟩ := behave.insert record state
    rw [recordsAfter, objectsAfter]
    cases (stores.insert record state).2 with
    | ok => exact .insert record
    | error fault => exact .insertFailed record fault
  | delete key next inductionHypothesis =>
    refine .cons ?_ (inductionHypothesis _ _)
    obtain ⟨recordsAfter, object, gone, kept, objectsAfter⟩ := behave.delete key state
    rw [recordsAfter, objectsAfter]
    exact .delete key _ object gone kept

end Stores

end IngestPlan

end ApplicationLedger
