/-
This file lets many ingests run side by side. Their plans share an object store and a record store
without any lock, and take their single steps in any order; every step may fail, and the fields of
committed records may change in between. To carry out one plan over stores is a special case: it
takes such steps, and no other ingest takes part.
-/

import Mathlib.Logic.Function.Basic
import Mathlib.Logic.Relation
import ApplicationLedger.Bytes.Uuid
import ApplicationLedger.Ingest.Trial
import ApplicationLedger.Proofs.Record

namespace ApplicationLedger

/-! ### Steps of many ingests -/

/-- What an ingest is given. -/
structure Submission where
  id : Uuid
  fields : ApplicationFields
  time : Instant
  files : List SubmittedFile

/-- The plan of a submission. -/
def Submission.plan (s : Submission) : IngestPlan :=
  .ingest s.id.text s.fields s.time s.files

/-- The two stores, and for each ingest what is left of its plan and which keys it has written. -/
structure World (ι : Type) where
  objects : String → Option Bytes
  records : List ApplicationRecord
  plan : ι → IngestPlan
  written : ι → List String

namespace World

variable {ι : Type}

/-- Empty stores, and no ingest has begun. -/
def start (submissions : ι → Submission) : World ι :=
  ⟨fun _ => none, [], fun i => (submissions i).plan, fun _ => []⟩

variable [DecidableEq ι]

/-- The world after the next step of one ingest has ended in some way. -/
def after (w : World ι) (i : ι) (plan : IngestPlan) : World ι :=
  { w with plan := Function.update w.plan i plan }

/-- One step of one ingest, or a change of a record. The object store is a map from keys to bytes: a
put that fails changes nothing, and a key that was deleted or not found is not there; a delete that
fails otherwise may have been carried out or not. An insert that fails stores nothing. -/
inductive Step : World ι → World ι → Prop
  | put {w : World ι} {i : ι} {key : String} {content : Bytes}
      {next : Except Fault Unit → IngestPlan} (planned : w.plan i = .put key content next) :
      Step w { w.after i (next (.ok ())) with
        objects := Function.update w.objects key (some content)
        written := Function.update w.written i (w.written i ++ [key]) }
  | putFailed {w : World ι} {i : ι} {key : String} {content : Bytes}
      {next : Except Fault Unit → IngestPlan} (fault : Fault)
      (planned : w.plan i = .put key content next) :
      Step w (w.after i (next (.error fault)))
  | insert {w : World ι} {i : ι} {record : ApplicationRecord}
      {next : Except Fault Unit → IngestPlan} (planned : w.plan i = .insert record next) :
      Step w { w.after i (next (.ok ())) with records := w.records ++ [record] }
  | insertFailed {w : World ι} {i : ι} {record : ApplicationRecord}
      {next : Except Fault Unit → IngestPlan} (fault : Fault)
      (planned : w.plan i = .insert record next) :
      Step w (w.after i (next (.error fault)))
  | delete {w : World ι} {i : ι} {key : String} {next : Except Fault Unit → IngestPlan}
      (result : Except Fault Unit) (object : Option Bytes)
      (gone : IngestPlan.isGone result = true → object = none)
      (kept : object = w.objects key ∨ object = none) (planned : w.plan i = .delete key next) :
      Step w { w.after i (next result) with objects := Function.update w.objects key object }
  | change {w : World ι} (id : String) (fields : ApplicationFields) :
      Step w { w with records := w.records.map (ApplicationRecord.withFields id fields) }

/-- The worlds that some submissions can come to, whatever the order of steps and whichever fail. -/
def Reachable (submissions : ι → Submission) (w : World ι) : Prop :=
  Relation.ReflTransGen Step (start submissions) w

/-! ### Plans that are carried out -/

/-- Whether stores over some state behave as a step does, seen as a map of objects and a list of
records. -/
structure Behave {σ : Type} (stores : IngestPlan.Stores σ) (objects : σ → String → Option Bytes)
    (records : σ → List ApplicationRecord) : Prop where
  put : ∀ key content state, records (stores.put key content state).1 = records state ∧
    objects (stores.put key content state).1 =
      match (stores.put key content state).2 with
      | .ok () => Function.update (objects state) key (some content)
      | .error _ => objects state
  insert : ∀ record state, objects (stores.insert record state).1 = objects state ∧
    records (stores.insert record state).1 =
      match (stores.insert record state).2 with
      | .ok () => records state ++ [record]
      | .error _ => records state
  delete : ∀ key state, records (stores.delete key state).1 = records state ∧
    ∃ object, (IngestPlan.isGone (stores.delete key state).2 = true → object = none) ∧
      (object = objects state key ∨ object = none) ∧
      objects (stores.delete key state).1 = Function.update (objects state) key object

/-- Whether steps lead from a world to one in which the stores are in some state and an ingest has
come to some plan, while no other ingest has taken part. -/
structure LeadTo {σ : Type} (objects : σ → String → Option Bytes)
    (records : σ → List ApplicationRecord) (i : ι) (plan : IngestPlan) (state : σ)
    (w w' : World ι) : Prop where
  steps : Relation.ReflTransGen Step w w'
  plan : w'.plan i = plan
  objects : w'.objects = objects state
  records : w'.records = records state
  others : ∀ j, j ≠ i → w'.plan j = w.plan j

section Carried

variable {σ : Type} {stores : IngestPlan.Stores σ}
variable {objects : σ → String → Option Bytes} {records : σ → List ApplicationRecord}
variable {i : ι} {state state' : σ} {w : World ι} {next : Except Fault Unit → IngestPlan}

theorem LeadTo.trans {plan plan' : IngestPlan} {w' w'' : World ι}
    (first : LeadTo objects records i plan state w w')
    (second : LeadTo objects records i plan' state' w' w'') :
    LeadTo objects records i plan' state' w w'' where
  steps := first.steps.trans second.steps
  plan := second.plan
  objects := second.objects
  records := second.records
  others j other := (second.others j other).trans (first.others j other)

theorem Behave.put_leadTo (behave : Behave stores objects records) {key : String} {content : Bytes}
    (start : LeadTo objects records i (.put key content next) state w w) :
    ∃ w', LeadTo objects records i (next (stores.put key content state).2)
      (stores.put key content state).1 w w' := by
  obtain ⟨recordsAfter, objectsAfter⟩ := behave.put key content state
  rw [← start.records] at recordsAfter
  rw [← start.objects] at objectsAfter
  have others (plan : IngestPlan) (j : ι) (other : j ≠ i) :
      Function.update w.plan i plan j = w.plan j := Function.update_of_ne other _ _
  cases result : (stores.put key content state).2 with
  | ok =>
    rw [result] at objectsAfter
    exact ⟨_, .single (.put start.plan), Function.update_self _ _ _, objectsAfter.symm,
      recordsAfter.symm, others _⟩
  | error fault =>
    rw [result] at objectsAfter
    exact ⟨_, .single (.putFailed fault start.plan), Function.update_self _ _ _,
      objectsAfter.symm, recordsAfter.symm, others _⟩

theorem Behave.insert_leadTo (behave : Behave stores objects records) {record : ApplicationRecord}
    (start : LeadTo objects records i (.insert record next) state w w) :
    ∃ w', LeadTo objects records i (next (stores.insert record state).2)
      (stores.insert record state).1 w w' := by
  obtain ⟨objectsAfter, recordsAfter⟩ := behave.insert record state
  rw [← start.records] at recordsAfter
  rw [← start.objects] at objectsAfter
  have others (plan : IngestPlan) (j : ι) (other : j ≠ i) :
      Function.update w.plan i plan j = w.plan j := Function.update_of_ne other _ _
  cases result : (stores.insert record state).2 with
  | ok =>
    rw [result] at recordsAfter
    exact ⟨_, .single (.insert start.plan), Function.update_self _ _ _, objectsAfter.symm,
      recordsAfter.symm, others _⟩
  | error fault =>
    rw [result] at recordsAfter
    exact ⟨_, .single (.insertFailed fault start.plan), Function.update_self _ _ _,
      objectsAfter.symm, recordsAfter.symm, others _⟩

theorem Behave.delete_leadTo (behave : Behave stores objects records) {key : String}
    (start : LeadTo objects records i (.delete key next) state w w) :
    ∃ w', LeadTo objects records i (next (stores.delete key state).2)
      (stores.delete key state).1 w w' := by
  obtain ⟨recordsAfter, object, gone, kept, objectsAfter⟩ := behave.delete key state
  rw [← start.records] at recordsAfter
  rw [← start.objects] at objectsAfter kept
  exact ⟨_, .single (.delete _ object gone kept start.plan), Function.update_self _ _ _,
    objectsAfter.symm, recordsAfter.symm, fun j other => Function.update_of_ne other _ _⟩

theorem LeadTo.arrived {plan : IngestPlan} {w' : World ι}
    (arrived : LeadTo objects records i plan state w w') :
    LeadTo objects records i plan state w' w' :=
  ⟨.refl, arrived.plan, arrived.objects, arrived.records, fun _ _ => rfl⟩

/-- To carry out a plan over stores that behave is to take steps until it has ended. -/
theorem Behave.leadTo_run (behave : Behave stores objects records) (plan : IngestPlan)
    (start : LeadTo objects records i plan state w w) :
    ∃ w', LeadTo objects records i (.done (plan.run stores state).2) (plan.run stores state).1
      w w' := by
  induction plan generalizing state w with
  | done result => exact ⟨w, start⟩
  | put key content next inductionHypothesis =>
    obtain ⟨w', first⟩ := behave.put_leadTo start
    obtain ⟨w'', rest⟩ := inductionHypothesis _ first.arrived
    exact ⟨w'', first.trans rest⟩
  | insert record next inductionHypothesis =>
    obtain ⟨w', first⟩ := behave.insert_leadTo start
    obtain ⟨w'', rest⟩ := inductionHypothesis _ first.arrived
    exact ⟨w'', first.trans rest⟩
  | delete key next inductionHypothesis =>
    obtain ⟨w', first⟩ := behave.delete_leadTo start
    obtain ⟨w'', rest⟩ := inductionHypothesis _ first.arrived
    exact ⟨w'', first.trans rest⟩

end Carried

end World

/-! ### Stores that fail on purpose -/

namespace Objects

/-- The objects as a map. -/
def toMap (objects : Objects) : String → Option Bytes := fun key => objects.lookup key

theorem toMap_cons (key : String) (content : Bytes) (objects : Objects) :
    toMap ((key, content) :: objects) = Function.update objects.toMap key (some content) := by
  funext k
  rw [Function.update_apply, toMap, List.lookup_cons]
  by_cases same : k = key
  · rw [if_pos same, same, beq_self_eq_true]
  · rw [if_neg same, beq_false_of_ne same, toMap]

/-- The object under a key is found no more once it is removed, and all others are. -/
theorem toMap_without (objects : Objects) (key : String) :
    (objects.without key).toMap = Function.update objects.toMap key none := by
  induction objects with
  | nil => exact (Function.update_eq_self key _).symm
  | cons object rest inductionHypothesis =>
    obtain ⟨stored, content⟩ := object
    unfold without at inductionHypothesis ⊢
    by_cases same : stored = key
    · rw [List.filter_cons_of_neg (by simp [same]), inductionHypothesis, toMap_cons, same,
        Function.update_idem]
    · rw [List.filter_cons_of_pos (by simp [same]), toMap_cons, toMap_cons, inductionHypothesis,
        Function.update_comm same]

end Objects

/-- The stores of a trial behave, if no files disappear from them. -/
theorem Trial.behave (trouble : Trouble) (unswept : trouble.swept = []) :
    World.Behave (Trial.stores trouble) (fun t => t.objects.toMap) Trial.records where
  put key content t := by
    unfold stores put
    dsimp only
    split
    · exact ⟨rfl, rfl⟩
    · refine ⟨rfl, ?_⟩
      rw [Objects.toMap_cons, Objects.toMap_without, Function.update_idem]
  insert record t := by
    have same : sweep trouble record t.objects = t.objects := by rw [sweep, unswept]; rfl
    unfold stores insert
    dsimp only
    rw [same]
    split <;> exact ⟨rfl, rfl⟩
  delete key t := by
    unfold stores delete
    dsimp only
    split
    · exact ⟨rfl, t.objects.toMap key, nofun, .inl rfl, (Function.update_eq_self _ _).symm⟩
    · split
      · exact ⟨rfl, none, fun _ => rfl, .inr rfl, t.objects.toMap_without key⟩
      · rename_i absent
        have unfound : t.objects.toMap key = none := Option.not_isSome_iff_eq_none.mp absent
        refine ⟨rfl, none, fun _ => rfl, .inr rfl, ?_⟩
        rw [← unfound, Function.update_eq_self]

end ApplicationLedger
