/-
This file proves that the store of records is a map from ids to fields and files. Calls change the
map as they should: an insert adds a record under a free id, an update replaces the fields of a
record, and nothing else changes anything. Whatever calls came before, the answers are those of the
map, and a query for everything shows each of its records once, with the date cut to milliseconds.

The table holds the records of the map in some order. The invariant names this list of records, and
the rows of the table are their rows.
-/

import Mathlib.Data.List.Nodup
import Mathlib.Logic.Function.Basic
import ApplicationLedger.Proofs.Query.Compile
import ApplicationLedger.Proofs.Store.Records

namespace ApplicationLedger

/-! ### The map -/

/-- A call of the store. -/
inductive StoreCall where
  | insert (record : ApplicationRecord)
  | update (id : String) (fields : ApplicationFields)
  | query (query : Query)

/-- Whether the date of application that a call writes is one of a clock, in a year of four digits.
-/
def StoreCall.IsDated : StoreCall → Prop
  | insert record => record.fields.IsDated
  | update _ fields => fields.IsDated
  | query _ => True

/-- Whether something holds of the fields that a call writes, if it writes any. -/
def StoreCall.Writes (holds : ApplicationFields → Prop) : StoreCall → Prop
  | insert record => holds record.fields
  | update _ fields => holds fields
  | query _ => True

theorem StoreCall.IsDated.writes {call : StoreCall} (dated : call.IsDated) :
    call.Writes ApplicationFields.IsDated := by
  cases call <;> exact dated

/-- The fields and the files that were last written under each id. -/
abbrev Ledger := String → Option (ApplicationFields × List String)

namespace Ledger

/-- Nothing was written. -/
def empty : Ledger := fun _ => none

/-- The map after a call. Only an insert with a free id and an update of an id that is there change
anything. -/
def after (m : Ledger) : StoreCall → Ledger
  | .insert record =>
    match m record.id with
    | none => Function.update m record.id (some (record.fields, record.files))
    | some _ => m
  | .update id fields =>
    match m id with
    | none => m
    | some (_, files) => Function.update m id (some (fields, files))
  | .query _ => m

/-- The map after some calls. -/
def ofCalls (calls : List StoreCall) : Ledger := calls.foldl after empty

section Changes

variable {m : Ledger}

theorem after_insert_of_free {record : ApplicationRecord} (free : m record.id = none) :
    m.after (.insert record) =
      Function.update m record.id (some (record.fields, record.files)) := by
  rw [after, free]

theorem after_insert_of_taken {record : ApplicationRecord} (taken : m record.id ≠ none) :
    m.after (.insert record) = m := by
  obtain ⟨entry, stored⟩ := Option.ne_none_iff_exists'.mp taken
  rw [after, stored]

theorem after_update_of_present {id : String} {fields old : ApplicationFields}
    {files : List String} (present : m id = some (old, files)) :
    m.after (.update id fields) = Function.update m id (some (fields, files)) := by
  rw [after, present]

theorem after_update_of_absent {id : String} (absent : m id = none) (fields : ApplicationFields) :
    m.after (.update id fields) = m := by
  rw [after, absent]

theorem after_update_of_ne {id other : String} (different : other ≠ id)
    (fields : ApplicationFields) : m.after (.update id fields) other = m other := by
  cases stored : m id with
  | none => rw [after_update_of_absent stored]
  | some entry => rw [after_update_of_present stored, Function.update_of_ne different]

end Changes

/-! ### Fields of the map -/

section Fields

variable {m : Ledger} {holds : ApplicationFields → Prop}

/-- Whether something holds of all fields of a map. -/
def All (m : Ledger) (holds : ApplicationFields → Prop) : Prop :=
  ∀ id fields files, m id = some (fields, files) → holds fields

theorem All.update (all : m.All holds) (id : String) {fields : ApplicationFields}
    (new : holds fields) (files : List String) :
    Ledger.All (Function.update m id (some (fields, files))) holds := by
  intro other f keys stored
  by_cases same : other = id
  · subst same
    rw [Function.update_self] at stored
    cases stored
    exact new
  · rw [Function.update_of_ne same] at stored
    exact all other f keys stored

theorem All.after (all : m.All holds) {call : StoreCall} (writes : call.Writes holds) :
    (m.after call).All holds := by
  cases call with
  | insert record =>
    by_cases free : m record.id = none
    · rw [after_insert_of_free free]
      exact all.update _ writes _
    · rw [after_insert_of_taken free]
      exact all
  | update id fields =>
    cases stored : m id with
    | none =>
      rw [after_update_of_absent stored]
      exact all
    | some entry =>
      rw [after_update_of_present stored]
      exact all.update _ writes _
  | query q => exact all

/-- What holds of all fields that calls write holds of those that are there after them. -/
theorem all_ofCalls (calls : List StoreCall) (writes : ∀ call ∈ calls, call.Writes holds) :
    (ofCalls calls).All holds := by
  have run (m : Ledger) (all : m.All holds) : Ledger.All (calls.foldl Ledger.after m) holds := by
    induction calls generalizing m with
    | nil => exact all
    | cons call rest inductionHypothesis =>
      exact inductionHypothesis
        (fun other member => writes other (List.mem_cons_of_mem call member)) _
        (all.after (writes call List.mem_cons_self))
  exact run empty nofun

end Fields

/-! ### Records of the map -/

/-- Whether some records are those of a map, each of them once. -/
structure HasRecords (m : Ledger) (entries : List ApplicationRecord) : Prop where
  nodup : (entries.map ApplicationRecord.id).Nodup
  mem : ∀ id fields files, ⟨id, fields, files⟩ ∈ entries ↔ m id = some (fields, files)

/-- Whether some records are those of a map, each of them once, and all of them dated. -/
structure IsListedBy (m : Ledger) (entries : List ApplicationRecord) : Prop
    extends m.HasRecords entries where
  dated : ∀ record ∈ entries, record.fields.IsDated

variable {m : Ledger} {entries : List ApplicationRecord}

theorem hasRecords_empty : empty.HasRecords [] where
  nodup := .nil
  mem _ _ _ := ⟨nofun, nofun⟩

/-- What holds of all fields of a map holds of those of its records. -/
theorem HasRecords.forall_mem (has : m.HasRecords entries) {holds : ApplicationFields → Prop}
    (all : m.All holds) : ∀ entry ∈ entries, holds entry.fields :=
  fun entry member => all entry.id entry.fields entry.files ((has.mem _ _ _).mp member)

/-- An id is in the map if a record has it. -/
theorem HasRecords.present_iff (has : m.HasRecords entries) (id : String) :
    (∃ entry ∈ entries, entry.id = id) ↔ m id ≠ none := by
  constructor
  · rintro ⟨entry, member, rfl⟩ absent
    cases absent.symm.trans ((has.mem _ _ _).mp member)
  · intro present
    obtain ⟨⟨fields, files⟩, stored⟩ := Option.ne_none_iff_exists'.mp present
    exact ⟨⟨id, fields, files⟩, (has.mem _ _ _).mpr stored, rfl⟩

/-- A record with a free id is one more. -/
theorem HasRecords.insert (has : m.HasRecords entries) {record : ApplicationRecord}
    (free : m record.id = none) :
    (m.after (.insert record)).HasRecords (entries ++ [record]) := by
  have new : ∀ entry ∈ entries, entry.id ≠ record.id := fun entry member same =>
    (has.present_iff record.id).mp ⟨entry, member, same⟩ free
  rw [after_insert_of_free free]
  refine ⟨?_, fun id fields files => ?_⟩
  · rw [List.map_append, List.nodup_append]
    refine ⟨has.nodup, List.nodup_singleton _, ?_⟩
    rintro _ inEntries _ inRecord rfl
    obtain ⟨entry, member, same⟩ := List.mem_map.mp inEntries
    exact new entry member (same.trans (List.mem_singleton.mp inRecord))
  · rw [List.mem_append, List.mem_singleton, has.mem]
    by_cases same : id = record.id
    · subst same
      rw [Function.update_self, free]
      constructor
      · rintro (absent | equal)
        · cases absent
        · exact congrArg (fun r : ApplicationRecord => some (r.fields, r.files)) equal.symm
      · rintro ⟨⟩
        exact .inr rfl
    · rw [Function.update_of_ne same]
      refine or_iff_left ?_
      rintro rfl
      exact same rfl

theorem ids_withFields (id : String) (fields : ApplicationFields)
    (entries : List ApplicationRecord) :
    (entries.map (.withFields id fields)).map ApplicationRecord.id =
      entries.map ApplicationRecord.id := by
  rw [List.map_map]
  exact List.map_congr_left fun entry _ => entry.withFields_id id fields

/-- A record with other fields takes the place of the one with its id. -/
theorem HasRecords.update (has : m.HasRecords entries) (id : String)
    (fields : ApplicationFields) :
    (m.after (.update id fields)).HasRecords (entries.map (.withFields id fields)) := by
  refine ⟨ids_withFields id fields entries ▸ has.nodup, fun other f files => ?_⟩
  by_cases same : other = id
  · subst same
    have same : (ApplicationRecord.mk other f files).id = other := rfl
    rw [ApplicationRecord.mem_map_withFields_of_eq same]
    simp only [has.mem]
    cases stored : m other with
    | none =>
      rw [after_update_of_absent stored, stored]
      exact iff_of_false (fun ⟨_, _, absent⟩ => nomatch absent) nofun
    | some entry =>
      obtain ⟨old, keys⟩ := entry
      rw [after_update_of_present stored, Function.update_self]
      constructor
      · rintro ⟨rfl, _, ⟨⟩⟩
        rfl
      · rintro ⟨⟩
        exact ⟨rfl, old, rfl⟩
  · rw [ApplicationRecord.mem_map_withFields_of_ne same, has.mem, after_update_of_ne same]

end Ledger

/-! ### The calls of a store -/

namespace RecordStore

/-- The store after a call, however the call ended. -/
def after (s : RecordStore) : StoreCall → RecordStore
  | .insert record => (s.insert record).1
  | .update id fields => (s.update id fields).1
  | .query q => (s.query q).1

/-- The store after some calls, from a new one on. -/
def ofCalls (engine : Engine) (policy : RetryPolicy) (draws : Draws) (calls : List StoreCall) :
    RecordStore :=
  calls.foldl after (fresh engine policy draws)

section Calls

variable {m : Ledger} {entries : List ApplicationRecord} {engine : Engine}
  {policy : RetryPolicy} {draws : Draws}

theorem insert_of_free (has : m.HasRecords entries) {record : ApplicationRecord}
    (free : m record.id = none) :
    (ofRecords engine policy draws entries).insert record =
      (ofRecords engine policy draws (entries ++ [record]), .ok ()) :=
  insert_ofRecords_of_new fun entry member same =>
    (has.present_iff record.id).mp ⟨entry, member, same⟩ free

theorem insert_of_taken (has : m.HasRecords entries) {record : ApplicationRecord}
    (taken : m record.id ≠ none) :
    (ofRecords engine policy draws entries).insert record =
      (ofRecords engine policy draws entries,
        .error (.database ("Failed to insert application: " ++ TableFault.idTaken.reason))) :=
  insert_ofRecords_of_mem ((has.present_iff record.id).mpr taken)

theorem update_of_present (has : m.HasRecords entries) {id : String} (present : m id ≠ none)
    (fields : ApplicationFields) :
    (ofRecords engine policy draws entries).update id fields =
      (ofRecords engine policy draws (entries.map (.withFields id fields)), .ok ()) :=
  update_ofRecords_of_mem ((has.present_iff id).mpr present) fields

theorem update_of_absent (has : m.HasRecords entries) {id : String} (absent : m id = none)
    (fields : ApplicationFields) :
    (ofRecords engine policy draws entries).update id fields =
      (ofRecords engine policy draws entries, .error (.notFound ("application " ++ id))) :=
  update_ofRecords_of_new (fun present => (has.present_iff id).mp present absent) fields

variable (engine policy draws)

/-- A query without predicates and without a limit answers with all records. -/
theorem query_everything (listed : m.IsListedBy entries) {q : Query} {column : Column}
    {order : SortOrder} (unfiltered : q.walk = []) (unlimited : q.limit ≤ 0)
    (ordered : q.order = .ok (column, order)) :
    ∃ sorted : List ApplicationRecord, sorted.Perm entries ∧
      ((ofRecords engine policy draws entries).query q).2 =
        .ok (sorted.map ApplicationRecord.cut) := by
  obtain ⟨sorted, perm, answer⟩ := query_unfiltered engine policy draws
    (fun entry member => (listed.dated entry member).proper) unfiltered unlimited ordered
  rw [if_pos fun entry member => (listed.dated entry member).plain] at answer
  exact ⟨sorted, perm, answer⟩

/-! ### Runs -/

/-- After one more call, a store holds the records of the map after that call. -/
theorem exists_after_eq (has : m.HasRecords entries) (call : StoreCall) :
    ∃ entries', (ofRecords engine policy draws entries).after call =
        ofRecords engine policy draws entries' ∧
      (m.after call).HasRecords entries' := by
  cases call with
  | insert record =>
    by_cases free : m record.id = none
    · exact ⟨_, congrArg Prod.fst (insert_of_free has free), has.insert free⟩
    · rw [Ledger.after_insert_of_taken free]
      exact ⟨_, congrArg Prod.fst (insert_of_taken has free), has⟩
  | update id fields =>
    by_cases absent : m id = none
    · rw [Ledger.after_update_of_absent absent]
      exact ⟨_, congrArg Prod.fst (update_of_absent has absent fields), has⟩
    · exact ⟨_, congrArg Prod.fst (update_of_present has absent fields), has.update id fields⟩
  | query q => exact ⟨entries, query_fst q, has⟩

/-- After any calls, a store holds the records of the map after those calls. -/
theorem exists_ofCalls_eq (calls : List StoreCall) :
    ∃ entries, ofCalls engine policy draws calls = ofRecords engine policy draws entries ∧
      (Ledger.ofCalls calls).HasRecords entries := by
  have run (m : Ledger) (entries : List ApplicationRecord) (has : m.HasRecords entries) :
      ∃ entries', calls.foldl after (ofRecords engine policy draws entries) =
          ofRecords engine policy draws entries' ∧
        (calls.foldl Ledger.after m).HasRecords entries' := by
    induction calls generalizing m entries with
    | nil => exact ⟨entries, rfl, has⟩
    | cons call rest inductionHypothesis =>
      obtain ⟨next, state, has'⟩ := exists_after_eq engine policy draws has call
      rw [List.foldl_cons, List.foldl_cons, state]
      exact inductionHypothesis _ next has'
  exact run _ _ Ledger.hasRecords_empty

end Calls

/-- Whatever calls came before, a store answers as the map does. An insert succeeds if the id is
free, and fails in the database otherwise; an update succeeds if the id is there, and finds nothing
otherwise; a query for everything shows each record of the map once. -/
theorem answers_as_ledger (engine : Engine) (policy : RetryPolicy) (draws : Draws)
    (calls : List StoreCall) (dated : ∀ call ∈ calls, call.IsDated) :
    (∀ record, ((ofCalls engine policy draws calls).insert record).2 =
        if Ledger.ofCalls calls record.id = none then .ok ()
        else .error (.database ("Failed to insert application: " ++ TableFault.idTaken.reason))) ∧
      (∀ id fields, ((ofCalls engine policy draws calls).update id fields).2 =
        if Ledger.ofCalls calls id = none then .error (.notFound ("application " ++ id))
        else .ok ()) ∧
      ∀ q column order, q.walk = [] → q.limit ≤ 0 → q.order = .ok (column, order) →
        ∃ records, ((ofCalls engine policy draws calls).query q).2 = .ok records ∧
          (records.map ApplicationRecord.id).Nodup ∧
          ∀ record, record ∈ records ↔ ∃ fields files,
            Ledger.ofCalls calls record.id = some (fields, files) ∧
              record = ⟨record.id, fields.cut, files⟩ := by
  obtain ⟨entries, reached, has⟩ := exists_ofCalls_eq engine policy draws calls
  have listed : (Ledger.ofCalls calls).IsListedBy entries :=
    ⟨has, has.forall_mem (Ledger.all_ofCalls calls fun call member => (dated call member).writes)⟩
  rw [reached]
  refine ⟨fun record => ?_, fun id fields => ?_,
    fun q column order unfiltered unlimited ordered => ?_⟩
  · split
    · rename_i free
      rw [insert_of_free has free]
    · rename_i taken
      rw [insert_of_taken has taken]
  · split
    · rename_i absent
      rw [update_of_absent has absent]
    · rename_i present
      rw [update_of_present has present]
  · obtain ⟨sorted, perm, answer⟩ :=
      query_everything engine policy draws listed unfiltered unlimited ordered
    refine ⟨_, answer, ?_, fun record => ?_⟩
    · rw [List.map_map]
      exact (perm.map _).nodup_iff.mpr listed.nodup
    · rw [List.mem_map]
      constructor
      · rintro ⟨entry, member, rfl⟩
        have stored := (listed.mem _ _ _).mp (perm.mem_iff.mp member)
        exact ⟨entry.fields, entry.files, stored, rfl⟩
      · rintro ⟨fields, files, stored, equal⟩
        have member := (listed.mem _ _ _).mpr stored
        exact ⟨_, perm.mem_iff.mpr member, equal.symm⟩

/-- The fields of an application to a company at the start of 2026, with a part of a millisecond. -/
def fieldsAt (company : String) : ApplicationFields :=
  ⟨"Engineer", company, "", "", "", "", "", "", true, ⟨1767225600, 123456789⟩⟩

/-- An insert and an update of the same record, with other calls around that change nothing. -/
def sixCalls : List StoreCall :=
  [.update "a" (fieldsAt "early"), .insert ⟨"a", fieldsAt "old", ["a \"quoted\" name.pdf"]⟩,
    .query .everything, .insert ⟨"a", fieldsAt "again", []⟩, .update "a" (fieldsAt "new"),
    .update "b" (fieldsAt "nobody")]

theorem answers_as_ledger_sixCalls :
    ((ofCalls .bundled .standard [] sixCalls).insert ⟨"a", fieldsAt "late", []⟩).2 =
        .error (.database ("Failed to insert application: " ++ TableFault.idTaken.reason)) ∧
      ((ofCalls .bundled .standard [] sixCalls).update "b" (fieldsAt "nobody")).2 =
        .error (.notFound "application b") ∧
      ∃ records, ((ofCalls .bundled .standard [] sixCalls).query .everything).2 = .ok records ∧
        (records.map ApplicationRecord.id).Nodup ∧
        ⟨"a", { fieldsAt "new" with dateApplied := ⟨1767225600, 123000000⟩ },
          ["a \"quoted\" name.pdf"]⟩ ∈ records := by
  have fields (company : String) : (fieldsAt company).IsDated :=
    ⟨.inl (by decide : 123456789 < 1000000000),
      (by decide : 0 ≤ (Instant.date ⟨1767225600, 123456789⟩).year),
      (by decide : (Instant.date ⟨1767225600, 123456789⟩).year ≤ 9999)⟩
  have dated : ∀ call ∈ sixCalls, call.IsDated := by
    intro call member
    simp only [sixCalls, List.mem_cons, List.not_mem_nil, or_false] at member
    rcases member with rfl | rfl | rfl | rfl | rfl | rfl
    · exact fields _
    · exact fields _
    · exact trivial
    · exact fields _
    · exact fields _
    · exact fields _
  obtain ⟨inserts, updates, queries⟩ := answers_as_ledger .bundled .standard [] sixCalls dated
  refine ⟨inserts _, updates _ _, ?_⟩
  obtain ⟨records, answer, nodup, shown⟩ :=
    queries .everything .dateApplied .descending rfl (Int.le_refl 0) rfl
  exact ⟨records, answer, nodup, (shown _).mpr ⟨fieldsAt "new", _, rfl, rfl⟩⟩

end RecordStore

end ApplicationLedger
