/-
This file says what each operation does to a store that no one else uses and that holds a list of
records, whatever dates they have: an insert adds a record unless its id is taken, an update changes
the records with its id and fails if there is none, and a query changes nothing. A query fails if
the engine does not run its statement.
-/

import ApplicationLedger.Proofs.Query.Compile
import ApplicationLedger.Proofs.Store.Limits
import ApplicationLedger.Proofs.Store.Transaction
import ApplicationLedger.Proofs.Table.Entries

namespace ApplicationLedger.RecordStore

/-- A store that was just made, and that no one else uses. -/
def fresh (engine : Engine) (policy : RetryPolicy) (draws : Draws) : RecordStore :=
  ⟨.alone engine .empty, policy, draws⟩

/-- A store that no one else uses and that holds some records. -/
def ofRecords (engine : Engine) (policy : RetryPolicy) (draws : Draws)
    (entries : List ApplicationRecord) : RecordStore :=
  ⟨.alone engine (.ofRecords entries), policy, draws⟩

variable {entries : List ApplicationRecord} {engine : Engine} {policy : RetryPolicy} {draws : Draws}

/-! ### Writing -/

theorem insert_ofRecords_of_new {record : ApplicationRecord}
    (new : ∀ entry ∈ entries, entry.id ≠ record.id) :
    (ofRecords engine policy draws entries).insert record =
      (ofRecords engine policy draws (entries ++ [record]), .ok ()) := by
  refine transact_ok .write ?_
  have unused : (Table.ofRecords entries).hasId (.text record.id) = false := by
    rw [Bool.eq_false_iff, ne_eq, Table.hasId_ofRecords]
    exact fun ⟨entry, member, same⟩ => new entry member same
  rw [Database.insert, if_pos (Database.writes_alone engine), Table.insert_ofRecords, unused]
  rfl

theorem insert_ofRecords_of_mem {record : ApplicationRecord}
    (taken : ∃ entry ∈ entries, entry.id = record.id) :
    (ofRecords engine policy draws entries).insert record =
      (ofRecords engine policy draws entries,
        .error (.database ("Failed to insert application: " ++ TableFault.idTaken.reason))) := by
  refine transact_error .write ?_ rfl
  rw [Database.insert, if_pos (Database.writes_alone engine), Table.insert_ofRecords,
    (Table.hasId_ofRecords entries record.id).mpr taken]
  rfl

/-- A record that the store took is behind the others. -/
theorem eq_of_insert_ok {record : ApplicationRecord} {after : RecordStore}
    (stored : (ofRecords engine policy draws entries).insert record = (after, .ok ())) :
    after = ofRecords engine policy draws (entries ++ [record]) := by
  by_cases taken : ∃ entry ∈ entries, entry.id = record.id
  · rw [insert_ofRecords_of_mem taken] at stored
    cases stored
  · rw [insert_ofRecords_of_new fun entry member same => taken ⟨entry, member, same⟩] at stored
    exact (congrArg Prod.fst stored).symm

/-- A store that refused a record is as it was. -/
theorem eq_of_insert_error {record : ApplicationRecord} {after : RecordStore} {fault : Fault}
    (refused : (ofRecords engine policy draws entries).insert record = (after, .error fault)) :
    after = ofRecords engine policy draws entries := by
  by_cases taken : ∃ entry ∈ entries, entry.id = record.id
  · rw [insert_ofRecords_of_mem taken] at refused
    exact (congrArg Prod.fst refused).symm
  · rw [insert_ofRecords_of_new fun entry member same => taken ⟨entry, member, same⟩] at refused
    cases refused

/-- The records with an id are counted as none only if there is none. -/
theorem length_filter_id_eq_zero (entries : List ApplicationRecord) (id : String) :
    (entries.filter fun entry => entry.id == id).length = 0 ↔
      ¬ ∃ entry ∈ entries, entry.id = id := by
  simp

theorem update_ofRecords_of_mem {id : String} (present : ∃ entry ∈ entries, entry.id = id)
    (fields : ApplicationFields) :
    (ofRecords engine policy draws entries).update id fields =
      (ofRecords engine policy draws (entries.map (.withFields id fields)), .ok ()) := by
  refine transact_ok .write ?_
  have counted := mt (length_filter_id_eq_zero entries id).mp (not_not_intro present)
  rw [updateWork, Database.update, if_pos (Database.writes_alone engine), Table.update_ofRecords]
  exact if_neg counted

theorem update_ofRecords_of_new {id : String} (absent : ¬ ∃ entry ∈ entries, entry.id = id)
    (fields : ApplicationFields) :
    (ofRecords engine policy draws entries).update id fields =
      (ofRecords engine policy draws entries, .error (.notFound ("application " ++ id))) := by
  refine transact_error .write ?_ rfl
  have counted := (length_filter_id_eq_zero entries id).mpr absent
  rw [updateWork, Database.update, if_pos (Database.writes_alone engine), Table.update_ofRecords]
  exact if_pos counted

/-! ### Statements that are run -/

/-- Alone, a statement does not fail if the engine runs it. -/
theorem failure?_eq_none {statement : Statement} {table : Table}
    (runs : engine.Runs statement table) :
    Phase.all.findSome? (Database.failure? (.alone engine) statement table) = none := by
  refine List.findSome?_eq_none_iff.mpr fun phase _ => ?_
  rw [Database.failure?_alone, runs phase]
  rfl

/-- Alone, a statement fails as the engine says if the engine does not run it. -/
theorem exists_failure?_eq_some {statement : Statement} {table : Table}
    (refused : ¬engine.Runs statement table) :
    ∃ phase reason, engine.reason? statement table phase = some reason ∧
      Phase.all.findSome? (Database.failure? (.alone engine) statement table) =
        some (.database (phase.doing ++ ": " ++ reason)) := by
  obtain ⟨fault, failed⟩ : ∃ fault,
      Phase.all.findSome? (Database.failure? (.alone engine) statement table) = some fault := by
    refine Option.isSome_iff_exists.mp (Option.isSome_iff_ne_none.mpr fun silent => refused ?_)
    intro phase
    have quiet := List.findSome?_eq_none_iff.mp silent phase (by cases phase <;> decide)
    rw [Database.failure?_alone] at quiet
    exact Option.map_eq_none_iff.mp quiet
  obtain ⟨phase, ⟨met, _⟩ | ⟨reason, said, rfl⟩⟩ :=
    Database.exists_of_findSome?_failure? failed
  · cases met
  · exact ⟨phase, reason, said, failed⟩

/-! ### Reading -/

theorem query_ok {q : Query} {statement : Statement} {records : List ApplicationRecord}
    (compiled : q.compile = .ok statement)
    (runs : engine.Runs statement (.ofRecords entries))
    (read : (Table.ofRecords entries).records statement = .ok records) :
    (ofRecords engine policy draws entries).query q =
      (ofRecords engine policy draws entries, .ok records) := by
  simp only [query, compiled]
  refine transact_ok .read ?_
  simp only [Database.select, compiled, failure?_eq_none runs, read]

/-- A row that is no record fails the query that reaches it. -/
theorem query_error {q : Query} {statement : Statement} {fault : RowFault}
    (compiled : q.compile = .ok statement)
    (runs : engine.Runs statement (.ofRecords entries))
    (unread : (Table.ofRecords entries).records statement = .error fault) :
    (ofRecords engine policy draws entries).query q =
      (ofRecords engine policy draws entries,
        .error (.database ("Failed to read row: " ++ fault.reason))) := by
  simp only [query, compiled]
  refine transact_error .read ?_ rfl
  simp only [Database.select, compiled, failure?_eq_none runs, unread]

/-- A statement that the engine does not run fails the query, for the reason that the engine gives.
-/
theorem query_refused (policy : RetryPolicy) (draws : Draws) {q : Query} {statement : Statement}
    (compiled : q.compile = .ok statement)
    (refused : ¬engine.Runs statement (.ofRecords entries)) :
    ∃ phase reason, engine.reason? statement (.ofRecords entries) phase = some reason ∧
      (ofRecords engine policy draws entries).query q =
        (ofRecords engine policy draws entries,
          .error (.database (phase.doing ++ ": " ++ reason))) := by
  obtain ⟨phase, reason, said, failed⟩ := exists_failure?_eq_some refused
  refine ⟨phase, reason, said, ?_⟩
  simp only [query, compiled]
  refine transact_error .read ?_ rfl
  simp only [Database.select, compiled, failed]

/-- A query leaves the store as it was, whatever it asks for. -/
theorem query_fst (q : Query) :
    ((ofRecords engine policy draws entries).query q).1 =
      ofRecords engine policy draws entries := by
  cases compiled : q.compile with
  | error fault => simp only [query, compiled]
  | ok statement =>
    by_cases runs : engine.Runs statement (.ofRecords entries)
    · cases read : (Table.ofRecords entries).records statement with
      | ok records => rw [query_ok compiled runs read]
      | error fault => rw [query_error compiled runs read]
    · obtain ⟨_, _, _, failed⟩ := query_refused policy draws compiled runs
      rw [failed]

/-- A query answers with the records of the rows that its statement selects, if the engine runs it.
-/
theorem query_eq_ok_iff {q : Query} {statement : Statement} (compiled : q.compile = .ok statement)
    {records : List ApplicationRecord} :
    ((ofRecords engine policy draws entries).query q).2 = .ok records ↔
      engine.Runs statement (.ofRecords entries) ∧
        (statement.run (entries.map Row.ofRecord)).mapM Row.record = .ok records := by
  change _ ↔ _ ∧ (Table.ofRecords entries).records statement = .ok records
  by_cases runs : engine.Runs statement (.ofRecords entries)
  · rw [and_iff_right runs]
    cases read : (Table.ofRecords entries).records statement with
    | ok found =>
      rw [query_ok compiled runs read]
      exact ⟨fun equal => congrArg _ (Except.ok.inj equal),
        fun equal => congrArg _ (Except.ok.inj equal)⟩
    | error fault =>
      rw [query_error compiled runs read]
      exact iff_of_false nofun nofun
  · obtain ⟨_, _, _, failed⟩ := query_refused policy draws compiled runs
    rw [failed]
    exact iff_of_false nofun fun both => runs both.1

/-- The rows that a statement selects can be read if all records are dated. -/
theorem exists_mapM_record_run (dated : ∀ entry ∈ entries, entry.fields.IsDated)
    (statement : Statement) :
    ∃ records, (statement.run (entries.map Row.ofRecord)).mapM Row.record = .ok records := by
  refine exists_mapM_eq_ok fun row member => ?_
  have selected := (List.mergeSort_perm _ _).mem_iff.mp (Statement.mem_of_mem_page member)
  obtain ⟨entry, inEntries, rfl⟩ := List.mem_map.mp (List.mem_of_mem_filter selected)
  exact ⟨_, Row.record_ofRecord (dated entry inEntries)⟩

/-- A query that the engine runs answers if all records are dated. -/
theorem exists_query_eq_ok (dated : ∀ entry ∈ entries, entry.fields.IsDated) {q : Query}
    {statement : Statement} (compiled : q.compile = .ok statement)
    (runs : engine.Runs statement (.ofRecords entries)) :
    ∃ records, ((ofRecords engine policy draws entries).query q).2 = .ok records := by
  obtain ⟨records, read⟩ := exists_mapM_record_run dated statement
  exact ⟨records, (query_eq_ok_iff compiled).mpr ⟨runs, read⟩⟩

/-- A query without a limit answers with the records that its statement selects, unless one of them
has a year with a sign: then it fails. -/
theorem query_selected (policy : RetryPolicy) (draws : Draws)
    (proper : ∀ entry ∈ entries, entry.fields.dateApplied.IsProper) {q : Query}
    {statement : Statement} (compiled : q.compile = .ok statement)
    (runs : engine.Runs statement (.ofRecords entries)) (unlimited : q.limit ≤ 0) :
    ((ofRecords engine policy draws entries).query q).2 =
      if ∀ entry ∈ statement.selected entries, entry.fields.HasPlainYear then
        .ok ((statement.selected entries).map ApplicationRecord.cut)
      else .error (.database ("Failed to read row: " ++ RowFault.badDate.reason)) := by
  obtain ⟨noLimit, noOffset⟩ := Query.limit_eq_none compiled unlimited
  have read := Table.records_ofRecords proper noLimit noOffset
  by_cases plain : ∀ entry ∈ statement.selected entries, entry.fields.HasPlainYear
  · rw [if_pos plain] at read ⊢
    rw [query_ok compiled runs read]
  · rw [if_neg plain] at read ⊢
    rw [query_error compiled runs read]

/-- A query without predicates and without a limit answers with all records, unless one of them has
a year with a sign: then it fails. -/
theorem query_unfiltered (engine : Engine) (policy : RetryPolicy) (draws : Draws)
    (proper : ∀ entry ∈ entries, entry.fields.dateApplied.IsProper) {q : Query} {column : Column}
    {order : SortOrder} (unfiltered : q.walk = []) (unlimited : q.limit ≤ 0)
    (ordered : q.order = .ok (column, order)) :
    ∃ sorted : List ApplicationRecord, sorted.Perm entries ∧
      ((ofRecords engine policy draws entries).query q).2 =
        if ∀ entry ∈ entries, entry.fields.HasPlainYear then .ok (sorted.map ApplicationRecord.cut)
        else .error (.database ("Failed to read row: " ++ RowFault.badDate.reason)) := by
  have compiled := Query.compile_of_walk_eq_nil unfiltered ordered
  have all := Statement.selected_perm_of_untested
    (s := ⟨none, column, order, q.rowLimit, q.rowOffset⟩) rfl entries
  refine ⟨_, all, ?_⟩
  rw [query_selected policy draws proper compiled (engine.runs_of_unfiltered rfl _) unlimited]
  simp only [all.mem_iff]

end ApplicationLedger.RecordStore
