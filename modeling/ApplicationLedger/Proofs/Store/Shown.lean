/-
This file says which records queries show. A query without a limit that succeeds shows the records
of the map whose rows pass its test. A query with a single predicate asks one test of one column.
As long as all dates can be read back, such a query succeeds if the engine runs its statement, and
every engine does unless the pattern is too long; a record whose date cannot be read back is shown
by no query.
-/

import Mathlib.Data.Set.Basic
import ApplicationLedger.Proofs.Store.Ledger
import ApplicationLedger.Proofs.Table.Test

namespace ApplicationLedger

/-! ### Records that are shown -/

/-- The records of a map as answers show them, with their dates cut to milliseconds. -/
def Ledger.shown (m : Ledger) : Set ApplicationRecord :=
  {record | ∃ fields files, m record.id = some (fields, files) ∧
    record = ⟨record.id, fields.cut, files⟩}

/-- The records in the answer of a query, none if it fails. -/
def RecordStore.shown (s : RecordStore) (q : Query) : Set ApplicationRecord :=
  {record | ∃ records, (s.query q).2 = .ok records ∧ record ∈ records}

section Shown

variable {m : Ledger} {entries : List ApplicationRecord} {engine : Engine}
  {policy : RetryPolicy} {draws : Draws}
  {record : ApplicationRecord}

theorem Ledger.HasRecords.mem_shown_iff (has : m.HasRecords entries) :
    record ∈ m.shown ↔ ∃ entry ∈ entries, record = entry.cut := by
  constructor
  · rintro ⟨fields, files, stored, equal⟩
    exact ⟨⟨record.id, fields, files⟩, (has.mem _ _ _).mpr stored, equal⟩
  · rintro ⟨entry, member, rfl⟩
    exact ⟨entry.fields, entry.files, (has.mem _ _ _).mp member, rfl⟩

/-- Two records of a map are the same if they are shown as the same. -/
theorem Ledger.HasRecords.eq_of_cut_eq (has : m.HasRecords entries)
    {entry other : ApplicationRecord} (member : entry ∈ entries) (member' : other ∈ entries)
    (same : entry.cut = other.cut) :
    entry = other := by
  have sameId : entry.cut.id = other.cut.id := congrArg ApplicationRecord.id same
  exact List.inj_on_of_nodup_map has.nodup member member' sameId

/-- A query without a limit shows the records whose rows pass its test, if their years are plain. -/
theorem RecordStore.mem_shown_iff
    (proper : ∀ entry ∈ entries, entry.fields.dateApplied.IsProper) {q : Query}
    {statement : Statement} (compiled : q.compile = .ok statement)
    (runs : engine.Runs statement (.ofRecords entries)) (unlimited : q.limit ≤ 0) :
    record ∈ (ofRecords engine policy draws entries).shown q ↔
      (∀ entry ∈ statement.selected entries, entry.fields.HasPlainYear) ∧
        ∃ entry ∈ statement.selected entries, record = entry.cut := by
  have answer := query_selected policy draws proper compiled runs unlimited
  constructor
  · rintro ⟨records, ended, member⟩
    rw [answer] at ended
    split at ended
    · rename_i plain
      cases ended
      obtain ⟨entry, selected, rfl⟩ := List.mem_map.mp member
      exact ⟨plain, entry, selected, rfl⟩
    · cases ended
  · rintro ⟨plain, entry, selected, rfl⟩
    rw [if_pos plain] at answer
    exact ⟨_, answer, List.mem_map_of_mem selected⟩

end Shown

/-! ### Queries with one predicate -/

/-- The query for the records with which an operator holds of one column and a value. -/
def Query.asking (column : Column) (operator : Operator) (value : String) : Query :=
  { Query.everything with
    filter := some (.mk
      [⟨column.name, operator, if operator.isNullCheck then none else some value⟩] [] .and) }

namespace Query

/-- The statement of a query with one predicate. -/
def statementAsking (column : Column) (operator : Operator) (value : String) : Statement :=
  ⟨some (.group .and [.test column (operator.test value)]), .dateApplied, .descending, none, none⟩

theorem compile_asking (column : Column) {operator : Operator} (notLike : operator ≠ .like)
    (value : String) :
    (asking column operator value).compile = .ok (statementAsking column operator value) := by
  have given : ((if operator.isNullCheck then none else some value).isNone &&
      !operator.isNullCheck) = false := by
    cases operator <;> rfl
  have sameTest : operator.test ((if operator.isNullCheck then none else some value).getD "") =
      operator.test value := by
    cases operator <;> rfl
  have compiled : Predicate.compileAll
      [⟨column.name, operator, if operator.isNullCheck then none else some value⟩] =
        .ok [.test column (operator.test value)] := by
    rw [Predicate.compileAll, Predicate.compile_of_name column given notLike, sameTest]
    rfl
  refine compile_predicates (fun p member => ?_) compiled
  rw [List.mem_singleton.mp member]
  exact Predicate.check_of_name column given

/-- Every engine runs the statement of a query with one predicate if its pattern is not too long. -/
theorem runs_asking (engine : Engine) (column : Column) {operator : Operator} {value : String}
    (short : ∀ pattern ∈ (operator.test value).pattern?,
      pattern.utf8ByteSize ≤ Statement.longestPattern) (table : Table) :
    engine.Runs (statementAsking column operator value) table := by
  refine fun phase => engine.runs _ _ phase ⟨?_, ?_, fun pattern member => short pattern ?_⟩
  · have depth : (statementAsking column operator value).depth = (operator.test value).depth := rfl
    rw [depth]
    cases operator <;> exact Nat.le_of_ble_eq_true rfl
  · rw [Statement.length_parameters]
    cases operator <;> exact Nat.le_of_ble_eq_true rfl
  · have patterns : (statementAsking column operator value).patterns =
        (operator.test value).pattern?.toList ++ [] := rfl
    rwa [patterns, List.append_nil, Option.mem_toList] at member

/-- Every engine runs a comparison. -/
theorem runs_comparing (engine : Engine) (column : Column) (comparison : Comparison)
    (value : String) (table : Table) :
    engine.Runs (statementAsking column (.compare comparison) value) table :=
  runs_asking engine column (by rintro _ ⟨⟩) table

theorem selects_asking (column : Column) (operator : Operator) (value : String) (row : Row) :
    (statementAsking column operator value).selects row = true ↔
      operator.Passes value column (row column) := by
  have whole (truth : Truth) : truth.and (some true) = truth := by
    rcases truth with _ | _ | _ <;> rfl
  show ((Truth.and ((operator.test value).holds column (row column)) (some true)) == some true) =
    true ↔ _
  rw [whole, beq_iff_eq]
  rfl

end Query

/-- Whether the engine looks for a part in a column, whatever the length of the part. -/
def Engine.LooksFor (engine : Engine) (column : Column) (part : String) (table : Table) : Prop :=
  ∀ operator ∈ [Operator.contains, .notContains],
    engine.Runs (Query.statementAsking column operator part) table

/-- Every engine looks for a part that is not too long. -/
theorem Engine.looksFor_of_short (engine : Engine) (column : Column) {part : String}
    (short : (Text.containing part).utf8ByteSize ≤ Statement.longestPattern) (table : Table) :
    engine.LooksFor column part table := by
  intro operator member
  simp only [List.mem_cons, List.not_mem_nil, or_false] at member
  rcases member with rfl | rfl <;>
    exact Query.runs_asking engine column (by rintro _ ⟨⟩; exact short) table

/-- Then it runs all statements with one predicate. -/
theorem Engine.LooksFor.runs {engine : Engine} {column : Column} {value : String} {table : Table}
    (looks : engine.LooksFor column value table) {operator : Operator}
    (notLike : operator ≠ .like) :
    engine.Runs (Query.statementAsking column operator value) table := by
  cases operator with
  | like => exact absurd rfl notLike
  | contains => exact looks _ (by decide)
  | notContains => exact looks _ (by decide)
  | compare comparison => exact Query.runs_comparing engine column comparison value table
  | isEmpty => exact Query.runs_asking engine column (by rintro _ ⟨⟩) table
  | isNotEmpty => exact Query.runs_asking engine column (by rintro _ ⟨⟩) table

namespace RecordStore

variable {m : Ledger} {entries : List ApplicationRecord} {engine : Engine}
  {policy : RetryPolicy} {draws : Draws}

/-- If all records are dated, a query with one predicate shows those that pass its test. -/
theorem cut_mem_shown_asking_iff (policy : RetryPolicy) (draws : Draws) (has : m.HasRecords entries)
    (dated : ∀ entry ∈ entries, entry.fields.IsDated) {column : Column} {operator : Operator}
    (notLike : operator ≠ .like) {value : String}
    (runs : engine.Runs (Query.statementAsking column operator value) (.ofRecords entries))
    {entry : ApplicationRecord} (member : entry ∈ entries) :
    entry.cut ∈ (ofRecords engine policy draws entries).shown (.asking column operator value) ↔
      operator.Passes value column (Row.ofRecord entry column) := by
  have compiled := Query.compile_asking column notLike value
  rw [mem_shown_iff (fun entry member => (dated entry member).proper) compiled runs (Int.le_refl 0),
    ← Query.selects_asking]
  constructor
  · rintro ⟨_, other, selected, same⟩
    obtain ⟨member', passes⟩ := Statement.mem_selected.mp selected
    rwa [has.eq_of_cut_eq member member' same]
  · intro passes
    exact ⟨fun other selected => (dated other (Statement.mem_selected.mp selected).1).plain,
      entry, Statement.mem_selected.mpr ⟨member, passes⟩, rfl⟩

/-- Whatever a query asks, it shows records with plain years only. -/
theorem exists_of_mem_shown_asking
    (proper : ∀ entry ∈ entries, entry.fields.dateApplied.IsProper) {column : Column}
    {operator : Operator} (notLike : operator ≠ .like) {value : String}
    {record : ApplicationRecord}
    (shown : record ∈ (ofRecords engine policy draws entries).shown
      (.asking column operator value)) :
    ∃ entry ∈ entries, record = entry.cut ∧ entry.fields.HasPlainYear := by
  have compiled := Query.compile_asking column notLike value
  by_cases runs :
      engine.Runs (Query.statementAsking column operator value) (.ofRecords entries)
  · obtain ⟨plain, entry, selected, equal⟩ :=
      (mem_shown_iff proper compiled runs (Int.le_refl 0)).mp shown
    exact ⟨entry, (Statement.mem_selected.mp selected).1, equal, plain entry selected⟩
  · obtain ⟨_, answer, _⟩ := shown
    obtain ⟨_, _, _, failed⟩ := query_refused policy draws compiled runs
    rw [failed] at answer
    cases answer

/-- What a query with one predicate shows, if all records are dated. -/
theorem shown_asking (policy : RetryPolicy) (draws : Draws) (has : m.HasRecords entries)
    (dated : ∀ entry ∈ entries, entry.fields.IsDated) {column : Column} {operator : Operator}
    (notLike : operator ≠ .like) {value : String}
    (runs : engine.Runs (Query.statementAsking column operator value) (.ofRecords entries)) :
    (ofRecords engine policy draws entries).shown (.asking column operator value) =
      {record | ∃ entry ∈ entries, record = entry.cut ∧
        operator.Passes value column (Row.ofRecord entry column)} := by
  have shown_iff {entry : ApplicationRecord} (member : entry ∈ entries) :=
    cut_mem_shown_asking_iff policy draws has dated notLike runs member
  ext record
  constructor
  · intro shown
    obtain ⟨entry, member, rfl, _⟩ := exists_of_mem_shown_asking
      (fun entry member => (dated entry member).proper) notLike shown
    exact ⟨entry, member, rfl, (shown_iff member).mp shown⟩
  · rintro ⟨entry, member, rfl, passes⟩
    exact (shown_iff member).mpr passes

/-- If passing the test means something for what is shown, the query shows the records that it holds
of. -/
theorem shown_asking_eq_sep (policy : RetryPolicy) (draws : Draws) (has : m.HasRecords entries)
    (dated : ∀ entry ∈ entries, entry.fields.IsDated) {column : Column} {operator : Operator}
    (notLike : operator ≠ .like) {value : String}
    (runs : engine.Runs (Query.statementAsking column operator value) (.ofRecords entries))
    {holds : ApplicationRecord → Prop}
    (passes_iff : ∀ entry : ApplicationRecord,
      operator.Passes value column (Row.ofRecord entry column) ↔ holds entry.cut) :
    (ofRecords engine policy draws entries).shown (.asking column operator value) =
      {record ∈ m.shown | holds record} := by
  rw [shown_asking policy draws has dated notLike runs]
  ext record
  constructor
  · rintro ⟨entry, member, rfl, passes⟩
    exact ⟨has.mem_shown_iff.mpr ⟨entry, member, rfl⟩, (passes_iff entry).mp passes⟩
  · rintro ⟨inMap, isSo⟩
    obtain ⟨entry, member, rfl⟩ := has.mem_shown_iff.mp inMap
    exact ⟨entry, member, rfl, (passes_iff entry).mpr isSo⟩

end RecordStore

end ApplicationLedger
