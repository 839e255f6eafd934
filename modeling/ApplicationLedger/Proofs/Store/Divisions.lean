/-
This file proves that the queries with one predicate divide the records of a store. For every column
and every value, each record is shown by exactly one of the queries for those that compare as less,
as equal and as greater and for those without a value, and likewise for a part that is found, one
that is not, and a missing value. If the part is not too long for the engine, this is so exactly as
long as all dates can be read back: a record with a signed year is selected by one of the queries,
and makes it fail.
-/

import ApplicationLedger.Proofs.Store.Pages
import ApplicationLedger.Proofs.Store.Shown

namespace ApplicationLedger

/-! ### Texts of records -/

/-- The columns of texts that may be missing. -/
def Column.optionalTexts : List Column :=
  [.company, .description, .location, .datePosted, .url, .internalId, .source]

/-- The text of the fields in a column, empty for a column that is not for one of their texts. -/
def ApplicationFields.textIn (f : ApplicationFields) : Column → String
  | .title => f.title
  | .company => f.company
  | .description => f.description
  | .location => f.location
  | .datePosted => f.datePosted
  | .url => f.url
  | .internalId => f.internalId
  | .source => f.source
  | .id | .reposted | .dateApplied | .files => ""

theorem Row.ofRecord_optionalText {column : Column} (optional : column ∈ Column.optionalTexts)
    (r : ApplicationRecord) : ofRecord r column = .ofOptionalText (r.fields.textIn column) := by
  simp only [Column.optionalTexts, List.mem_cons, List.not_mem_nil, or_false] at optional
  rcases optional with rfl | rfl | rfl | rfl | rfl | rfl | rfl <;> rfl

theorem Cell.ofOptionalText_eq_null_iff (text : String) :
    ofOptionalText text = .null ↔ text = "" := by
  rcases Row.ofOptionalText_cases text with ⟨missing, empty⟩ | present
  · exact iff_of_true missing empty
  · rw [present]
    refine iff_of_false nofun ?_
    rintro rfl
    cases present

theorem ApplicationFields.textIn_cut (f : ApplicationFields) (column : Column) :
    f.cut.textIn column = f.textIn column := by
  cases column <;> rfl

namespace RecordStore

/-! ### Divisions -/

/-- Whether exactly one of the queries with some operators, on one column and value, shows a record.
-/
def IsShownByOne (s : RecordStore) (column : Column) (value : String) (operators : List Operator)
    (record : ApplicationRecord) : Prop :=
  ∃! operator, operator ∈ operators ∧ record ∈ s.shown (.asking column operator value)

/-- Whether the queries on one column and value divide the records of a map. -/
structure Divides (s : RecordStore) (m : Ledger) (column : Column) (value : String) : Prop where
  answers : ∀ operator ≠ .like, ∃ records,
    (s.query (.asking column operator value)).2 = .ok records
  byOrder : ∀ record ∈ m.shown, s.IsShownByOne column value Operator.byOrder record
  byPart : ∀ record ∈ m.shown, s.IsShownByOne column value Operator.byPart record
  lessOrEqual : s.shown (.asking column (.compare .lessOrEqual) value) =
    s.shown (.asking column (.compare .less) value) ∪
      s.shown (.asking column (.compare .equal) value)
  greaterOrEqual : s.shown (.asking column (.compare .greaterOrEqual) value) =
    s.shown (.asking column (.compare .greater) value) ∪
      s.shown (.asking column (.compare .equal) value)
  notEqual : s.shown (.asking column (.compare .notEqual) value) =
    s.shown (.asking column (.compare .less) value) ∪
      s.shown (.asking column (.compare .greater) value)
  isEmpty : column ∈ Column.optionalTexts →
    s.shown (.asking column .isEmpty value) =
      {record ∈ m.shown | record.fields.textIn column = ""}

section Divisions

variable {m : Ledger} {entries : List ApplicationRecord} {engine : Engine}
  {policy : RetryPolicy} {draws : Draws}

theorem isShownByOne_cut_iff (has : m.HasRecords entries)
    (dated : ∀ entry ∈ entries, entry.fields.IsDated) {column : Column} {value : String}
    (runs : ∀ operator ≠ .like,
      engine.Runs (Query.statementAsking column operator value) (.ofRecords entries))
    {operators : List Operator} (notLike : .like ∉ operators) {entry : ApplicationRecord}
    (member : entry ∈ entries) :
    (ofRecords engine policy draws entries).IsShownByOne column value operators entry.cut ↔
      ∃! operator, operator ∈ operators ∧
        operator.Passes value column (Row.ofRecord entry column) :=
  existsUnique_congr fun _ => and_congr_right fun inOperators =>
    have asked := ne_of_mem_of_not_mem inOperators notLike
    cut_mem_shown_asking_iff policy draws has dated asked (runs _ asked) member

/-- If all records are dated, the queries divide them. -/
theorem divides_of_dated (has : m.HasRecords entries)
    (dated : ∀ entry ∈ entries, entry.fields.IsDated) {column : Column} {value : String}
    (runs : ∀ operator ≠ .like,
      engine.Runs (Query.statementAsking column operator value) (.ofRecords entries)) :
    (ofRecords engine policy draws entries).Divides m column value := by
  have notLike (comparison : Comparison) : Operator.compare comparison ≠ .like := nofun
  have shown (comparison : Comparison) :=
    shown_asking policy draws has dated (notLike comparison) (runs _ (notLike comparison))
  have wider (cell : Cell) := Operator.passes_wider_iff value column cell
  refine ⟨fun _ notLike => exists_query_eq_ok dated (Query.compile_asking column notLike value)
      (runs _ notLike),
    fun record inMap => ?_, fun record inMap => ?_, ?_, ?_, ?_, fun optional => ?_⟩
  · obtain ⟨entry, member, rfl⟩ := has.mem_shown_iff.mp inMap
    exact (isShownByOne_cut_iff has dated runs (by decide) member).mpr
      (Operator.existsUnique_byOrder value column _)
  · obtain ⟨entry, member, rfl⟩ := has.mem_shown_iff.mp inMap
    exact (isShownByOne_cut_iff has dated runs (by decide) member).mpr
      (Operator.existsUnique_byPart value column _)
  · ext record
    simp only [shown, wider, Set.mem_union, Set.mem_ofPred_eq, and_or_left, exists_or]
  · ext record
    simp only [shown, wider, Set.mem_union, Set.mem_ofPred_eq, and_or_left, exists_or]
  · ext record
    simp only [shown, wider, Set.mem_union, Set.mem_ofPred_eq, and_or_left, exists_or]
  · have notLike : Operator.isEmpty ≠ .like := nofun
    refine shown_asking_eq_sep policy draws has dated notLike (runs _ notLike) fun entry => ?_
    rw [Operator.passes_isEmpty_iff, Row.ofRecord_optionalText optional,
      Cell.ofOptionalText_eq_null_iff]
    exact iff_of_eq (congrArg (· = "") (entry.fields.textIn_cut column).symm)

/-- If the queries divide the records, each of these is shown, and so has a plain year. -/
theorem all_plain_of_divides (has : m.HasRecords entries)
    (proper : ∀ entry ∈ entries, entry.fields.dateApplied.IsProper) {column : Column}
    {value : String} (divides : (ofRecords engine policy draws entries).Divides m column value) :
    m.All ApplicationFields.HasPlainYear := by
  intro id fields files stored
  obtain ⟨operator, ⟨inOperators, shown⟩, _⟩ :=
    divides.byOrder ⟨id, fields.cut, files⟩ ⟨fields, files, stored, rfl⟩
  have notLike : .like ∉ Operator.byOrder := by decide
  obtain ⟨entry, member, same, plain⟩ :=
    exists_of_mem_shown_asking proper (ne_of_mem_of_not_mem inOperators notLike) shown
  have found : ApplicationRecord.mk id fields files ∈ entries := (has.mem _ _ _).mpr stored
  rwa [← has.eq_of_cut_eq found member same] at plain

end Divisions

/-- Whatever was written, the queries on a column and a value divide the records if and only if all
years are plain, as long as the engine looks for the value whatever its length. -/
theorem divides_iff_plain (engine : Engine) (policy : RetryPolicy) (draws : Draws)
    (calls : List StoreCall)
    (proper : ∀ call ∈ calls, call.Writes fun fields => fields.dateApplied.IsProper)
    (column : Column) (value : String)
    (looks : engine.LooksFor column value (ofCalls engine policy draws calls).database.table) :
    (ofCalls engine policy draws calls).Divides (Ledger.ofCalls calls) column value ↔
      (Ledger.ofCalls calls).All ApplicationFields.HasPlainYear := by
  obtain ⟨entries, reached, has⟩ := exists_ofCalls_eq engine policy draws calls
  have proper := has.forall_mem (Ledger.all_ofCalls calls proper)
  rw [reached] at looks ⊢
  constructor
  · exact all_plain_of_divides has proper
  · intro plain
    have plain := has.forall_mem plain
    exact divides_of_dated has
      (fun entry member => ⟨proper entry member, (plain entry member).1, (plain entry member).2⟩)
      fun _ notLike => looks.runs notLike

/-- An application in the year 12000. -/
def farRecord : ApplicationRecord :=
  ⟨"a", { fieldsAt "Acme" with dateApplied := ⟨316516204800, 0⟩ }, []⟩

theorem writes_farRecord : ∀ call ∈ [StoreCall.insert farRecord],
    call.Writes fun fields => fields.dateApplied.IsProper := by
  intro call member
  rw [List.mem_singleton.mp member]
  exact .inl (by decide : 0 < 1000000000)

theorem not_plain_farRecord :
    ¬(Ledger.ofCalls [.insert farRecord]).All ApplicationFields.HasPlainYear := fun plain =>
  absurd (plain "a" farRecord.fields [] rfl) (by decide)

/-- A record of 2026 is shown by one query each; one of the year 12000 is lost to all of them. -/
theorem divides_iff_plain_twoDates :
    (ofCalls .bundled .standard [] [.insert (applicationTo "Acme" "a")]).Divides
        (Ledger.ofCalls [.insert (applicationTo "Acme" "a")]) .company "M" ∧
      ¬(ofCalls .bundled .standard [] [.insert farRecord]).Divides
        (Ledger.ofCalls [.insert farRecord]) .company "M" := by
  have dated := isDated_applicationTo "Acme" "a"
  have writes {holds : ApplicationFields → Prop}
      (new : holds (applicationTo "Acme" "a").fields) :
      ∀ call ∈ [StoreCall.insert (applicationTo "Acme" "a")], call.Writes holds := by
    intro call member
    rw [List.mem_singleton.mp member]
    exact new
  have looks (table : Table) : Engine.bundled.LooksFor .company "M" table :=
    Engine.looksFor_of_short _ .company (by decide) table
  refine ⟨(divides_iff_plain .bundled .standard [] _ (writes dated.proper) .company "M"
    (looks _)).mpr (Ledger.all_ofCalls _ (writes dated.plain)), ?_⟩
  rw [divides_iff_plain .bundled .standard [] _ writes_farRecord .company "M" (looks _)]
  exact not_plain_farRecord

/-- So one record can be missing from all of the queries. -/
theorem not_forall_divides :
    ¬ ∀ (engine : Engine) (policy : RetryPolicy) (draws : Draws) (calls : List StoreCall),
      (∀ call ∈ calls, call.Writes fun fields => fields.dateApplied.IsProper) →
      ∀ (column : Column) (value : String),
        engine.LooksFor column value (ofCalls engine policy draws calls).database.table →
        (ofCalls engine policy draws calls).Divides (Ledger.ofCalls calls) column value := by
  intro divides
  obtain ⟨entries, reached, has⟩ := exists_ofCalls_eq .bundled .standard [] [.insert farRecord]
  have divided := divides .bundled .standard [] _ writes_farRecord .title "M"
    (Engine.looksFor_of_short _ .title (by decide) _)
  rw [reached] at divided
  exact not_plain_farRecord (all_plain_of_divides has
    (has.forall_mem (Ledger.all_ofCalls _ writes_farRecord)) divided)

end RecordStore

end ApplicationLedger
