/-
This file proves that rows hold records. The columns of a table change nothing of the row of a
record, and the row reads back as the record, with its date cut to milliseconds: an optional text
that is empty has no value and is empty again, a truth value is a number and true again, and the
keys of the files come back from their JSON text.
-/

import ApplicationLedger.Proofs.Instant.Text
import ApplicationLedger.Proofs.Json.Values
import ApplicationLedger.Table.Basic

namespace ApplicationLedger

/-! ### What rows keep of records -/

/-- The fields with the date cut to milliseconds. -/
def ApplicationFields.cut (f : ApplicationFields) : ApplicationFields :=
  { f with dateApplied := f.dateApplied.cut }

/-- The record with the date cut to milliseconds. -/
def ApplicationRecord.cut (r : ApplicationRecord) : ApplicationRecord :=
  { r with fields := r.fields.cut }

/-- Whether the date of application is one of a clock, in a year of four digits. -/
structure ApplicationFields.IsDated (f : ApplicationFields) : Prop where
  proper : f.dateApplied.IsProper
  least : 0 ≤ f.dateApplied.date.year
  greatest : f.dateApplied.date.year ≤ 9999

/-- Whether the year of the date of application has four digits and no sign. -/
def ApplicationFields.HasPlainYear (f : ApplicationFields) : Prop :=
  0 ≤ f.dateApplied.date.year ∧ f.dateApplied.date.year ≤ 9999

instance (f : ApplicationFields) : Decidable f.HasPlainYear := instDecidableAnd

theorem ApplicationFields.IsDated.plain {f : ApplicationFields} (dated : f.IsDated) :
    f.HasPlainYear := ⟨dated.least, dated.greatest⟩

namespace Row

/-! ### Writing -/

theorem ofOptionalText_cases (value : String) :
    Cell.ofOptionalText value = .null ∧ value = "" ∨
      Cell.ofOptionalText value = .text value := by
  unfold Cell.ofOptionalText
  split
  · rename_i isEmpty
    exact .inl ⟨rfl, String.isEmpty_iff.mp isEmpty⟩
  · exact .inr rfl

theorem held_ofOptionalText {column : Column} (textual : column.isNumeric = false)
    (value : String) : (Cell.ofOptionalText value).held column = .ofOptionalText value := by
  rcases ofOptionalText_cases value with ⟨cell, _⟩ | cell <;> simp [cell, Cell.held, textual]

/-- The columns hold the row of a record as it is. -/
theorem held_ofRecord (r : ApplicationRecord) :
    (fun column => (ofRecord r column).held column) = ofRecord r := by
  funext column
  cases column with
  | id | title | dateApplied | files | reposted => rfl
  | company | description | location | datePosted | url | internalId | source =>
    exact held_ofOptionalText rfl _

/-- The row of a record with other fields is the row of that record. -/
theorem withFields_ofRecord (f : ApplicationFields) (r : ApplicationRecord) :
    withFields f (ofRecord r) = ofRecord { r with fields := f } := by
  funext column
  cases column <;> rfl

/-! ### Reading -/

section Reading

variable {row : Row}

theorem text_eq {column : Column} {value : String} (cell : row column = .text value) :
    text row column = .ok value := by
  rw [text, cell]

theorem optionalText_eq {column : Column} {value : String}
    (cell : row column = .ofOptionalText value) : optionalText row column = .ok value := by
  rw [optionalText, cell]
  rcases ofOptionalText_cases value with ⟨isNull, empty⟩ | isText
  · rw [isNull, empty]
  · rw [isText]

theorem boolean_eq {column : Column} {value : Bool} (cell : row column = .ofBool value) :
    boolean row column = .ok value := by
  rw [boolean, cell]
  cases value <;> rfl

theorem dateApplied_eq {t : Instant} (cell : row .dateApplied = .ofInstant t)
    (proper : t.IsProper) (least : 0 ≤ t.date.year) (greatest : t.date.year ≤ 9999) :
    dateApplied row = .ok t.cut := by
  simp only [dateApplied, text_eq cell, bind, Except.bind,
    Instant.ofCellText?_millisecondText proper least greatest]

theorem files_eq {keys : List String} (cell : row .files = .ofFiles keys) :
    files row = .ok keys := by
  simp only [files, text_eq cell, bind, Except.bind, Json.ofText_strings]

end Reading

/-- The row of a record reads back as the record, with its date cut to milliseconds. -/
theorem record_ofRecord {r : ApplicationRecord} (dated : r.fields.IsDated) :
    record (ofRecord r) = .ok r.cut := by
  have date : dateApplied (ofRecord r) = .ok r.fields.dateApplied.cut :=
    dateApplied_eq rfl dated.proper dated.least dated.greatest
  have files : files (ofRecord r) = .ok r.files := files_eq rfl
  have id : text (ofRecord r) .id = .ok r.id := text_eq rfl
  have title : text (ofRecord r) .title = .ok r.fields.title := text_eq rfl
  have company : optionalText (ofRecord r) .company = .ok r.fields.company := optionalText_eq rfl
  have description : optionalText (ofRecord r) .description = .ok r.fields.description :=
    optionalText_eq rfl
  have location : optionalText (ofRecord r) .location = .ok r.fields.location :=
    optionalText_eq rfl
  have datePosted : optionalText (ofRecord r) .datePosted = .ok r.fields.datePosted :=
    optionalText_eq rfl
  have url : optionalText (ofRecord r) .url = .ok r.fields.url := optionalText_eq rfl
  have internalId : optionalText (ofRecord r) .internalId = .ok r.fields.internalId :=
    optionalText_eq rfl
  have source : optionalText (ofRecord r) .source = .ok r.fields.source := optionalText_eq rfl
  have reposted : boolean (ofRecord r) .reposted = .ok r.fields.reposted := boolean_eq rfl
  rw [record, date, files, id, title, company, description, location, datePosted, url, internalId,
    source, reposted]
  rfl

/-- The row of a record whose year needs a sign is no record. -/
theorem record_ofRecord_eq_error {r : ApplicationRecord} (long : ¬r.fields.HasPlainYear) :
    record (ofRecord r) = .error .badDate := by
  have cell : text (ofRecord r) .dateApplied = .ok r.fields.dateApplied.millisecondText :=
    text_eq rfl
  have date : dateApplied (ofRecord r) = .error .badDate := by
    simp only [dateApplied, cell, bind, Except.bind, Instant.ofCellText?_eq_none long]
  rw [record, date]
  rfl

end Row

end ApplicationLedger
