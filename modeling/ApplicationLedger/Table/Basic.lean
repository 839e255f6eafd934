/-
This file holds the table of applications. It relates rows to records: optional texts that are empty
have no value, the date applied is cut to milliseconds, and the keys of the files are written as a
JSON array. Rows that were not written by this program may read back as no record.
-/

import ApplicationLedger.Record
import ApplicationLedger.Table.Selection

namespace ApplicationLedger

/-! ### Rows and records -/

/-- Why a row is no record. -/
inductive RowFault where
  /-- A value of another kind than the column has. -/
  | wrongKind (column : Column) (kind : String)
  /-- A date that is none. -/
  | badDate
  /-- A list of files that is none. -/
  | badFiles
  deriving DecidableEq, Repr

namespace RowFault

/-- The fault in words. Columns are counted from zero. -/
def reason : RowFault → String
  | wrongKind column kind =>
    "Invalid column type " ++ kind ++ " at index: " ++ toString (Column.all.idxOf column) ++
      ", name: " ++ column.name
  | badDate => "Conversion error from type Text at index: 10, <bad timestamp>"
  | badFiles => "Conversion error from type Text at index: 11, <json>"

end RowFault

/-- An optional text in a cell: no value if it is empty. -/
def Cell.ofOptionalText (value : String) : Cell :=
  if value.isEmpty then .null else .text value

/-- A truth value in a cell. -/
def Cell.ofBool (value : Bool) : Cell := .number (.integer (if value then 1 else 0))

/-- A date and time in a cell. -/
def Cell.ofInstant (value : Instant) : Cell := .text value.millisecondText

/-- The keys of files in a cell. -/
def Cell.ofFiles (files : List String) : Cell :=
  .text (Json.compact (.array (files.map .string)))

namespace Row

/-- The row with the fields of an application in place of its own. -/
def withFields (f : ApplicationFields) (row : Row) : Row
  | .id => row .id
  | .title => .text f.title
  | .company => .ofOptionalText f.company
  | .description => .ofOptionalText f.description
  | .location => .ofOptionalText f.location
  | .datePosted => .ofOptionalText f.datePosted
  | .url => .ofOptionalText f.url
  | .internalId => .ofOptionalText f.internalId
  | .source => .ofOptionalText f.source
  | .reposted => .ofBool f.reposted
  | .dateApplied => .ofInstant f.dateApplied
  | .files => row .files

/-- The row of a record. -/
def ofRecord (r : ApplicationRecord) : Row :=
  withFields r.fields fun
    | .id => .text r.id
    | .files => .ofFiles r.files
    | _ => .null

/-- The text in a column. -/
def text (row : Row) (column : Column) : Except RowFault String :=
  match row column with
  | .text value => .ok value
  | other => .error (.wrongKind column other.kind)

/-- The text in a column, empty if there is no value. -/
def optionalText (row : Row) (column : Column) : Except RowFault String :=
  match row column with
  | .null => .ok ""
  | .text value => .ok value
  | other => .error (.wrongKind column other.kind)

/-- The truth value in a column: every number but zero is true. -/
def boolean (row : Row) (column : Column) : Except RowFault Bool :=
  match row column with
  | .number (.integer value) => .ok (value != 0)
  | other => .error (.wrongKind column other.kind)

/-- The date and time in its column. -/
def dateApplied (row : Row) : Except RowFault Instant := do
  match Instant.ofCellText? (← text row .dateApplied) with
  | some value => .ok value
  | none => .error .badDate

/-- The keys in their column. -/
def files (row : Row) : Except RowFault (List String) := do
  match Decoder.ofText (Decoder.list Decoder.text) (← text row .files) with
  | .ok value => .ok value
  | .error _ => .error .badFiles

/-- The record of a row. The date and the files are read first. -/
def record (row : Row) : Except RowFault ApplicationRecord := do
  let dateApplied ← dateApplied row
  let files ← files row
  let id ← text row .id
  let title ← text row .title
  let company ← optionalText row .company
  let description ← optionalText row .description
  let location ← optionalText row .location
  let datePosted ← optionalText row .datePosted
  let url ← optionalText row .url
  let internalId ← optionalText row .internalId
  let source ← optionalText row .source
  let reposted ← boolean row .reposted
  .ok ⟨id, ⟨title, company, description, location, datePosted, url, internalId, source, reposted,
    dateApplied⟩, files⟩

end Row

/-! ### The table -/

/-- The rows, in the order they were added. -/
structure Table where
  rows : List Row

/-- Why a row cannot be added. -/
inductive TableFault where
  /-- There is a row with this id. -/
  | idTaken
  /-- A column has no value that has to have one. -/
  | valueMissing (column : Column)
  deriving DecidableEq, Repr

/-- The fault in words. -/
def TableFault.reason : TableFault → String
  | idTaken => "UNIQUE constraint failed: " ++ Column.table ++ "." ++ Column.id.name
  | valueMissing column =>
    "NOT NULL constraint failed: " ++ Column.table ++ "." ++ column.name

namespace Table

/-- The table without rows. -/
def empty : Table := ⟨[]⟩

/-- Whether a row has an id. Missing ids are different from each other. -/
def hasId (t : Table) (id : Cell) : Bool :=
  id != .null && t.rows.any fun row => row .id == id

/-- The table with one more row, as its columns hold it. -/
def insert (t : Table) (row : Row) : Except TableFault Table :=
  let held : Row := fun column => (row column).held column
  match Column.all.find? fun column => column.isRequired && held column == .null with
  | some column => .error (.valueMissing column)
  | none => if t.hasId (held .id) then .error .idTaken else .ok ⟨t.rows ++ [held]⟩

/-- The table with the fields of an application changed, and the number of rows with that id. -/
def update (t : Table) (id : String) (fields : ApplicationFields) : Table × Nat :=
  (⟨t.rows.map fun row => if row .id = .text id then row.withFields fields else row⟩,
    (t.rows.filter fun row => row .id == .text id).length)

/-- The records that a statement selects, up to the first row that is none. -/
def records (t : Table) (s : Statement) : Except RowFault (List ApplicationRecord) :=
  (s.run t.rows).mapM Row.record

/-- All rows, by their ids. -/
def rowsById (t : Table) : List Row :=
  t.rows.mergeSort fun a b => ((a .id).compare (b .id)).isLE

end Table

end ApplicationLedger
