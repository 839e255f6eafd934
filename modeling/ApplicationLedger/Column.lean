/-
This file names the table of applications and its columns.
-/

namespace ApplicationLedger

/-- A column of the table of applications. -/
inductive Column where
  | id
  | title
  | company
  | description
  | location
  | datePosted
  | url
  | internalId
  | source
  | reposted
  | dateApplied
  | files
  deriving DecidableEq, Repr

namespace Column

/-- The name of the table. -/
def table : String := "job_application"

/-- The name of a column. -/
def name : Column → String
  | id => "id"
  | title => "title"
  | company => "company"
  | description => "description"
  | location => "location"
  | datePosted => "date_posted"
  | url => "url"
  | internalId => "internal_id"
  | source => "source"
  | reposted => "reposted"
  | dateApplied => "date_applied"
  | files => "files"

/-- All columns, in the order of the table. -/
def all : List Column :=
  [id, title, company, description, location, datePosted, url, internalId, source, reposted,
    dateApplied, files]

/-- The column of a name. -/
def ofName? (text : String) : Option Column :=
  all.find? (·.name == text)

/-- The column that orders the rows when a query names none. -/
def defaultSort : Column := dateApplied

/-- Every column is found by its name. -/
theorem ofName?_name (column : Column) : ofName? column.name = some column := by
  cases column <;> decide

end Column

end ApplicationLedger
