/-
This file says which rows a statement selects and in what order. A test on a missing value is
neither true nor false, and a condition is evaluated with three truth values; a row is selected if
it is true. A statement leaves open in which order rows come that are equal in the column of its
order; here they come by their ids.
-/

import ApplicationLedger.Table.Cell

namespace ApplicationLedger

/-- A row of the table. -/
abbrev Row := Column → Cell

/-! ### Three truth values -/

/-- True, false, or neither of them. -/
abbrev Truth := Option Bool

namespace Truth

/-- False if one is false, true if both are true. -/
def and : Truth → Truth → Truth
  | some false, _ => some false
  | _, some false => some false
  | some true, some true => some true
  | _, _ => none

/-- True if one is true, false if both are false. -/
def or : Truth → Truth → Truth
  | some true, _ => some true
  | _, some true => some true
  | some false, some false => some false
  | _, _ => none

/-- Joins two by a combinator. -/
def join : Combinator → Truth → Truth → Truth
  | .and => and
  | .or => or

/-- What a combinator makes of nothing. -/
def unit : Combinator → Truth
  | .and => some true
  | .or => some false

end Truth

/-! ### Conditions -/

/-- Whether a comparison holds of two values in a given order. -/
def Comparison.holds : Comparison → Ordering → Bool
  | equal, order => order == .eq
  | notEqual, order => order != .eq
  | less, order => order == .lt
  | greater, order => order == .gt
  | lessOrEqual, order => order != .gt
  | greaterOrEqual, order => order != .lt

namespace Test

/-- Whether the value of a column compares in some way with a parameter. -/
def compares (column : Column) (comparison : Comparison) (parameter : Parameter) (cell : Cell) :
    Truth :=
  match cell with
  | .null => none
  | cell => some (comparison.holds (cell.compare (.ofParameter column parameter)))

/-- Whether a value matches a pattern, in which a backslash may escape. -/
def isLike (escape : Option Char) (pattern : String) (cell : Cell) : Truth :=
  cell.matchedText?.map (Text.isLike escape pattern)

/-- Whether a test holds of the value of a column. -/
def holds (column : Column) (cell : Cell) : Test → Truth
  | compare comparison operand => compares column comparison operand.parameter cell
  | like pattern => isLike none pattern cell
  | contains part => isLike (some '\\') (Text.containing part) cell
  | lacks part => (isLike (some '\\') (Text.containing part) cell).map (!·)
  | isNull => some (cell = .null)
  | isNotNull => some (cell ≠ .null)

end Test

namespace Condition

mutual

/-- Whether a condition holds of a row. -/
def holds (row : Row) : Condition → Truth
  | .test column asked => asked.holds column (row column)
  | .group combinator parts => allHold row combinator parts

/-- Whether the parts of a group hold of a row, joined by the combinator. -/
def allHold (row : Row) (combinator : Combinator) : List Condition → Truth
  | [] => Truth.unit combinator
  | part :: rest => Truth.join combinator (holds row part) (allHold row combinator rest)

end

end Condition

/-! ### Selections -/

/-- Compares two values in a direction. -/
def SortOrder.compare (order : SortOrder) (a b : Cell) : Ordering :=
  match order with
  | .ascending => a.compare b
  | .descending => (a.compare b).swap

namespace Statement

/-- Whether the statement selects a row. -/
def selects (s : Statement) (row : Row) : Bool :=
  match s.filter with
  | none => true
  | some condition => condition.holds row == some true

/-- Whether a row stands before another one or at the same place. That equal rows come by their ids
is a choice of this program: an engine may give them in any order. -/
def precedes (s : Statement) (a b : Row) : Bool :=
  ((s.sortOrder.compare (a s.sortColumn) (b s.sortColumn)).then ((a .id).compare (b .id))).isLE

/-- The rows of the page that the statement asks for. -/
def page (s : Statement) (rows : List Row) : List Row :=
  let rest := rows.drop (s.offset.getD 0).toNat
  match s.limit with
  | none => rest
  | some limit => rest.take limit.toNat

/-- The rows that the statement selects, in order. -/
def run (s : Statement) (rows : List Row) : List Row :=
  s.page ((rows.filter s.selects).mergeSort s.precedes)

end Statement

end ApplicationLedger
