/-
This file holds the values of table cells. A cell has no value, a number, a text or bytes, and cells
of all kinds are ordered: no value first, then numbers, texts and bytes. A column of text turns
numbers into texts, a column of whole numbers turns texts that are numbers into numbers; a value
that is compared with a column is turned in the same way.
-/

import ApplicationLedger.Bytes.Utf8
import ApplicationLedger.Column
import ApplicationLedger.Number.Decimal
import ApplicationLedger.Query.Statement

namespace ApplicationLedger

/-- The value of a cell. -/
inductive Cell where
  | null
  | number (value : Numeric)
  | text (value : String)
  | bytes (value : Bytes)
  deriving DecidableEq, Repr

/-- Whether a column is for whole numbers; all others are for texts. -/
def Column.isNumeric : Column → Bool
  | .reposted => true
  | _ => false

/-- Whether every row has a value in a column. -/
def Column.isRequired : Column → Bool
  | .title => true
  | .reposted => true
  | .dateApplied => true
  | .files => true
  | _ => false

namespace Cell

/-- The kind of a cell in messages. -/
def kind : Cell → String
  | null => "Null"
  | number (.integer _) => "Integer"
  | number (.real _) => "Real"
  | text _ => "Text"
  | bytes _ => "Blob"

/-! ### Order -/

/-- Compares bytes one by one; a part from the start comes before the whole. -/
def compareBytes : Bytes → Bytes → Ordering
  | [], [] => .eq
  | [], _ :: _ => .lt
  | _ :: _, [] => .gt
  | a :: as, b :: bs => (Ord.compare a b).then (compareBytes as bs)

/-- Compares texts character by character, as their UTF-8 forms compare byte by byte. -/
def compareTexts (a b : String) : Ordering :=
  if a < b then .lt else if a = b then .eq else .gt

/-- The place of a kind in the order. -/
def rank : Cell → Nat
  | null => 0
  | number _ => 1
  | text _ => 2
  | bytes _ => 3

/-- Compares two cells. -/
def compare : Cell → Cell → Ordering
  | number a, number b => a.compare b
  | text a, text b => compareTexts a b
  | bytes a, bytes b => compareBytes a b
  | a, b => Ord.compare a.rank b.rank

/-! ### Columns -/

/-- A number as a column of whole numbers holds it: whole if it can be. -/
def wholeNumber : Numeric → Numeric
  | .integer value => .integer value
  | .real value =>
    match value.toInt? with
    | some whole =>
      if -Int.pow 2 63 < whole ∧ whole < Int.pow 2 63 - 1 then .integer whole else .real value
    | none => .real value

/-- The cell as a column holds it. -/
def held (column : Column) (cell : Cell) : Cell :=
  if column.isNumeric then
    match cell with
    | number value => number (wholeNumber value)
    | text value =>
      match Numeric.ofCellText? value with
      | some value => number (wholeNumber value)
      | none => text value
    | other => other
  else
    match cell with
    | number value => text value.cellText
    | other => other

/-- The value that a parameter stands for beside a column. -/
def ofParameter (column : Column) (parameter : Parameter) : Cell :=
  held column
    (match parameter with
    | .text value => text value
    | .number value => number value)

/-- The text that a pattern is matched with; nothing if there is no value. -/
def matchedText? : Cell → Option String
  | null => none
  | number value => some value.cellText
  | text value => some value
  | bytes value => some ((Bytes.text? value).getD "")

end Cell

end ApplicationLedger
