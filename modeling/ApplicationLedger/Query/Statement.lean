/-
This file compiles queries into statements over the table of applications. A statement is a value:
the conditions on a row, the order and the page. Its text is made of fixed pieces and operands, and
is written in two ways: with a placeholder for each operand, which is how it is run, and with the
operands in place, which is how it is shown. A group without any predicate adds nothing.
-/

import ApplicationLedger.Query.Basic
import ApplicationLedger.Number.Decimal
import ApplicationLedger.Text.Like

namespace ApplicationLedger

/-- A value that a statement compares or counts with. -/
inductive Operand where
  | text (value : String)
  /-- A number, with its writing. -/
  | number (written : String) (value : Numeric)
  /-- A part to look for in a text. -/
  | part (value : String)
  /-- A number of rows. -/
  | count (value : Int)
  deriving DecidableEq, Repr

/-- What is asked of one column. -/
inductive Test where
  | compare (comparison : Comparison) (operand : Operand)
  | like (pattern : String)
  | contains (part : String)
  | lacks (part : String)
  | isNull
  | isNotNull
  deriving DecidableEq, Repr

/-- What is asked of a row. -/
inductive Condition where
  | test (column : Column) (asked : Test)
  | group (combinator : Combinator) (parts : List Condition)
  deriving Repr

/-- A compiled query. -/
structure Statement where
  filter : Option Condition
  sortColumn : Column
  sortOrder : SortOrder
  /-- The greatest number of rows. -/
  limit : Option Int
  /-- The number of rows left out before the first one. -/
  offset : Option Int
  deriving Repr

/-! ### Compiling -/

/-- The condition of a predicate. A value that is a number is compared as one; a pattern must not be
one. -/
def Predicate.compile (p : Predicate) : Except QueryFault Condition := do
  let column ← p.column
  let value := p.valueText
  match p.operator with
  | .contains => .ok (.test column (.contains value))
  | .notContains => .ok (.test column (.lacks value))
  | .isEmpty => .ok (.test column .isNull)
  | .isNotEmpty => .ok (.test column .isNotNull)
  | .compare comparison =>
    match Numeric.ofValue? value with
    | none => .ok (.test column (.compare comparison (.text value)))
    | some number => .ok (.test column (.compare comparison (.number value number)))
  | .like =>
    match Numeric.ofValue? value with
    | none => .ok (.test column (.like value))
    | some _ => .error (.numericPattern .like p.field value)

/-- The conditions of some predicates, up to the first one that has none. -/
def Predicate.compileAll : List Predicate → Except QueryFault (List Condition)
  | [] => .ok []
  | p :: rest => do
    let condition ← p.compile
    let others ← compileAll rest
    .ok (condition :: others)

/-- The condition of some parts, if there are any. -/
def Condition.ofParts (combinator : Combinator) (parts : List Condition) : Option Condition :=
  if parts.isEmpty then none else some (.group combinator parts)

mutual

/-- The condition of a group, if it has one. -/
def Group.compile : Group → Except QueryFault (Option Condition)
  | .mk predicates subgroups combinator => do
    let tests ← Predicate.compileAll predicates
    let nested ← Group.compileAll subgroups
    .ok (Condition.ofParts combinator (tests ++ nested))

/-- The conditions of those groups that have one. -/
def Group.compileAll : List Group → Except QueryFault (List Condition)
  | [] => .ok []
  | group :: rest => do
    let condition ← Group.compile group
    let others ← Group.compileAll rest
    .ok (condition.toList ++ others)

end

/-- The greatest number of rows that can be left out. -/
def Query.greatestOffset : Int := Int.pow 2 63 - 1

/-- The number of rows on a page, if the query limits them. -/
def Query.rowLimit (q : Query) : Option Int :=
  if q.limit > 0 then some q.limit else none

/-- The number of rows before the page, if the query asks for a page. -/
def Query.rowOffset (q : Query) : Option Int :=
  if q.limit > 0 ∧ q.page > 0 then some (min ((q.page - 1) * q.limit) Query.greatestOffset)
  else none

/-- The statement of a query. The whole query is checked before any part is compiled. -/
def Query.compile (q : Query) : Except QueryFault Statement := do
  q.check
  let (column, order) ← q.order
  let filter ← match q.filter with
    | none => .ok none
    | some group => group.compile
  .ok ⟨filter, column, order, q.rowLimit, q.rowOffset⟩

/-! ### The text of a statement -/

/-- A piece of a statement's text. -/
inductive Piece where
  | fixed (text : String)
  | operand (value : Operand)
  deriving DecidableEq, Repr

/-- The pieces of a test on a column. -/
def Test.pieces (column : Column) : Test → List Piece
  | compare comparison operand =>
    [.fixed (column.name ++ " " ++ comparison.sign ++ " "), .operand operand]
  | like pattern => [.fixed (column.name ++ " LIKE "), .operand (.text pattern)]
  | contains part => [.fixed (column.name ++ " LIKE "), .operand (.part part)]
  | lacks part => [.fixed (column.name ++ " NOT LIKE "), .operand (.part part)]
  | isNull => [.fixed (column.name ++ " IS NULL")]
  | isNotNull => [.fixed (column.name ++ " IS NOT NULL")]

mutual

/-- The pieces of a condition. A group inside a group stands in parentheses. -/
def Condition.pieces : Condition → List Piece
  | .test column asked => asked.pieces column
  | .group combinator parts => Condition.joined combinator parts

/-- The pieces of the parts of a group, joined by its combinator. -/
def Condition.joined (combinator : Combinator) : List Condition → List Piece
  | [] => []
  | [part] => Condition.nested part
  | part :: next :: rest =>
    Condition.nested part ++ .fixed (" " ++ combinator.word ++ " ") ::
      Condition.joined combinator (next :: rest)

/-- The pieces of a condition inside a group. -/
def Condition.nested : Condition → List Piece
  | .test column asked => asked.pieces column
  | .group combinator parts =>
    .fixed "(" :: Condition.joined combinator parts ++ [.fixed ")"]

end

/-- The pieces of a number of rows behind its word. -/
def Statement.countPieces (word : String) : Option Int → List Piece
  | none => []
  | some count => [.fixed (" " ++ word ++ " "), .operand (.count count)]

/-- The columns that a statement reads, in the order of the table. -/
def Statement.head : String :=
  "SELECT " ++ ", ".intercalate (Column.all.map Column.name) ++ " FROM " ++ Column.table

/-- The pieces of the conditions of a statement. -/
def Statement.filterPieces : Option Condition → List Piece
  | none => []
  | some condition => .fixed " WHERE " :: condition.pieces

/-- The pieces of a statement. -/
def Statement.pieces (s : Statement) : List Piece :=
  .fixed Statement.head :: Statement.filterPieces s.filter ++
    .fixed (" ORDER BY " ++ s.sortColumn.name ++ " " ++ s.sortOrder.word) ::
    Statement.countPieces "LIMIT" s.limit ++ Statement.countPieces "OFFSET" s.offset

/-! ### Two ways of writing -/

/-- A value bound to a placeholder. -/
inductive Parameter where
  | text (value : String)
  | number (value : Numeric)
  deriving DecidableEq, Repr

namespace Operand

/-- The placeholder of an operand. A part is a pattern in which a backslash escapes. -/
def placeholder : Operand → String
  | part _ => "? ESCAPE '\\'"
  | _ => "?"

/-- The value bound to the placeholder of an operand. -/
def parameter : Operand → Parameter
  | text value => .text value
  | number _ value => .number value
  | part value => .text (Text.containing value)
  | count value => .number (.integer value)

/-- A text between single quotes, where a quote is written twice. -/
def quoted (value : String) : String :=
  "'" ++ String.ofList (value.toList.flatMap fun c => if c = '\'' then ['\'', '\''] else [c]) ++ "'"

/-- An operand in place. A number stands as it was written. -/
def literal : Operand → String
  | text value => quoted value
  | number written _ => written
  | part value => quoted ("%" ++ value ++ "%")
  | count value => toString value

end Operand

namespace Piece

/-- A piece, with its operand written in some way. -/
def write (operandText : Operand → String) : Piece → String
  | .fixed text => text
  | .operand value => operandText value

/-- The operand of a piece. -/
def operand? : Piece → Option Operand
  | .fixed _ => none
  | .operand value => some value

end Piece

namespace Statement

/-- The text of a statement, with its operands written in some way. -/
def write (operandText : Operand → String) (s : Statement) : String :=
  String.join (s.pieces.map (Piece.write operandText))

/-- The text that is run. -/
def text (s : Statement) : String := s.write Operand.placeholder

/-- The values bound to the placeholders, from left to right. -/
def parameters (s : Statement) : List Parameter :=
  (s.pieces.filterMap Piece.operand?).map Operand.parameter

/-- The text that is shown, with the operands in place. -/
def literalText (s : Statement) : String := s.write Operand.literal

end Statement

end ApplicationLedger
