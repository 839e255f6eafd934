/-
This file holds filter queries. A predicate compares one field with a value; a group joins
predicates and further groups by one combinator; a query adds the order of the rows and the page
wanted. Predicates carry names and values as clients wrote them, so a query can be wrong.
-/

import ApplicationLedger.Column
import ApplicationLedger.Fault
import ApplicationLedger.Text.Blank

namespace ApplicationLedger

/-! ### Operators -/

/-- A comparison by order. -/
inductive Comparison where
  | equal
  | notEqual
  | less
  | greater
  | lessOrEqual
  | greaterOrEqual
  deriving DecidableEq, Repr

/-- How a predicate compares. -/
inductive Operator where
  | compare (comparison : Comparison)
  | contains
  | notContains
  | isEmpty
  | isNotEmpty
  | like
  deriving DecidableEq, Repr

/-- The sign of a comparison. -/
def Comparison.sign : Comparison → String
  | equal => "="
  | notEqual => "!="
  | less => "<"
  | greater => ">"
  | lessOrEqual => "<="
  | greaterOrEqual => ">="

namespace Operator

/-- The spelling of an operator. -/
def name : Operator → String
  | compare comparison => comparison.sign
  | contains => "CONTAINS"
  | notContains => "NOT_CONTAINS"
  | isEmpty => "IS_EMPTY"
  | isNotEmpty => "IS_NOT_EMPTY"
  | like => "LIKE"

/-- All operators. -/
def all : List Operator :=
  [compare .equal, compare .notEqual, compare .less, compare .greater, compare .lessOrEqual,
    compare .greaterOrEqual, contains, notContains, isEmpty, isNotEmpty, like]

/-- Whether the operator compares by order, and so takes a number as it is. -/
def isComparison : Operator → Bool
  | compare _ => true
  | _ => false

/-- Whether the operator asks for a missing value, and so takes none. -/
def isNullCheck : Operator → Bool
  | isEmpty => true
  | isNotEmpty => true
  | _ => false

end Operator

/-! ### Queries -/

/-- A comparison of one field. -/
structure Predicate where
  field : String
  operator : Operator
  value : Option String
  deriving DecidableEq, Repr

/-- How the parts of a group are joined. -/
inductive Combinator where
  | and
  | or
  deriving DecidableEq, Repr

/-- The word for a combinator. -/
def Combinator.word : Combinator → String
  | .and => "AND"
  | .or => "OR"

/-- Predicates and groups joined by one combinator. -/
inductive Group where
  | mk (predicates : List Predicate) (subgroups : List Group) (combinator : Combinator)
  deriving Repr

namespace Group

/-- The predicates that stand directly in a group. -/
def predicates : Group → List Predicate
  | mk predicates _ _ => predicates

/-- The groups that stand directly in a group. -/
def subgroups : Group → List Group
  | mk _ subgroups _ => subgroups

/-- What joins the parts of a group. -/
def combinator : Group → Combinator
  | mk _ _ combinator => combinator

/-- The group without parts. -/
def empty : Group := mk [] [] .and

mutual

/-- Every predicate of a group, its own ones first, then those of its groups in order. -/
def walk : Group → List Predicate
  | mk predicates subgroups _ => predicates ++ walkAll subgroups

/-- Every predicate of some groups. -/
def walkAll : List Group → List Predicate
  | [] => []
  | group :: rest => walk group ++ walkAll rest

end

end Group

/-- The direction of an order. -/
inductive SortOrder where
  | ascending
  | descending
  deriving DecidableEq, Repr

namespace SortOrder

/-- The word for a direction in a statement. -/
def word : SortOrder → String
  | ascending => "ASC"
  | descending => "DESC"

/-- The name of a direction in messages. -/
def name : SortOrder → String
  | ascending => "asc"
  | descending => "desc"

end SortOrder

/-- What a client asks for. -/
structure Query where
  filter : Option Group
  sortBy : Option String
  sortOrder : Option SortOrder
  /-- The number of rows on a page; without effect unless positive. -/
  limit : Int
  /-- The number of the page, from 1; without effect unless positive. -/
  page : Int
  deriving Repr

/-- The query for everything. -/
def Query.everything : Query := ⟨none, none, none, 0, 0⟩

/-! ### What can be wrong with a query -/

/-- Why a query has no statement. -/
inductive QueryFault where
  | operatorMissing
  | unknownOperator (text : String)
  | fieldMissing
  | unknownField (name : String)
  | valueMissing (field : String) (operator : Operator)
  | unknownSort (name : String)
  /-- A pattern that is a number. -/
  | numericPattern (operator : Operator) (field value : String)
  deriving DecidableEq, Repr

namespace QueryFault

/-- The fault in words. -/
def reason : QueryFault → String
  | operatorMissing => "filter operator is required"
  | unknownOperator text => "unknown filter operator: " ++ text
  | fieldMissing => "filter field is required"
  | unknownField name => "unknown filter field: " ++ name
  | valueMissing field operator =>
    "filter on " ++ field ++ " with operator " ++ operator.name ++ " requires a value"
  | unknownSort name => "unknown sort field: " ++ name
  | numericPattern operator field value =>
    "invalid filter: " ++ operator.name ++ " for " ++ field ++ " with value " ++ value

/-- The fault as a fault of the service. -/
def fault : QueryFault → Fault
  | numericPattern operator field value =>
    .compiler (numericPattern operator field value).reason
  | other => .validation other.reason

end QueryFault

/-- The operator that a text spells, in any case and with blanks around it. -/
def Operator.ofText (text : String) : Except QueryFault Operator :=
  let spelled := (Text.trim text).map Char.toUpper
  if spelled.isEmpty then .error .operatorMissing
  else
    match Operator.all.find? (·.name == spelled) with
    | some operator => .ok operator
    | none => .error (.unknownOperator spelled)

namespace Predicate

/-- The value of a predicate, empty if it has none. -/
def valueText (p : Predicate) : String := p.value.getD ""

/-- The column of a predicate. The predicate has to name one, and to have a value unless it asks for
a missing one. -/
def column (p : Predicate) : Except QueryFault Column :=
  if p.field.isEmpty then .error .fieldMissing
  else
    match Column.ofName? p.field with
    | none => .error (.unknownField p.field)
    | some column =>
      if p.value.isNone && !p.operator.isNullCheck then
        .error (.valueMissing p.field p.operator)
      else .ok column

/-- Whether the predicate is valid, or what is wrong with it. -/
def check (p : Predicate) : Except QueryFault Unit := p.column.map fun _ => ()

end Predicate

namespace Query

/-- The predicates of a query, in the order of a walk. -/
def walk (q : Query) : List Predicate :=
  match q.filter with
  | none => []
  | some group => group.walk

/-- The column and the direction of the rows. The most recent applications come first if the query
names no column. -/
def order (q : Query) : Except QueryFault (Column × SortOrder) :=
  match q.sortBy with
  | none => .ok (Column.defaultSort, .descending)
  | some name =>
    if name.isEmpty then .ok (Column.defaultSort, .descending)
    else
      match Column.ofName? name with
      | none => .error (.unknownSort name)
      | some column => .ok (column, q.sortOrder.getD .ascending)

/-- Whether the query is valid, or what is wrong with it: the first predicate that is not valid in
the order of a walk, else the column of the order. -/
def check (q : Query) : Except QueryFault Unit := do
  q.walk.forM Predicate.check
  let _ ← q.order

end Query

end ApplicationLedger
