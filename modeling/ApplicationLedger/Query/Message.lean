/-
This file reads queries from messages and writes them into messages.
-/

import ApplicationLedger.Query.Basic
import ApplicationLedger.Json.Writer

namespace ApplicationLedger

/-- An operator, spelled in any case. -/
def Operator.decode : Decoder Operator := fun medium value => do
  let text ← Decoder.text medium value
  match Operator.ofText text with
  | .ok operator => .ok operator
  | .error fault => .error (.refused fault.fault.message)

/-- An optional member of an object. -/
def Json.optionalMember {α : Type} (name : String) (encode : α → Json) :
    Option α → List (String × Json)
  | none => []
  | some value => [(name, encode value)]

/-! ### Predicates -/

namespace Predicate

/-- The fields of a predicate. -/
def layout : Layout [String, Operator, Option String] :=
  .field "field" Decoder.text none <|
  .field "operator" Operator.decode none <|
  .field "value" (Decoder.optional Decoder.text) (some none) .done

/-- Reads a predicate. -/
def decode : Decoder Predicate := fun medium value => do
  let (field, operator, operand, ()) ← layout.decode "struct Predicate" medium value
  .ok ⟨field, operator, operand⟩

/-- A predicate in a message. -/
def toJson (p : Predicate) : Json :=
  .object ([("field", .string p.field), ("operator", .string p.operator.name)] ++
    Json.optionalMember "value" .string p.value)

end Predicate

/-! ### Groups -/

/-- Reads a combinator, in capitals or small letters. -/
def Combinator.decode : Decoder Combinator :=
  Spelling.decode [⟨"AND", .and⟩, ⟨"and", .and⟩, ⟨"OR", .or⟩, ⟨"or", .or⟩]

namespace Group

/-- The fields of a group, with a way to read the groups in it. -/
def layout (decodeGroup : Decoder Group) : Layout [List Predicate, List Group, Combinator] :=
  .field "filters" (Decoder.list Predicate.decode) (some []) <|
  .field "subgroups" (Decoder.list decodeGroup) (some []) <|
  .field "operator" Combinator.decode (some .and) .done

/-- Reads a group with less than some levels of groups in it. -/
def decodeWithin : Nat → Decoder Group
  | 0 => fun _ _ => .error .malformed
  | levels + 1 => fun medium value => do
    let (predicates, subgroups, combinator, ()) ←
      (layout (decodeWithin levels)).decode "struct PredicateGroup" medium value
    .ok ⟨predicates, subgroups, combinator⟩

/-- Reads a group. Groups nest less deep than arrays and objects do. -/
def decode : Decoder Group := decodeWithin (Json.nestingLimit + 1)

mutual

/-- A group in a message. -/
def toJson : Group → Json
  | mk predicates subgroups combinator =>
    .object [("filters", .array (predicates.map Predicate.toJson)),
      ("subgroups", .array (allToJson subgroups)), ("operator", .string combinator.word)]

/-- Groups in a message. -/
def allToJson : List Group → List Json
  | [] => []
  | group :: rest => toJson group :: allToJson rest

end

end Group

/-! ### Queries -/

/-- Reads a direction, in capitals or small letters. -/
def SortOrder.decode : Decoder SortOrder :=
  Spelling.decode
    [⟨"ASC", .ascending⟩, ⟨"asc", .ascending⟩, ⟨"DESC", .descending⟩, ⟨"desc", .descending⟩]

namespace Query

/-- The fields of a query. -/
def layout : Layout [Option Group, Option String, Option SortOrder, Int, Int] :=
  .field "where" (Decoder.optional Group.decode) (some none) <|
  .field "sort_by" (Decoder.optional Decoder.text) (some none) <|
  .field "sort_order" (Decoder.optional SortOrder.decode) (some none) <|
  .field "limit" Decoder.int64 (some 0) <|
  .field "page" Decoder.int64 (some 0) .done

/-- Reads a query. -/
def decode : Decoder Query := fun medium value => do
  let (filter, sortBy, sortOrder, limit, page, ()) ←
    layout.decode "struct FilterQuery" medium value
  .ok ⟨filter, sortBy, sortOrder, limit, page⟩

/-- A query in a message. -/
def toJson (q : Query) : Json :=
  .object (Json.optionalMember "where" Group.toJson q.filter ++
    Json.optionalMember "sort_by" .string q.sortBy ++
    Json.optionalMember "sort_order" (.string ·.name) q.sortOrder ++
    [("limit", .integer q.limit), ("page", .integer q.page)])

end Query

end ApplicationLedger
