/-
This file proves that the parts of messages are decoded from the JSON that they are written as: the
fields of applications, records, files, queries and what stands in them. Fields that are not written
have their defaults, and a group is decoded within as many levels as it nests.
-/

import ApplicationLedger.Message.Basic
import ApplicationLedger.Proofs.Instant.Message
import ApplicationLedger.Proofs.Json.Members

namespace ApplicationLedger

/-- An optional member holds what it was written for, and is left out for nothing. -/
theorem Layout.Holds.optionalMember {medium : Medium} {types : List Type} {layout : Layout types}
    {values : Values types} {members : List (String × Json)} {α : Type} {name : String}
    {decode : Decoder α} {encode : α → Json} {value : Option α}
    (decoded : ∀ inner ∈ value, Decoder.optional decode medium (encode inner) = .ok (some inner))
    (holds : layout.Holds medium values members) :
    (field name (Decoder.optional decode) (some none) layout).Holds medium (value, values)
      (Json.optionalMember name encode value ++ members) := by
  cases value with
  | none => exact .inr ⟨rfl, holds⟩
  | some inner => exact .member (decoded inner rfl) holds

/-! ### Applications -/

theorem Decoder.instant_text {t : Instant} (inRange : t.InRange) :
    instant .buffer (.string t.text) = .ok t := by
  rw [instant, Instant.ofText?_text inRange]

namespace ApplicationFields

theorem holds_members {f : ApplicationFields} (inRange : f.dateApplied.InRange) :
    layout.Holds .buffer (f.title, f.company, f.description, f.location, f.datePosted, f.url,
      f.internalId, f.source, f.reposted, f.dateApplied, ()) f.members :=
  .member rfl <| .member rfl <| .member rfl <| .member rfl <| .member rfl <| .member rfl <|
    .member rfl <| .member rfl <| .member rfl <| .member (Decoder.instant_text inRange) rfl

/-- Fields are decoded from what they are written as. -/
theorem decode_toJson {f : ApplicationFields} (inRange : f.dateApplied.InRange) :
    decode .buffer f.toJson = .ok f := by
  have decoded := Layout.decode_of_holds (by decide) "struct ApplicationFields"
    (holds_members inRange)
  rw [decode, toJson, decoded]
  rfl

end ApplicationFields

namespace ApplicationRecord

/-- Members that are not the record's own are kept for its fields. -/
theorem split_append {members : List (String × Json)}
    (others : ∀ member ∈ members, member.1 ∉ ownLayout.names) (rest : List (String × Json))
    (draft : Draft [String, List String]) :
    split .buffer (members ++ rest) draft =
      (split .buffer rest draft).map fun (draft, kept) => (draft, members ++ kept) := by
  induction members with
  | nil =>
    rw [List.nil_append]
    cases split .buffer rest draft <;> rfl
  | cons member members inductionHypothesis =>
    obtain ⟨name, value⟩ := member
    rw [List.cons_append, split, Layout.take?_eq_none (others _ List.mem_cons_self),
      inductionHypothesis fun member isMember => others member (List.mem_cons_of_mem _ isMember)]
    cases split .buffer rest draft <;> rfl

theorem split_members (r : ApplicationRecord) :
    split .buffer
        (("id", .string r.id) :: r.fields.members ++ [("files", .array (r.files.map .string))])
        ownLayout.start =
      .ok ((some r.id, some r.files, ()), r.fields.members) := by
  have others : ∀ member ∈ r.fields.members, member.1 ∉ ownLayout.names := by
    have names : r.fields.members.map Prod.fst = ApplicationFields.layout.names := rfl
    have apart : ∀ name ∈ ApplicationFields.layout.names, name ∉ ownLayout.names := by decide
    exact fun member isMember => apart member.1 (names ▸ List.mem_map_of_mem isMember)
  have files : Decoder.list Decoder.text .buffer (.array (r.files.map .string)) = .ok r.files :=
    Decoder.list_map fun _ _ => rfl
  have last : split .buffer [("files", .array (r.files.map .string))] (some r.id, none, ()) =
      .ok ((some r.id, some r.files, ()), []) := by
    show ((Decoder.list Decoder.text .buffer (.array (r.files.map .string))).map _ |>.map _).bind
      _ = _
    rw [files]
    rfl
  show split .buffer (r.fields.members ++ [("files", .array (r.files.map .string))])
    (some r.id, none, ()) = _
  refine (split_append others _ _).trans ?_
  rw [last]
  exact congrArg (fun kept => Except.ok (_, kept)) (List.append_nil _)

/-- A record is decoded from what it is written as: its fields stand between its own members. -/
theorem decode_toJson {r : ApplicationRecord} (inRange : r.fields.dateApplied.InRange) :
    decode .buffer r.toJson = .ok r := by
  have fields := Layout.ofMembers_of_holds (by decide)
    (ApplicationFields.holds_members inRange)
  have inside : Medium.buffer.enter = .ok .buffer := rfl
  have own : ownLayout.finish (some r.id, some r.files, ()) = .ok (r.id, r.files, ()) := rfl
  simp only [toJson, decode, inside, bind, Except.bind, split_members r, fields, own]
  rfl

end ApplicationRecord

/-- A file is decoded from what it is written as. -/
theorem WireFile.decode_toJson (f : WireFile) : decode .buffer f.toJson = .ok f := by
  have holds : layout.Holds .buffer (f.name, f.content, ())
      [("name", .string f.name), ("content", .string f.content)] := .member rfl <| .member rfl rfl
  rw [decode, toJson, Layout.decode_of_holds (by decide) "struct WireFile" holds]
  rfl

/-! ### Queries -/

theorem Operator.mem_all (operator : Operator) : operator ∈ all := by
  cases operator with
  | compare comparison => cases comparison <;> decide
  | _ => decide

/-- An operator is read back from its spelling. -/
theorem Operator.ofText_name (operator : Operator) : ofText operator.name = .ok operator := by
  obtain ⟨spelled, nonempty, found⟩ :=
    (by decide +kernel : ∀ o ∈ all, (Text.trim o.name).map Char.toUpper = o.name ∧
      o.name.isEmpty = false ∧ all.find? (·.name == o.name) = some o) operator operator.mem_all
  simp only [ofText, spelled, nonempty, Bool.false_eq_true, if_false, found]

/-- A predicate is decoded from what it is written as. -/
theorem Predicate.decode_toJson (p : Predicate) : decode .buffer p.toJson = .ok p := by
  have operator : Operator.decode .buffer (.string p.operator.name) = .ok p.operator := by
    have text : Decoder.text .buffer (.string p.operator.name) = .ok p.operator.name := rfl
    simp only [Operator.decode, text, bind, Except.bind, Operator.ofText_name]
  have holds : layout.Holds .buffer (p.field, p.operator, p.value, ())
      ([("field", .string p.field), ("operator", .string p.operator.name)] ++
        (Json.optionalMember "value" .string p.value ++ [])) :=
    .member rfl <| .member operator <| .optionalMember (fun _ _ => rfl) rfl
  rw [List.append_nil] at holds
  rw [decode, toJson, Layout.decode_of_holds (by decide) "struct Predicate" holds]
  rfl

/-! ### Groups -/

theorem Combinator.decode_word (combinator : Combinator) :
    decode .buffer (.string combinator.word) = .ok combinator := by
  cases combinator <;> rfl

mutual

/-- A group is decoded from what it is written as, within the levels that it nests. -/
theorem Group.decodeWithin_toJson (group : Group) (levels : Nat)
    (enough : group.toJson.depth ≤ levels) :
    Group.decodeWithin levels .buffer group.toJson = .ok group := by
  cases group with
  | mk predicates subgroups combinator =>
    obtain _ | inner := levels
    · exact absurd enough (Nat.not_succ_le_zero _)
    have inside : Json.itemsDepth (Group.allToJson subgroups) ≤ inner := by
      simp only [Group.toJson, Json.depth, Json.membersDepth] at enough
      omega
    have nested := Group.items_allToJson subgroups inner inside
    have distinct : (Group.layout (Group.decodeWithin inner)).names.Nodup :=
      (by decide : ["filters", "subgroups", "operator"].Nodup)
    have holds : (Group.layout (Group.decodeWithin inner)).Holds .buffer
        (predicates, subgroups, combinator, ())
        [("filters", .array (predicates.map Predicate.toJson)),
          ("subgroups", .array (Group.allToJson subgroups)),
          ("operator", .string combinator.word)] :=
      .member (Decoder.list_map fun p _ => p.decode_toJson) <| .member nested <|
        .member combinator.decode_word rfl
    dsimp only [Group.decodeWithin, Group.toJson]
    rw [Layout.decode_of_holds distinct "struct PredicateGroup" holds]
    rfl

theorem Group.items_allToJson (groups : List Group) (levels : Nat)
    (enough : Json.itemsDepth (Group.allToJson groups) ≤ levels) :
    Decoder.items (Group.decodeWithin levels) .buffer (Group.allToJson groups) = .ok groups := by
  cases groups with
  | nil => rfl
  | cons group rest =>
    obtain ⟨first, others⟩ := Nat.max_le.mp enough
    rw [Group.allToJson, Decoder.items, Group.decodeWithin_toJson group levels first,
      Group.items_allToJson rest levels others]
    rfl

end

/-! ### Queries -/

theorem SortOrder.decode_name (order : SortOrder) :
    decode .buffer (.string order.name) = .ok order := by
  cases order <;> rfl

theorem Decoder.int64_integer {value : Int} (least : -Int.pow 2 63 ≤ value)
    (below : value < Int.pow 2 63) : int64 .buffer (.integer value) = .ok value :=
  if_pos ⟨least, Int.le_sub_one_of_lt below⟩

/-- Whether the numbers of a query are ones of 64 bits with sign. -/
def Query.InRange (q : Query) : Prop :=
  (-Int.pow 2 63 ≤ q.limit ∧ q.limit < Int.pow 2 63) ∧
    -Int.pow 2 63 ≤ q.page ∧ q.page < Int.pow 2 63

/-- A query is decoded from what it is written as, if its groups do not nest too deep. -/
theorem Query.decode_toJson {q : Query} (inRange : q.InRange)
    (shallow : q.toJson.depth ≤ Json.nestingLimit) : decode .buffer q.toJson = .ok q := by
  have filter : ∀ group ∈ q.filter,
      Decoder.optional Group.decode .buffer group.toJson = .ok (some group) := by
    intro group isFilter
    rw [toJson, Option.mem_def.mp isFilter] at shallow
    have inside : group.toJson.depth ≤ Json.nestingLimit :=
      Nat.le_trans (Nat.le_max_left _ _) (Nat.le_of_succ_le shallow)
    have decoded : Group.decode .buffer group.toJson = .ok group :=
      group.decodeWithin_toJson _ (Nat.le_succ_of_le inside)
    cases group
    exact congrArg (Except.map some) decoded
  have holds : layout.Holds .buffer (q.filter, q.sortBy, q.sortOrder, q.limit, q.page, ())
      (Json.optionalMember "where" Group.toJson q.filter ++
        (Json.optionalMember "sort_by" .string q.sortBy ++
          (Json.optionalMember "sort_order" (.string ·.name) q.sortOrder ++
            [("limit", .integer q.limit), ("page", .integer q.page)]))) :=
    .optionalMember filter <| .optionalMember (fun _ _ => rfl) <|
      .optionalMember (fun order _ => congrArg (Except.map some) order.decode_name) <|
        .member (Decoder.int64_integer inRange.1.1 inRange.1.2) <|
          .member (Decoder.int64_integer inRange.2.1 inRange.2.2) rfl
  have decoded := Layout.decode_of_holds (by decide) "struct FilterQuery" holds
  rw [← List.append_assoc, ← List.append_assoc] at decoded
  rw [decode, toJson, decoded]
  rfl

end ApplicationLedger
