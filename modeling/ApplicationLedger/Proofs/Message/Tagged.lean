/-
This file proves that every request and every response is decoded from the JSON that it is written
as. Its kind stands in front, so the members behind it are kept and then decoded from the buffer. A
message is exact: it holds no floating point number and no whole one of more than 64 bits.
-/

import ApplicationLedger.Proofs.Message.Parts

namespace ApplicationLedger

open Json (AllExact AllMembersExact)

/-! ### Exact messages -/

theorem Json.allMembersExact_append {first second : List (String × Json)}
    (exact : AllMembersExact first) (exact' : AllMembersExact second) :
    AllMembersExact (first ++ second) := by
  induction first with
  | nil => exact exact'
  | cons member rest inductionHypothesis => exact ⟨exact.1, inductionHypothesis exact.2⟩

theorem Json.allMembersExact_optionalMember {α : Type} (name : String) {encode : α → Json}
    {value : Option α} (each : ∀ inner ∈ value, (encode inner).IsExact) :
    AllMembersExact (optionalMember name encode value) := by
  cases value with
  | none => trivial
  | some inner => exact ⟨each inner rfl, trivial⟩

theorem ApplicationFields.isExact_toJson (f : ApplicationFields) : f.toJson.IsExact :=
  ⟨trivial, trivial, trivial, trivial, trivial, trivial, trivial, trivial, trivial, trivial,
    trivial⟩

theorem ApplicationRecord.isExact_toJson (r : ApplicationRecord) : r.toJson.IsExact :=
  ⟨trivial, Json.allMembersExact_append r.fields.isExact_toJson
    ⟨Json.allExact_map fun _ _ => trivial, trivial⟩⟩

theorem WireFile.isExact_toJson (f : WireFile) : f.toJson.IsExact := ⟨trivial, trivial, trivial⟩

theorem Predicate.isExact_toJson (p : Predicate) : p.toJson.IsExact :=
  ⟨trivial, trivial, Json.allMembersExact_optionalMember _ fun _ _ => trivial⟩

mutual

theorem Group.isExact_toJson (group : Group) : group.toJson.IsExact := by
  cases group with
  | mk predicates subgroups combinator =>
    exact ⟨Json.allExact_map fun p _ => p.isExact_toJson, Group.allExact_allToJson subgroups,
      trivial, trivial⟩

theorem Group.allExact_allToJson (groups : List Group) : AllExact (Group.allToJson groups) := by
  cases groups with
  | nil => trivial
  | cons group rest => exact ⟨Group.isExact_toJson group, Group.allExact_allToJson rest⟩

end

theorem Json.IsWord.of_int64 {value : Int} (least : -Int.pow 2 63 ≤ value)
    (below : value < Int.pow 2 63) : IsWord value :=
  ⟨least, Int.lt_trans below (by decide)⟩

theorem Query.isExact_toJson {q : Query} (inRange : q.InRange) : q.toJson.IsExact := by
  refine Json.allMembersExact_append (Json.allMembersExact_append (Json.allMembersExact_append
    ?_ ?_) ?_) ⟨.of_int64 inRange.1.1 inRange.1.2, .of_int64 inRange.2.1 inRange.2.2, trivial⟩
  · exact Json.allMembersExact_optionalMember _ fun group _ => group.isExact_toJson
  · exact Json.allMembersExact_optionalMember _ fun _ _ => trivial
  · exact Json.allMembersExact_optionalMember _ fun _ _ => trivial

/-! ### Requests -/

namespace Request

/-- Whether the numbers and the instants of a request are in range. -/
def InRange : Request → Prop
  | upload application _ => application.dateApplied.InRange
  | .query asked => asked.InRange
  | update _ application => application.dateApplied.InRange
  | fileLink _ _ => True

theorem isExact_toJson {r : Request} (inRange : r.InRange) : r.toJson.IsExact := by
  cases r with
  | upload application files =>
    exact ⟨trivial, application.isExact_toJson, Json.allExact_map fun f _ => f.isExact_toJson,
      trivial⟩
  | query asked => exact ⟨trivial, asked.isExact_toJson inRange, trivial⟩
  | update id application => exact ⟨trivial, trivial, application.isExact_toJson, trivial⟩
  | fileLink id fileName => exact ⟨trivial, trivial, trivial, trivial⟩

/-- A request is decoded from what it is written as. -/
theorem decode_toJson {r : Request} (inRange : r.InRange)
    (shallow : r.toJson.depth ≤ Json.nestingLimit) :
    decode (.text (Json.nestingLimit + 1)) r.toJson = .ok r := by
  have exact := isExact_toJson inRange
  rw [decode]
  cases r with
  | upload application files =>
    have holds : uploadLayout.Holds .buffer (application, files, ())
        [("application", application.toJson), ("files", .array (files.map WireFile.toJson))] :=
      .member (ApplicationFields.decode_toJson inRange) <|
        .member (Decoder.list_map fun f _ => f.decode_toJson) .done
    obtain ⟨tagged, fields⟩ := TaggedContent.decode_of_holds kinds
      "internally tagged enum Request" exact shallow rfl rfl holds (by decide)
    simp only [tagged, fields, bind, Except.bind]
  | query asked =>
    have inside : asked.toJson.depth ≤ Json.nestingLimit := by
      simp only [toJson, Json.depth, Json.membersDepth] at shallow
      omega
    have holds : queryLayout.Holds .buffer (asked, ()) [("query", asked.toJson)] :=
      .member (asked.decode_toJson inRange inside) .done
    obtain ⟨tagged, fields⟩ := TaggedContent.decode_of_holds kinds
      "internally tagged enum Request" exact shallow rfl rfl holds (by decide)
    simp only [tagged, fields, bind, Except.bind]
  | update id application =>
    have holds : updateLayout.Holds .buffer (id, application, ())
        [("id", .string id), ("application", application.toJson)] :=
      .member rfl <| .member (ApplicationFields.decode_toJson inRange) .done
    obtain ⟨tagged, fields⟩ := TaggedContent.decode_of_holds kinds
      "internally tagged enum Request" exact shallow rfl rfl holds (by decide)
    simp only [tagged, fields, bind, Except.bind]
  | fileLink id fileName =>
    have holds : fileLinkLayout.Holds .buffer (id, fileName, ())
        [("id", .string id), ("file_name", .string fileName)] :=
      .member rfl <| .member rfl .done
    obtain ⟨tagged, fields⟩ := TaggedContent.decode_of_holds kinds
      "internally tagged enum Request" exact shallow rfl rfl holds (by decide)
    simp only [tagged, fields, bind, Except.bind]

end Request

/-! ### Responses -/

theorem FaultCategory.decode_name (category : FaultCategory) :
    decode .buffer (.string category.name) = .ok category := by
  cases category <;> rfl

theorem Decoder.count_integer {count : Nat} (small : count < 2 ^ 64) :
    Decoder.count .buffer (.integer count) = .ok count := by
  have isCount : (0 : Int) ≤ count ∧ (count : Int) ≤ Int.pow 2 64 - 1 := by
    show (0 : Int) ≤ count ∧ (count : Int) ≤ 18446744073709551615
    omega
  exact congrArg (Except.map Int.toNat) (if_pos isCount)

theorem Decoder.word16_integer {word : Nat} (small : word < 2 ^ 16) :
    Decoder.word16 .buffer (.integer word) = .ok word := by
  have isWord : (0 : Int) ≤ word ∧ (word : Int) ≤ Int.pow 2 16 - 1 := by
    show (0 : Int) ≤ word ∧ (word : Int) ≤ 65535
    omega
  exact congrArg (Except.map Int.toNat) (if_pos isWord)

theorem Json.IsWord.of_lt {value : Nat} (small : value < 2 ^ 64) : IsWord value := by
  show (-9223372036854775808 : Int) ≤ value ∧ (value : Int) < 18446744073709551616
  omega

namespace Response

/-- Whether the numbers and the instants of a response are in range. -/
def InRange : Response → Prop
  | uploaded _ application fileCount =>
    application.fields.dateApplied.InRange ∧ fileCount < 2 ^ 64
  | results records => ∀ record ∈ records, record.fields.dateApplied.InRange
  | updated _ application => application.dateApplied.InRange
  | fileLink _ expiresAt => expiresAt.InRange
  | error status _ _ => status < 2 ^ 16

theorem isExact_toJson {r : Response} (inRange : r.InRange) : r.toJson.IsExact := by
  cases r with
  | uploaded message application fileCount =>
    exact ⟨trivial, trivial, application.isExact_toJson, .of_lt inRange.2, trivial⟩
  | results records => exact ⟨trivial, Json.allExact_map fun r _ => r.isExact_toJson, trivial⟩
  | updated message application => exact ⟨trivial, trivial, application.isExact_toJson, trivial⟩
  | fileLink url expiresAt => exact ⟨trivial, trivial, trivial, trivial⟩
  | error status code reason =>
    have small : status < 2 ^ 64 := Nat.lt_trans inRange (by decide)
    exact ⟨trivial, .of_lt small, trivial, trivial, trivial⟩

/-- A response is decoded from what it is written as. -/
theorem decode_toJson {r : Response} (inRange : r.InRange)
    (shallow : r.toJson.depth ≤ Json.nestingLimit) :
    decode (.text (Json.nestingLimit + 1)) r.toJson = .ok r := by
  have exact := isExact_toJson inRange
  rw [decode]
  cases r with
  | uploaded message application fileCount =>
    have holds : uploadedLayout.Holds .buffer (message, application, fileCount, ())
        [("message", .string message), ("application", application.toJson),
          ("num_files", .integer fileCount)] :=
      .member rfl <| .member (ApplicationRecord.decode_toJson inRange.1) <|
        .member (Decoder.count_integer inRange.2) .done
    obtain ⟨tagged, fields⟩ := TaggedContent.decode_of_holds kinds
      "internally tagged enum Response" exact shallow rfl rfl holds (by decide)
    simp only [tagged, fields, bind, Except.bind]
  | results records =>
    have holds : resultsLayout.Holds .buffer (records, ())
        [("results", .array (records.map ApplicationRecord.toJson))] :=
      .member (Decoder.list_map fun r isResult =>
        ApplicationRecord.decode_toJson (inRange r isResult)) .done
    obtain ⟨tagged, fields⟩ := TaggedContent.decode_of_holds kinds
      "internally tagged enum Response" exact shallow rfl rfl holds (by decide)
    simp only [tagged, fields, bind, Except.bind]
  | updated message application =>
    have holds : updatedLayout.Holds .buffer (message, application, ())
        [("message", .string message), ("application", application.toJson)] :=
      .member rfl <| .member (ApplicationFields.decode_toJson inRange) .done
    obtain ⟨tagged, fields⟩ := TaggedContent.decode_of_holds kinds
      "internally tagged enum Response" exact shallow rfl rfl holds (by decide)
    simp only [tagged, fields, bind, Except.bind]
  | fileLink url expiresAt =>
    have holds : fileLinkLayout.Holds .buffer (url, expiresAt, ())
        [("url", .string url), ("expires_at", .string expiresAt.text)] :=
      .member rfl <| .member (Decoder.instant_text inRange) .done
    obtain ⟨tagged, fields⟩ := TaggedContent.decode_of_holds kinds
      "internally tagged enum Response" exact shallow rfl rfl holds (by decide)
    simp only [tagged, fields, bind, Except.bind]
  | error status code reason =>
    have holds : errorLayout.Holds .buffer (status, code, reason, ())
        [("status", .integer status), ("code", .string code.name), ("error", .string reason)] :=
      .member (Decoder.word16_integer inRange) <| .member code.decode_name <| .member rfl .done
    obtain ⟨tagged, fields⟩ := TaggedContent.decode_of_holds kinds
      "internally tagged enum Response" exact shallow rfl rfl holds (by decide)
    simp only [tagged, fields, bind, Except.bind]

end Response

end ApplicationLedger
