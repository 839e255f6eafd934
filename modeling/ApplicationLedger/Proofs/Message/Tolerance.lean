/-
This file proves that messages are read whatever the order of their members, and with members that
nobody knows. Objects are decoded in three ways: their fields straight from the members, the fields
of a record from the members that are not its own, and the fields of a tagged value from the members
that were kept until its kind was known. The last two split the members in the same way, so members
that vary are split into members that vary. What one step keeps, any number of steps keeps.
-/

import ApplicationLedger.Proofs.Message.Decoders
import ApplicationLedger.Proofs.Message.Tagged

namespace ApplicationLedger

variable {depth : Nat} {value value' : Json} {medium : Medium}

/-! ### Values with fields -/

/-- The fields of an application are kept wherever they stand among those of a part. -/
theorem ApplicationFields.layout_keeps {part : MessagePart} {index : Nat}
    (fields : ∀ place, part.members[index + place]? = MessagePart.fieldMembers[place]?) :
    layout.Keeps part index := by
  have text := Decoder.text_isScalar.keeps .plain
  exact ⟨_, fields 0, text, _, fields 1, text, _, fields 2, text, _, fields 3, text,
    _, fields 4, text, _, fields 5, text, _, fields 6, text, _, fields 7, text,
    _, fields 8, Decoder.boolean_isScalar.keeps .plain,
    _, fields 9, Decoder.instant_isScalar.keeps .plain, trivial⟩

theorem ApplicationFields.keeps_decode : decode.Keeps .fields := by
  have keeps : layout.Keeps .fields 0 := layout_keeps fun place => by rw [Nat.zero_add]; rfl
  exact (keeps.decode _).map _

theorem WireFile.keeps_decode : decode.Keeps .file := by
  have text := Decoder.text_isScalar.keeps .plain
  have keeps : layout.Keeps .file 0 := ⟨_, rfl, text, _, rfl, text, trivial⟩
  exact (keeps.decode _).bind _

theorem Operator.decode_isScalar : decode.IsScalar := ⟨fun _ _ _ => nofun, fun _ _ _ => nofun⟩

theorem Predicate.keeps_decode : decode.Keeps .predicate := by
  have text := Decoder.text_isScalar.keeps .plain
  have keeps : layout.Keeps .predicate 0 :=
    ⟨_, rfl, text, _, rfl, Operator.decode_isScalar.keeps .plain, _, rfl, text.optional, trivial⟩
  exact (keeps.decode _).bind _

/-- Groups are kept at every level, since the groups in them are one level below. -/
theorem Group.keeps_decodeWithin (levels : Nat) : (decodeWithin levels).Keeps .group := by
  induction levels with
  | zero => exact fun _ _ _ _ _ _ _ => nofun
  | succ levels inductionHypothesis =>
    have keeps : (layout (decodeWithin levels)).Keeps .group 0 :=
      ⟨_, rfl, .list fun _ => Predicate.keeps_decode, _, rfl, .list fun _ => inductionHypothesis,
        _, rfl, Spelling.keeps_decode _, trivial⟩
    exact (keeps.decode _).bind _

theorem Group.keeps_decode : decode.Keeps .group := keeps_decodeWithin _

theorem Query.keeps_decode : decode.Keeps .query := by
  have number := Decoder.int64_isScalar.keeps .plain
  have text := Decoder.text_isScalar.keeps .plain
  have order : SortOrder.decode.Keeps .plain := Spelling.keeps_decode _
  have keeps : layout.Keeps .query 0 :=
    ⟨_, rfl, Group.keeps_decode.optional, _, rfl, text.optional, _, rfl, order.optional,
      _, rfl, number, _, rfl, number, trivial⟩
  exact (keeps.decode _).bind _

/-! ### Members that are split -/

/-- A member that can be kept stands in front of the others that are. -/
theorem kept_eq_ok_iff {δ : Type} {keeps : Bool} {member : String × Json}
    {rest : Except DecodeFault (δ × List (String × Json))} {result : δ}
    {others : List (String × Json)} :
    (if keeps = true then rest.bind fun (draft, kept) => .ok (draft, member :: kept)
      else .error .malformed) = .ok (result, others) ↔
        keeps = true ∧ ∃ kept, others = member :: kept ∧ rest = .ok (result, kept) := by
  cases keeps with
  | false => exact ⟨nofun, fun ⟨impossible, _⟩ => nomatch impossible⟩
  | true =>
    rw [if_pos rfl, bind_eq_ok]
    constructor
    · rintro ⟨⟨draft, kept⟩, read, ⟨⟩⟩
      exact ⟨rfl, kept, rfl, read⟩
    · rintro ⟨_, kept, rfl, read⟩
      exact ⟨(result, kept), read, rfl⟩

/-! ### Records -/

namespace ApplicationRecord

/-- The own members of a record are taken in, and the others are kept for its fields. -/
theorem split_eq_ok_iff {members others : List (String × Json)}
    {draft result : Draft [String, List String]} :
    split medium members draft = .ok (result, others) ↔
      ownLayout.Splits medium members draft result others := by
  induction members generalizing draft others with
  | nil =>
    rw [Layout.splits_nil_iff, split, Except.ok.injEq, Prod.mk.injEq]
    exact and_congr_right fun _ => eq_comm
  | cons member rest inductionHypothesis =>
    obtain ⟨name, value⟩ := member
    rw [Layout.splits_cons_iff]
    unfold split
    split
    · rename_i outcome taken
      rw [taken]
      constructor
      · intro further
        obtain ⟨next, rfl, further⟩ := bind_eq_ok.mp further
        exact .inl ⟨next, rfl, inductionHypothesis.mp further⟩
      · rintro (⟨next, same, further⟩ | ⟨unnamed, _⟩)
        · cases same
          exact bind_eq_ok.mpr ⟨next, rfl, inductionHypothesis.mpr further⟩
        · rw [Layout.take?_eq_none unnamed] at taken
          cases taken
    · rename_i taken
      have unnamed := Layout.take?_eq_none_iff.mp taken
      rw [taken, or_iff_right (by rintro ⟨_, ⟨⟩, _⟩)]
      refine kept_eq_ok_iff.trans ?_
      simp only [unnamed, not_false_eq_true, true_and, inductionHypothesis]

theorem keeps_decode : decode.Keeps .record := by
  have text := Decoder.text_isScalar.keeps .plain
  have own : ownLayout.Keeps .record 0 :=
    ⟨_, rfl, text, _, rfl, .list fun _ => text, trivial⟩
  have fields : ApplicationFields.layout.Keeps .record 2 :=
    ApplicationFields.layout_keeps fun place => by rw [Nat.add_comm]; rfl
  intro depth value value' medium result varies isAt decoded
  obtain ⟨members, _, rfl, _⟩ | ⟨items, _, rfl, _⟩ := varies.isNested
  · obtain ⟨members', rfl, vary⟩ := varies.exists_members
    obtain ⟨inside, entered, decoded⟩ := bind_eq_ok.mp decoded
    obtain ⟨⟨draft, others⟩, splits, decoded⟩ := bind_eq_ok.mp decoded
    obtain ⟨⟨id, files, ⟨⟩⟩, finished, decoded⟩ := bind_eq_ok.mp decoded
    obtain ⟨values, read, made⟩ := bind_eq_ok.mp decoded
    have isInside := isAt.enter entered
    obtain ⟨others', splits', vary'⟩ := (split_eq_ok_iff.mp splits).of_vary (own.ignores isInside)
      vary (fun _ _ admits => isInside.keeps admits.2.2)
      fun _ _ _ changed => isInside.keeps_of_varies changed
    refine bind_eq_ok.mpr ⟨inside, entered, bind_eq_ok.mpr
      ⟨(draft, others'), split_eq_ok_iff.mpr splits', bind_eq_ok.mpr
        ⟨(id, files, ()), finished, bind_eq_ok.mpr ⟨values, ?_, made⟩⟩⟩⟩
    exact (fields.ignores (.inl rfl)).ofMembers vary' read
  · cases decoded

end ApplicationRecord

/-! ### Tagged values -/

namespace TaggedContent

variable {κ : Type} {kinds : List (Spelling κ)}

/-- The kind as the one field that a tagged value has by itself. -/
def tagLayout (kinds : List (Spelling κ)) : Layout [κ] :=
  .field tagName (fun _ => kind kinds) none .done

/-- What is known of the kind so far. -/
def tagDraft (found : Option κ) : Draft [κ] := (found, ())

theorem kind_isScalar : Decoder.IsScalar fun _ => kind kinds :=
  ⟨fun _ _ _ => nofun, fun _ _ _ => nofun⟩

theorem take?_tagLayout_eq_ok_iff {name : String} {value : Json} {found : Option κ}
    {next : Draft [κ]} :
    (tagLayout kinds).take? medium name value (tagDraft found) = some (.ok next) ↔
      name = tagName ∧ found = none ∧ ∃ chosen, kind kinds value = .ok chosen ∧
        next = tagDraft (some chosen) := by
  refine Layout.take?_field_eq_ok_iff.trans (or_iff_left ?_)
  rintro ⟨_, others, taken, _⟩
  cases taken

/-- The member that names the kind is taken in, and the others are kept until it is known. -/
theorem split_eq_ok_iff {members others : List (String × Json)} {found result : Option κ} :
    split kinds medium members found = .ok (result, others) ↔
      (tagLayout kinds).Splits medium members (tagDraft found) (tagDraft result) others := by
  induction members generalizing found others with
  | nil =>
    rw [Layout.splits_nil_iff, split, Except.ok.injEq, Prod.mk.injEq]
    exact and_congr ⟨congrArg tagDraft, congrArg Prod.fst⟩ eq_comm
  | cons member rest inductionHypothesis =>
    obtain ⟨name, value⟩ := member
    rw [Layout.splits_cons_iff]
    unfold split
    split
    · rename_i isTag
      have named : ¬name ∉ (tagLayout kinds).names := fun new => new (isTag ▸ List.mem_cons_self)
      rw [or_iff_left fun other => named other.1]
      cases found with
      | some held =>
        constructor
        · intro failed
          cases failed
        · rintro ⟨next, taken, _⟩
          obtain ⟨_, free, _⟩ := take?_tagLayout_eq_ok_iff.mp taken
          cases free
      | none =>
        constructor
        · intro further
          obtain ⟨chosen, known, further⟩ := bind_eq_ok.mp further
          exact ⟨_, take?_tagLayout_eq_ok_iff.mpr ⟨isTag, rfl, chosen, known, rfl⟩,
            inductionHypothesis.mp further⟩
        · rintro ⟨next, taken, further⟩
          obtain ⟨_, _, chosen, known, rfl⟩ := take?_tagLayout_eq_ok_iff.mp taken
          exact bind_eq_ok.mpr ⟨chosen, known, inductionHypothesis.mpr further⟩
    · rename_i isOther
      have unnamed : name ∉ (tagLayout kinds).names := fun isTag =>
        isOther (List.mem_singleton.mp isTag)
      rw [Layout.take?_eq_none unnamed, or_iff_right (by rintro ⟨_, ⟨⟩, _⟩)]
      refine kept_eq_ok_iff.trans ?_
      simp only [unnamed, not_false_eq_true, true_and, inductionHypothesis]

variable {part : MessagePart} {types : List Type} {layout : Layout types}

/-- A tagged value that varies has the same kind, and the same fields in its content. -/
theorem decode_of_varies (tagged : part.members[0]? = some (tagName, .plain))
    (keeps : layout.Keeps part 1) (varies : part.Varies depth value value')
    (isAt : medium.IsAt depth) {name text : String} {kind : κ} {content : TaggedContent}
    {values : Values types} (decoded : decode kinds name medium value = .ok (kind, content))
    (read : content.fields layout text = .ok values) :
    ∃ content', decode kinds name medium value' = .ok (kind, content') ∧
      content'.fields layout text = .ok values := by
  have own : (tagLayout kinds).Keeps part 0 := ⟨_, tagged, kind_isScalar.keeps .plain, trivial⟩
  obtain ⟨members, _, rfl, _⟩ | ⟨items, _, rfl, _⟩ := varies.isNested
  · obtain ⟨members', rfl, vary⟩ := varies.exists_members
    obtain ⟨inside, entered, decoded⟩ := bind_eq_ok.mp decoded
    obtain ⟨⟨found, others⟩, splits, decoded⟩ := bind_eq_ok.mp decoded
    cases found with
    | none => cases decoded
    | some kind =>
      cases decoded
      have isInside := isAt.enter entered
      obtain ⟨others', splits', vary'⟩ := (split_eq_ok_iff.mp splits).of_vary
        (own.ignores isInside) vary (fun _ _ admits => isInside.keeps admits.2.2)
        fun _ _ _ changed => isInside.keeps_of_varies changed
      refine ⟨.named others', bind_eq_ok.mpr ⟨inside, entered, bind_eq_ok.mpr
        ⟨(some kind, others'), split_eq_ok_iff.mpr splits', rfl⟩⟩, ?_⟩
      exact (keeps.ignores (.inl rfl)).ofMembers vary' read
  · obtain ⟨before, item, item', after, rfl, rfl, changed⟩ := varies.exists_item
    obtain ⟨inside, entered, decoded⟩ := bind_eq_ok.mp decoded
    have isInside := isAt.enter entered
    cases before with
    | nil =>
      obtain ⟨chosen, known, _⟩ := bind_eq_ok.mp decoded
      obtain ⟨members, _, rfl, _⟩ | ⟨items, _, rfl, _⟩ := changed.isNested
      · exact absurd known (kind_isScalar.object medium members chosen)
      · exact absurd known (kind_isScalar.array medium items chosen)
    | cons first before =>
      obtain ⟨chosen, known, decoded⟩ := bind_eq_ok.mp decoded
      split at decoded
      · rename_i kept
        cases decoded
        change (before ++ item :: after).all inside.keeps = true at kept
        have keptStill : (before ++ item' :: after).all inside.keeps = true := by
          simp only [List.all_append, List.all_cons, Bool.and_eq_true] at kept ⊢
          exact ⟨kept.1, isInside.keeps_of_varies changed kept.2.1, kept.2.2⟩
        rw [List.length_cons, Nat.add_comm] at changed
        exact ⟨.ordered (before ++ item' :: after), bind_eq_ok.mpr ⟨inside, entered,
          bind_eq_ok.mpr ⟨kind, known, if_pos keptStill⟩⟩, keeps.ofItems changed (.inl rfl) read⟩
      · cases decoded

end TaggedContent

/-! ### Messages -/

namespace Request

/-- The kind of a request. -/
def kind : Request → Kind
  | upload _ _ => .upload
  | .query _ => .query
  | update _ _ => .update
  | fileLink _ _ => .fileLink

/-- A request that varies like one of its kind decodes to the same request. -/
theorem decode_of_varies {r : Request}
    (varies : (MessagePart.request r.kind).Varies depth value value')
    (isAt : medium.IsAt depth) (decoded : decode medium value = .ok r) :
    decode medium value' = .ok r := by
  have text := Decoder.text_isScalar.keeps .plain
  obtain ⟨⟨kind, content⟩, tagged, decoded⟩ := bind_eq_ok.mp decoded
  cases kind with
  | upload =>
    obtain ⟨⟨application, files, ⟨⟩⟩, read, made⟩ := bind_eq_ok.mp decoded
    cases made
    have keeps : uploadLayout.Keeps (.request .upload) 1 :=
      ⟨_, rfl, ApplicationFields.keeps_decode, _, rfl, .list fun _ => WireFile.keeps_decode,
        trivial⟩
    obtain ⟨content', tagged, read⟩ :=
      TaggedContent.decode_of_varies rfl keeps varies isAt tagged read
    exact bind_eq_ok.mpr ⟨_, tagged, bind_eq_ok.mpr ⟨_, read, rfl⟩⟩
  | query =>
    obtain ⟨⟨asked, ⟨⟩⟩, read, made⟩ := bind_eq_ok.mp decoded
    cases made
    have keeps : queryLayout.Keeps (.request .query) 1 := ⟨_, rfl, Query.keeps_decode, trivial⟩
    obtain ⟨content', tagged, read⟩ :=
      TaggedContent.decode_of_varies rfl keeps varies isAt tagged read
    exact bind_eq_ok.mpr ⟨_, tagged, bind_eq_ok.mpr ⟨_, read, rfl⟩⟩
  | update =>
    obtain ⟨⟨id, application, ⟨⟩⟩, read, made⟩ := bind_eq_ok.mp decoded
    cases made
    have keeps : updateLayout.Keeps (.request .update) 1 :=
      ⟨_, rfl, text, _, rfl, ApplicationFields.keeps_decode, trivial⟩
    obtain ⟨content', tagged, read⟩ :=
      TaggedContent.decode_of_varies rfl keeps varies isAt tagged read
    exact bind_eq_ok.mpr ⟨_, tagged, bind_eq_ok.mpr ⟨_, read, rfl⟩⟩
  | fileLink =>
    obtain ⟨⟨id, fileName, ⟨⟩⟩, read, made⟩ := bind_eq_ok.mp decoded
    cases made
    have keeps : fileLinkLayout.Keeps (.request .fileLink) 1 :=
      ⟨_, rfl, text, _, rfl, text, trivial⟩
    obtain ⟨content', tagged, read⟩ :=
      TaggedContent.decode_of_varies rfl keeps varies isAt tagged read
    exact bind_eq_ok.mpr ⟨_, tagged, bind_eq_ok.mpr ⟨_, read, rfl⟩⟩

end Request

namespace Response

/-- The kind of a response. -/
def kind : Response → Kind
  | uploaded _ _ _ => .uploaded
  | results _ => .results
  | updated _ _ => .updated
  | fileLink _ _ => .fileLink
  | .error _ _ _ => .error

/-- A response that varies like one of its kind decodes to the same response. -/
theorem decode_of_varies {r : Response}
    (varies : (MessagePart.response r.kind).Varies depth value value')
    (isAt : medium.IsAt depth) (decoded : decode medium value = .ok r) :
    decode medium value' = .ok r := by
  have text := Decoder.text_isScalar.keeps .plain
  obtain ⟨⟨kind, content⟩, tagged, decoded⟩ := bind_eq_ok.mp decoded
  cases kind with
  | uploaded =>
    obtain ⟨⟨message, application, count, ⟨⟩⟩, read, made⟩ := bind_eq_ok.mp decoded
    cases made
    have keeps : uploadedLayout.Keeps (.response .uploaded) 1 :=
      ⟨_, rfl, text, _, rfl, ApplicationRecord.keeps_decode, _, rfl,
        Decoder.count_isScalar.keeps .plain, trivial⟩
    obtain ⟨content', tagged, read⟩ :=
      TaggedContent.decode_of_varies rfl keeps varies isAt tagged read
    exact bind_eq_ok.mpr ⟨_, tagged, bind_eq_ok.mpr ⟨_, read, rfl⟩⟩
  | results =>
    obtain ⟨⟨records, ⟨⟩⟩, read, made⟩ := bind_eq_ok.mp decoded
    cases made
    have keeps : resultsLayout.Keeps (.response .results) 1 :=
      ⟨_, rfl, .list fun _ => ApplicationRecord.keeps_decode, trivial⟩
    obtain ⟨content', tagged, read⟩ :=
      TaggedContent.decode_of_varies rfl keeps varies isAt tagged read
    exact bind_eq_ok.mpr ⟨_, tagged, bind_eq_ok.mpr ⟨_, read, rfl⟩⟩
  | updated =>
    obtain ⟨⟨message, application, ⟨⟩⟩, read, made⟩ := bind_eq_ok.mp decoded
    cases made
    have keeps : updatedLayout.Keeps (.response .updated) 1 :=
      ⟨_, rfl, text, _, rfl, ApplicationFields.keeps_decode, trivial⟩
    obtain ⟨content', tagged, read⟩ :=
      TaggedContent.decode_of_varies rfl keeps varies isAt tagged read
    exact bind_eq_ok.mpr ⟨_, tagged, bind_eq_ok.mpr ⟨_, read, rfl⟩⟩
  | fileLink =>
    obtain ⟨⟨url, expiresAt, ⟨⟩⟩, read, made⟩ := bind_eq_ok.mp decoded
    cases made
    have keeps : fileLinkLayout.Keeps (.response .fileLink) 1 :=
      ⟨_, rfl, text, _, rfl, Decoder.instant_isScalar.keeps .plain, trivial⟩
    obtain ⟨content', tagged, read⟩ :=
      TaggedContent.decode_of_varies rfl keeps varies isAt tagged read
    exact bind_eq_ok.mpr ⟨_, tagged, bind_eq_ok.mpr ⟨_, read, rfl⟩⟩
  | error =>
    obtain ⟨⟨status, code, reason, ⟨⟩⟩, read, made⟩ := bind_eq_ok.mp decoded
    cases made
    have keeps : errorLayout.Keeps (.response .error) 1 :=
      ⟨_, rfl, Decoder.word16_isScalar.keeps .plain, _, rfl, Spelling.keeps_decode _, _, rfl, text,
        trivial⟩
    obtain ⟨content', tagged, read⟩ :=
      TaggedContent.decode_of_varies rfl keeps varies isAt tagged read
    exact bind_eq_ok.mpr ⟨_, tagged, bind_eq_ok.mpr ⟨_, read, rfl⟩⟩

end Response

/-! ### Texts -/

theorem Decoder.ofText_eq_ok_iff {α : Type} {decode : Decoder α} {text : String} {result : α} :
    decode.ofText text = .ok result ↔
      decode (.text (Json.nestingLimit + 1)) (Json.read text).value = .ok result ∧
        (Json.read text).isWhole = true := by
  constructor
  · intro read
    obtain ⟨found, decoded, ended⟩ := bind_eq_ok.mp read
    split at ended
    · rename_i whole
      cases ended
      exact ⟨decoded, whole⟩
    · cases ended
  · exact fun ⟨decoded, whole⟩ => bind_eq_ok.mpr ⟨result, decoded, if_pos whole⟩

namespace MessagePart

/-- Whether a second text is a value to its end, and that one varies the value of the first. -/
def VariedText (part : MessagePart) (text text' : String) : Prop :=
  part.Varied (Json.read text).value (Json.read text').value ∧ (Json.read text').isWhole = true

/-- A text decodes to the same result after any number of steps if a value does after each. -/
theorem VariedText.ofText {part : MessagePart} {text text' : String}
    (varied : part.VariedText text text') {α : Type} {decode : Decoder α} {result : α}
    (step : ∀ {depth value value' medium}, part.Varies depth value value' →
      Medium.IsAt medium depth → decode medium value = .ok result →
        decode medium value' = .ok result)
    (decoded : decode.ofText text = .ok result) : decode.ofText text' = .ok result := by
  obtain ⟨steps, whole⟩ := varied
  obtain ⟨decoded, _⟩ := Decoder.ofText_eq_ok_iff.mp decoded
  refine Decoder.ofText_eq_ok_iff.mpr ⟨?_, whole⟩
  generalize (Json.read text').value = last at steps
  induction steps with
  | refl => exact decoded
  | tail _ varies inductionHypothesis => exact step varies (.inr rfl) inductionHypothesis

/-- A text that decodes as a message, a record, the fields of an application, a predicate, a group
or a query decodes to the same value with the members of its objects in any other order, and with
more members in its objects that have fields, if no field has their names. The fields of a message
are its kind and those that go with it. -/
theorem ofText_of_variedText {text text' : String} :
    (∀ r : Request, (request r.kind).VariedText text text' →
      Request.decode.ofText text = .ok r → Request.decode.ofText text' = .ok r) ∧
    (∀ r : Response, (response r.kind).VariedText text text' →
      Response.decode.ofText text = .ok r → Response.decode.ofText text' = .ok r) ∧
    (∀ r : ApplicationRecord, record.VariedText text text' →
      ApplicationRecord.decode.ofText text = .ok r →
        ApplicationRecord.decode.ofText text' = .ok r) ∧
    (∀ f : ApplicationFields, fields.VariedText text text' →
      ApplicationFields.decode.ofText text = .ok f →
        ApplicationFields.decode.ofText text' = .ok f) ∧
    (∀ p : Predicate, predicate.VariedText text text' →
      Predicate.decode.ofText text = .ok p → Predicate.decode.ofText text' = .ok p) ∧
    (∀ g : Group, group.VariedText text text' →
      Group.decode.ofText text = .ok g → Group.decode.ofText text' = .ok g) ∧
    ∀ q : Query, query.VariedText text text' →
      Query.decode.ofText text = .ok q → Query.decode.ofText text' = .ok q :=
  ⟨fun _ varied => varied.ofText Request.decode_of_varies,
    fun _ varied => varied.ofText Response.decode_of_varies,
    fun _ varied => varied.ofText fun varies => ApplicationRecord.keeps_decode varies,
    fun _ varied => varied.ofText fun varies => ApplicationFields.keeps_decode varies,
    fun _ varied => varied.ofText fun varies => Predicate.keeps_decode varies,
    fun _ varied => varied.ofText fun varies => Group.keeps_decode varies,
    fun _ varied => varied.ofText fun varies => Query.keeps_decode varies⟩

/-- A query for the applications to one company. -/
def companyQuery : Query :=
  ⟨some (.mk [⟨"company", .compare .equal, some "Acme"⟩] [] .or), none, none, 10, 0⟩

/-- The request with that query in front of its kind, and with a note at its predicate. -/
def annotatedRequest : Json :=
  .object
    [("query", .object
      [("where", .object
        [("filters", .array [.object [("note", .array [.null]), ("field", .string "company"),
          ("operator", .string "="), ("value", .string "Acme")]]),
          ("subgroups", .array []), ("operator", .string "OR")]),
        ("limit", .integer 10), ("page", .integer 0)]),
      ("kind", .string "query")]

theorem ofText_of_variedText_query :
    (request .query).VariedText (Json.compact (Request.query companyQuery).toJson)
      (Json.compact annotatedRequest) ∧
    Request.decode.ofText (Json.compact (Request.query companyQuery).toJson) =
      .ok (.query companyQuery) ∧
    Request.decode.ofText (Json.compact annotatedRequest) = .ok (.query companyQuery) := by
  have inRange : companyQuery.InRange :=
    ⟨⟨by decide, by decide⟩, by decide, by decide⟩
  have exact : annotatedRequest.IsExact :=
    ⟨⟨⟨⟨⟨⟨trivial, trivial⟩, trivial, trivial, trivial, trivial⟩, trivial⟩, trivial, trivial,
      trivial⟩, .of_int64 (by decide) (by decide), .of_int64 (by decide) (by decide), trivial⟩,
      trivial, trivial⟩
  have plain := Json.read_compact (Request.isExact_toJson (r := .query companyQuery) inRange)
  have varied : (request .query).VariedText (Json.compact (Request.query companyQuery).toJson)
      (Json.compact annotatedRequest) := by
    rw [VariedText, plain, Json.read_compact exact]
    have admits : predicate.Admits 124 "note" (.array [.null]) := ⟨by decide, by decide, rfl⟩
    have noted := Varies.extra admits
      [("field", .string "company"), ("operator", .string "="), ("value", .string "Acme")]
    have inFilters := @Varies.item (list predicate) 125 [] _ _ noted []
    have inGroup := @Varies.member group 126 "filters" _ _ inFilters
      [("subgroups", .array []), ("operator", .string "OR")]
    have inQuery := @Varies.member query 127 "where" _ _ inGroup
      [("limit", .integer 10), ("page", .integer 0)]
    have inRequest := @Varies.member (request .query) 128 "query" _ _ inQuery
      [("kind", .string "query")]
    exact ⟨.tail (.single (.order (.swap ..))) inRequest, rfl⟩
  have decoded : Request.decode.ofText (Json.compact (Request.query companyQuery).toJson) =
      .ok (.query companyQuery) := by
    rw [Decoder.ofText_eq_ok_iff, plain]
    exact ⟨Request.decode_toJson (r := .query companyQuery) inRange (by decide), rfl⟩
  exact ⟨varied, decoded, ofText_of_variedText.1 (.query companyQuery) varied decoded⟩

end MessagePart

end ApplicationLedger
