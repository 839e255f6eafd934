/-
This file proves that fields are decoded from the members that hold them. Members hold the values of
a layout if they come in the order of the fields, each decodes to the value of its field, and the
fields that are left out have their defaults. If the names of the fields are distinct, no member is
taken for another field. The members of a tagged value stand behind its kind.
-/

import ApplicationLedger.Proofs.Json.Nesting
import ApplicationLedger.Proofs.Json.Yield
import ApplicationLedger.Json.Choice

namespace ApplicationLedger

/-- A list is decoded from a buffer if each of its items is. -/
theorem Decoder.list_map {α : Type} {decode : Decoder α} {encode : α → Json} {values : List α}
    (each : ∀ value ∈ values, decode .buffer (encode value) = .ok value) :
    list decode .buffer (.array (values.map encode)) = .ok values :=
  Json.items_map each

/-! ### Fields -/

namespace Layout

/-- The names of the fields. -/
def names {types : List Type} : Layout types → List String
  | .done => []
  | .field name _ _ rest => name :: rest.names

/-- Whether members hold the values of the fields, in their order. A field may be left out if it has
its default. -/
def Holds (medium : Medium) {types : List Type} :
    Layout types → Values types → List (String × Json) → Prop
  | .done, _, members => members = []
  | .field name decode default? rest, (value, values), members =>
    (∃ json others, members = (name, json) :: others ∧ decode medium json = .ok value ∧
      rest.Holds medium values others) ∨
    default? = some value ∧ rest.Holds medium values members

variable {medium : Medium} {types : List Type} {layout : Layout types} {values : Values types}
  {members : List (String × Json)}

theorem Holds.done : Layout.done.Holds medium () [] := rfl

theorem Holds.member {α : Type} {name : String} {decode : Decoder α} {default? : Option α}
    {value : α} {json : Json} (decoded : decode medium json = .ok value)
    (holds : layout.Holds medium values members) :
    (field name decode default? layout).Holds medium (value, values) ((name, json) :: members) :=
  .inl ⟨json, members, rfl, decoded, holds⟩

theorem Holds.name_mem (holds : layout.Holds medium values members) :
    ∀ member ∈ members, member.1 ∈ layout.names := by
  induction layout generalizing members with
  | done =>
    rw [show members = [] from holds]
    exact nofun
  | field name decode default? rest inductionHypothesis =>
    intro member isMember
    obtain ⟨json, others, rfl, _, holds⟩ | ⟨_, holds⟩ := holds
    · rcases List.mem_cons.mp isMember with rfl | isMember
      · exact List.mem_cons_self
      · exact List.mem_cons_of_mem name (inductionHypothesis holds member isMember)
    · exact List.mem_cons_of_mem name (inductionHypothesis holds member isMember)

/-- A member that names no field is not taken in. -/
theorem take?_eq_none {name : String} (unnamed : name ∉ layout.names) (value : Json)
    (draft : Draft types) : layout.take? medium name value draft = none := by
  induction layout with
  | done => rfl
  | field own decode default? rest inductionHypothesis =>
    rw [names, List.mem_cons, not_or] at unnamed
    rw [take?_field, if_neg unnamed.1, inductionHypothesis unnamed.2]
    rfl

theorem takeAll_cons (layout : Layout types) (name : String) (value : Json)
    (rest : List (String × Json)) (draft : Draft types) :
    layout.takeAll medium ((name, value) :: rest) draft =
      match layout.take? medium name value draft with
      | some taken => taken.bind (layout.takeAll medium rest)
      | none =>
        if medium.skips value then layout.takeAll medium rest draft else .error .malformed := rfl

/-- Members that do not name the first field are taken in by the others. -/
theorem takeAll_field {α : Type} {own : String} (decode : Decoder α) (default? : Option α)
    (unnamed : ∀ member ∈ members, member.1 ≠ own) (draft : Draft (α :: types)) :
    (field own decode default? layout).takeAll medium members draft =
      (layout.takeAll medium members draft.2).map fun others => (draft.1, others) := by
  induction members generalizing draft with
  | nil => rfl
  | cons member rest inductionHypothesis =>
    obtain ⟨name, value⟩ := member
    have further := inductionHypothesis fun member isMember =>
      unnamed member (List.mem_cons_of_mem _ isMember)
    rw [takeAll_cons, takeAll_cons, take?_field,
      if_neg (unnamed (name, value) List.mem_cons_self)]
    cases layout.take? medium name value draft.2 with
    | none =>
      dsimp only [Option.map_none]
      split
      · exact further draft
      · rfl
    | some taken =>
      cases taken with
      | error fault => rfl
      | ok next => exact further (draft.1, next)

/-- The fields are decoded from the members that hold them. -/
theorem ofMembers_of_holds (distinct : layout.names.Nodup)
    (holds : layout.Holds medium values members) :
    layout.ofMembers medium members = .ok values := by
  suffices complete : ∃ draft, layout.takeAll medium members layout.start = .ok draft ∧
      layout.finish draft = .ok values by
    obtain ⟨draft, taken, finished⟩ := complete
    rw [ofMembers, taken]
    exact finished
  induction layout generalizing members with
  | done =>
    rw [show members = [] from holds]
    exact ⟨(), rfl, rfl⟩
  | field own decode default? rest inductionHypothesis =>
    obtain ⟨value, values⟩ := values
    obtain ⟨new, distinct⟩ := List.nodup_cons.mp distinct
    have unnamed {members : List (String × Json)} (holds : rest.Holds medium values members) :
        ∀ member ∈ members, member.1 ≠ own :=
      fun member isMember same => new (same ▸ holds.name_mem member isMember)
    obtain ⟨json, others, rfl, decoded, holds⟩ | ⟨isDefault, holds⟩ := holds
    · obtain ⟨draft, taken, finished⟩ := inductionHypothesis distinct holds
      have first : (field own decode default? rest).take? medium own json (none, rest.start) =
          some (.ok (some value, rest.start)) := by
        refine (take?_field ..).trans ((if_pos rfl).trans ?_)
        dsimp only
        rw [decoded]
        rfl
      refine ⟨(some value, draft), ?_, ?_⟩
      · rw [takeAll_cons, start, first]
        refine (takeAll_field decode default? (unnamed holds) _).trans ?_
        dsimp only
        rw [taken]
        rfl
      · rw [finish, finished]
        rfl
    · obtain ⟨draft, taken, finished⟩ := inductionHypothesis distinct holds
      refine ⟨(none, draft), ?_, ?_⟩
      · refine (takeAll_field decode default? (unnamed holds) _).trans ?_
        dsimp only [start]
        rw [taken]
        rfl
      · rw [finish, finished, isDefault]
        rfl

/-- A value with fields is decoded from the members that hold them. -/
theorem decode_of_holds (distinct : layout.names.Nodup) (name : String)
    (holds : layout.Holds .buffer values members) :
    layout.decode name .buffer (.object members) = .ok values :=
  ofMembers_of_holds distinct holds

end Layout

/-! ### Tagged values -/

namespace TaggedContent

variable {κ : Type} {kinds : List (Spelling κ)}

/-- Members that can be kept and do not name the kind are kept. -/
theorem split_of_keeps {medium : Medium} {members : List (String × Json)}
    (untagged : ∀ member ∈ members, member.1 ≠ tagName)
    (keeps : ∀ member ∈ members, medium.keeps member.2 = true) (found : Option κ) :
    split kinds medium members found = .ok (found, members) := by
  induction members with
  | nil => rfl
  | cons member rest inductionHypothesis =>
    obtain ⟨name, value⟩ := member
    unfold split
    rw [if_neg (untagged (name, value) List.mem_cons_self),
      if_pos (keeps (name, value) List.mem_cons_self),
      inductionHypothesis (fun member isMember => untagged member (List.mem_cons_of_mem _ isMember))
        fun member isMember => keeps member (List.mem_cons_of_mem _ isMember)]
    rfl

/-- The kind of a tagged value is found in front of its members, and those are kept. -/
theorem decode_text (name : String) {kindName : String} {kind : κ}
    (known : Spelling.find kinds kindName = .ok kind) {members : List (String × Json)}
    (untagged : ∀ member ∈ members, member.1 ≠ tagName) (exact : Json.AllMembersExact members)
    (shallow : (Json.object ((tagName, .string kindName) :: members)).depth ≤ Json.nestingLimit) :
    decode kinds name (.text (Json.nestingLimit + 1))
        (.object ((tagName, .string kindName) :: members)) =
      .ok (kind, .named members) := by
  have below : Json.membersDepth members ≤ Json.nestingLimit - 1 :=
    Nat.le_trans (Nat.le_max_right _ _) (Nat.le_of_succ_le_succ shallow)
  have keeps : ∀ member ∈ members, (Medium.text Json.nestingLimit).keeps member.2 = true :=
    Json.allMembersFit_iff.mp (Json.allMembersFit_of_depth members exact _ below)
  have tagged : split kinds (.text Json.nestingLimit) ((tagName, .string kindName) :: members)
      none = .ok (some kind, members) := by
    unfold split
    rw [if_pos rfl, TaggedContent.kind, known]
    exact split_of_keeps untagged keeps (some kind)
  show (split kinds (.text Json.nestingLimit) ((tagName, .string kindName) :: members) none).bind
    _ = _
  rw [tagged]
  rfl

/-- A tagged value is decoded from its kind and the members that hold its fields. -/
theorem decode_of_holds (kinds : List (Spelling κ)) (name : String) {value : Json}
    {kindName : String} {kind : κ} {types : List Type} {layout : Layout types}
    {values : Values types} {members : List (String × Json)} (exact : value.IsExact)
    (shallow : value.depth ≤ Json.nestingLimit)
    (written : value = .object ((tagName, .string kindName) :: members))
    (known : Spelling.find kinds kindName = .ok kind)
    (holds : layout.Holds .buffer values members) (distinct : (tagName :: layout.names).Nodup) :
    decode kinds name (.text (Json.nestingLimit + 1)) value = .ok (kind, .named members) ∧
      ∀ name, (named members).fields layout name = .ok values := by
  rw [written] at exact shallow ⊢
  obtain ⟨untagged, distinct⟩ := List.nodup_cons.mp distinct
  exact ⟨decode_text name known
    (fun member isMember same => untagged (same ▸ holds.name_mem member isMember)) exact.2 shallow,
    fun _ => Layout.ofMembers_of_holds distinct holds⟩

end TaggedContent

end ApplicationLedger
