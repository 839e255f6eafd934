/-
This file proves that fields do not depend on the order of the members they are decoded from. Of two
members that are taken in one after the other, each can come first, so every order of all members
ends in the same draft. Nor does it matter if there is one more member that names no field, or
another value that a field decodes to the same. Where a layout takes only its own members and leaves
the others to another one, both get what they got before.
-/

import Mathlib.Data.List.Basic
import ApplicationLedger.Proofs.Json.Members

namespace ApplicationLedger

/-! ### Members -/

/-- Members in another order, with one more that may be added, or with another value of one. -/
inductive Json.MembersVary (added : String → Json → Prop) (changed : String → Json → Json → Prop) :
    List (String × Json) → List (String × Json) → Prop
  | order {members members' : List (String × Json)} (same : members.Perm members') :
    MembersVary added changed members members'
  | extra {name : String} {value : Json} (isAdded : added name value)
      (members : List (String × Json)) :
    MembersVary added changed members ((name, value) :: members)
  | member {name : String} {value value' : Json} (isChanged : changed name value value')
      (rest : List (String × Json)) :
    MembersVary added changed ((name, value) :: rest) ((name, value') :: rest)

namespace Json.MembersVary

variable {added : String → Json → Prop} {changed : String → Json → Json → Prop}
  {members members' : List (String × Json)}

/-- Members chosen by their names vary like all members. -/
theorem filter (vary : MembersVary added changed members members') (chosen : String → Bool) :
    MembersVary added changed (members.filter (chosen ·.1)) (members'.filter (chosen ·.1)) := by
  cases vary with
  | order same => exact .order (same.filter _)
  | @extra name value isAdded =>
    by_cases isChosen : chosen name = true
    · rw [List.filter_cons, if_pos isChosen]
      exact .extra isAdded _
    · rw [List.filter_cons, if_neg isChosen]
      exact .order (.refl _)
  | @member name value value' isChanged rest =>
    by_cases isChosen : chosen name = true
    · rw [List.filter_cons, if_pos isChosen, List.filter_cons, if_pos isChosen]
      exact .member isChanged _
    · rw [List.filter_cons, if_neg isChosen, List.filter_cons, if_neg isChosen]
      exact .order (.refl _)

/-- What holds of all values still does if it holds of what is added and no change loses it. -/
theorem forall_values (vary : MembersVary added changed members members') {holds : Json → Prop}
    (ofAdded : ∀ name value, added name value → holds value)
    (ofChanged : ∀ name value value', changed name value value' → holds value → holds value')
    (all : ∀ member ∈ members, holds member.2) : ∀ member ∈ members', holds member.2 := by
  cases vary with
  | order same => exact fun member isMember => all member (same.mem_iff.mpr isMember)
  | extra isAdded => exact List.forall_mem_cons.mpr ⟨ofAdded _ _ isAdded, all⟩
  | member isChanged =>
    obtain ⟨first, others⟩ := List.forall_mem_cons.mp all
    exact List.forall_mem_cons.mpr ⟨ofChanged _ _ _ isChanged first, others⟩

end Json.MembersVary

namespace Layout

variable {types : List Type} {layout : Layout types} {medium : Medium}
  {members members' : List (String × Json)} {draft next result : Draft types}

/-! ### One member after the other -/

/-- A member is taken in by the first field if it has its name, and by the others if not. -/
theorem take?_field_eq_ok_iff {α : Type} {own : String} {decode : Decoder α} {default? : Option α}
    {name : String} {value : Json} {draft next : Draft (α :: types)} :
    (field own decode default? layout).take? medium name value draft = some (.ok next) ↔
      (name = own ∧ draft.1 = none ∧ ∃ decoded, decode medium value = .ok decoded ∧
        next = (some decoded, draft.2)) ∨
      name ≠ own ∧ ∃ others, layout.take? medium name value draft.2 = some (.ok others) ∧
        next = (draft.1, others) := by
  constructor
  · intro taken
    rw [take?_field] at taken
    split at taken
    · rename_i same
      split at taken
      · cases taken
      · rename_i free
        obtain ⟨decoded, read, made⟩ := map_eq_ok_iff.mp (Option.some.inj taken)
        exact .inl ⟨same, free, decoded, read, made.symm⟩
    · rename_i other
      obtain ⟨outcome, taken, mapped⟩ := Option.map_eq_some_iff.mp taken
      obtain ⟨others, rfl, made⟩ := map_eq_ok_iff.mp mapped
      exact .inr ⟨other, others, taken, made.symm⟩
  · rintro (⟨same, free, decoded, read, rfl⟩ | ⟨other, others, taken, rfl⟩)
    · rw [take?_field, if_pos same, free]
      exact congrArg some (map_eq_ok_iff.mpr ⟨decoded, read, rfl⟩)
    · rw [take?_field, if_neg other, taken]
      rfl

/-- Only a member that names no field is not taken in. -/
theorem take?_eq_none_iff {name : String} {value : Json} :
    layout.take? medium name value draft = none ↔ name ∉ layout.names := by
  refine ⟨fun left => ?_, fun unnamed => take?_eq_none unnamed value draft⟩
  induction layout with
  | done => exact List.not_mem_nil
  | field own decode default? rest inductionHypothesis =>
    rw [take?_field] at left
    split at left
    · split at left <;> cases left
    · rename_i other
      rw [names, List.mem_cons, not_or]
      exact ⟨other, inductionHypothesis (Option.map_eq_none_iff.mp left)⟩

/-- Whether a member leads from one draft to another: it is taken in, or it names no field and is
passed over. -/
def Leads (layout : Layout types) (medium : Medium) (member : String × Json)
    (draft next : Draft types) : Prop :=
  layout.take? medium member.1 member.2 draft = some (.ok next) ∨
    member.1 ∉ layout.names ∧ medium.skips member.2 = true ∧ next = draft

/-- Members are taken in when each leads from the draft that the one before it led to. -/
theorem takeAll_cons_eq_ok_iff {member : String × Json} :
    layout.takeAll medium (member :: members) draft = .ok result ↔
      ∃ next, layout.Leads medium member draft next ∧
        layout.takeAll medium members next = .ok result := by
  obtain ⟨name, value⟩ := member
  rw [takeAll_cons]
  cases taken : layout.take? medium name value draft with
  | some outcome =>
    have named : ¬name ∉ layout.names := fun unnamed =>
      absurd (taken.symm.trans (take?_eq_none unnamed value draft)) nofun
    rw [bind_eq_ok]
    constructor
    · rintro ⟨next, rfl, further⟩
      exact ⟨next, .inl taken, further⟩
    · rintro ⟨next, leads | ⟨unnamed, _⟩, further⟩
      · exact ⟨next, Option.some.inj (taken.symm.trans leads), further⟩
      · exact absurd unnamed named
  | none =>
    have unnamed := take?_eq_none_iff.mp taken
    constructor
    · intro further
      dsimp only at further
      split at further
      · rename_i skips
        exact ⟨draft, .inr ⟨unnamed, skips, rfl⟩, further⟩
      · cases further
    · rintro ⟨next, leads | ⟨_, skips, rfl⟩, further⟩
      · exact absurd (taken.symm.trans leads) nofun
      · dsimp only
        rw [if_pos skips, further]

/-! ### Any order -/

/-- Two members that are taken in one after the other can be taken in the other way round. -/
theorem take?_swap {first second : String × Json}
    (one : layout.take? medium first.1 first.2 draft = some (.ok next))
    (two : layout.take? medium second.1 second.2 next = some (.ok result)) :
    ∃ other, layout.take? medium second.1 second.2 draft = some (.ok other) ∧
      layout.take? medium first.1 first.2 other = some (.ok result) := by
  induction layout with
  | done => cases one
  | field own decode default? rest inductionHypothesis =>
    rcases take?_field_eq_ok_iff.mp one with
      ⟨isFirst, free, value, decoded, rfl⟩ | ⟨notFirst, others, taken, rfl⟩ <;>
    rcases take?_field_eq_ok_iff.mp two with
      ⟨isSecond, free', value', decoded', rfl⟩ | ⟨notSecond, others', taken', rfl⟩
    · cases free'
    · exact ⟨(draft.1, others'), take?_field_eq_ok_iff.mpr (.inr ⟨notSecond, _, taken', rfl⟩),
        take?_field_eq_ok_iff.mpr (.inl ⟨isFirst, free, value, decoded, rfl⟩)⟩
    · exact ⟨(some value', draft.2),
        take?_field_eq_ok_iff.mpr (.inl ⟨isSecond, free', value', decoded', rfl⟩),
        take?_field_eq_ok_iff.mpr (.inr ⟨notFirst, others, taken, rfl⟩)⟩
    · obtain ⟨other, second, first⟩ := inductionHypothesis taken taken'
      exact ⟨(draft.1, other), take?_field_eq_ok_iff.mpr (.inr ⟨notSecond, other, second, rfl⟩),
        take?_field_eq_ok_iff.mpr (.inr ⟨notFirst, others', first, rfl⟩)⟩

theorem Leads.swap {first second : String × Json} (one : layout.Leads medium first draft next)
    (two : layout.Leads medium second next result) :
    ∃ other, layout.Leads medium second draft other ∧ layout.Leads medium first other result := by
  obtain taken | ⟨unnamed, skips, rfl⟩ := one
  · obtain taken' | ⟨unnamed', skips', rfl⟩ := two
    · obtain ⟨other, second, first⟩ := take?_swap taken taken'
      exact ⟨other, .inl second, .inl first⟩
    · exact ⟨draft, .inr ⟨unnamed', skips', rfl⟩, .inl taken⟩
  · exact ⟨result, two, .inr ⟨unnamed, skips, rfl⟩⟩

/-- The order of the members makes no difference. -/
theorem takeAll_perm (same : members.Perm members')
    (taken : layout.takeAll medium members draft = .ok result) :
    layout.takeAll medium members' draft = .ok result := by
  induction same generalizing draft with
  | nil => exact taken
  | cons member _ inductionHypothesis =>
    obtain ⟨next, leads, further⟩ := takeAll_cons_eq_ok_iff.mp taken
    exact takeAll_cons_eq_ok_iff.mpr ⟨next, leads, inductionHypothesis further⟩
  | swap second first rest =>
    obtain ⟨next, leads, further⟩ := takeAll_cons_eq_ok_iff.mp taken
    obtain ⟨last, leads', further⟩ := takeAll_cons_eq_ok_iff.mp further
    obtain ⟨other, second, first⟩ := leads.swap leads'
    exact takeAll_cons_eq_ok_iff.mpr
      ⟨other, second, takeAll_cons_eq_ok_iff.mpr ⟨last, first, further⟩⟩
  | trans _ _ firstHypothesis secondHypothesis => exact secondHypothesis (firstHypothesis taken)

/-! ### Members that vary -/

/-- Whether it makes no difference to a layout if members are added or values changed. -/
structure Ignores (layout : Layout types) (medium : Medium) (added : String → Json → Prop)
    (changed : String → Json → Json → Prop) : Prop where
  unnamed : ∀ {name value}, added name value → name ∉ layout.names
  skips : ∀ {name value}, added name value → medium.skips value = true
  leads : ∀ {name value value' draft next}, changed name value value' →
    layout.Leads medium (name, value) draft next → layout.Leads medium (name, value') draft next

variable {added : String → Json → Prop} {changed : String → Json → Json → Prop}

theorem Ignores.takeAll (ignores : layout.Ignores medium added changed)
    (vary : Json.MembersVary added changed members members')
    (taken : layout.takeAll medium members draft = .ok result) :
    layout.takeAll medium members' draft = .ok result := by
  cases vary with
  | order same => exact takeAll_perm same taken
  | extra isAdded =>
    exact takeAll_cons_eq_ok_iff.mpr
      ⟨draft, .inr ⟨ignores.unnamed isAdded, ignores.skips isAdded, rfl⟩, taken⟩
  | member isChanged =>
    obtain ⟨next, leads, further⟩ := takeAll_cons_eq_ok_iff.mp taken
    exact takeAll_cons_eq_ok_iff.mpr ⟨next, ignores.leads isChanged leads, further⟩

/-- Fields are decoded to the same values. -/
theorem Ignores.ofMembers (ignores : layout.Ignores medium added changed)
    (vary : Json.MembersVary added changed members members') {values : Values types}
    (decoded : layout.ofMembers medium members = .ok values) :
    layout.ofMembers medium members' = .ok values := by
  obtain ⟨draft, taken, finished⟩ := bind_eq_ok.mp decoded
  exact bind_eq_ok.mpr ⟨draft, ignores.takeAll vary taken, finished⟩

/-! ### Members that are split -/

/-- Whether members are split into those that name fields, which are taken in, and the others, which
can all be kept. -/
structure Splits (layout : Layout types) (medium : Medium) (members : List (String × Json))
    (draft result : Draft types) (others : List (String × Json)) : Prop where
  taken : layout.takeAll medium (members.filter (·.1 ∈ layout.names)) draft = .ok result
  others_eq : others = members.filter (·.1 ∉ layout.names)
  kept : ∀ member ∈ others, medium.keeps member.2 = true

variable {others : List (String × Json)}

theorem splits_nil_iff :
    layout.Splits medium [] draft result others ↔ draft = result ∧ others = [] := by
  constructor
  · rintro ⟨taken, others_eq, _⟩
    exact ⟨Except.ok.inj taken, others_eq⟩
  · rintro ⟨rfl, rfl⟩
    exact ⟨rfl, rfl, nofun⟩

/-- The first member is taken in or kept, and the members behind it are split. -/
theorem splits_cons_iff {member : String × Json} :
    layout.Splits medium (member :: members) draft result others ↔
      (∃ next, layout.take? medium member.1 member.2 draft = some (.ok next) ∧
        layout.Splits medium members next result others) ∨
      member.1 ∉ layout.names ∧ medium.keeps member.2 = true ∧
        ∃ kept, others = member :: kept ∧ layout.Splits medium members draft result kept := by
  by_cases named : member.1 ∈ layout.names
  · constructor
    · rintro ⟨taken, others_eq, kept⟩
      rw [List.filter_cons_of_pos (by simpa using named), takeAll_cons_eq_ok_iff] at taken
      rw [List.filter_cons_of_neg (by simpa using named)] at others_eq
      obtain ⟨next, taken | ⟨unnamed, _⟩, further⟩ := taken
      · exact .inl ⟨next, taken, further, others_eq, kept⟩
      · exact absurd named unnamed
    · rintro (⟨next, taken, further, others_eq, kept⟩ | ⟨unnamed, _⟩)
      · refine ⟨?_, ?_, kept⟩
        · rw [List.filter_cons_of_pos (by simpa using named)]
          exact takeAll_cons_eq_ok_iff.mpr ⟨next, .inl taken, further⟩
        · rw [List.filter_cons_of_neg (by simpa using named), others_eq]
      · exact absurd named unnamed
  · constructor
    · rintro ⟨taken, others_eq, kept⟩
      rw [List.filter_cons_of_neg (by simpa using named)] at taken
      rw [List.filter_cons_of_pos (by simpa using named)] at others_eq
      subst others_eq
      obtain ⟨first, rest⟩ := List.forall_mem_cons.mp kept
      exact .inr ⟨named, first, _, rfl, taken, rfl, rest⟩
    · rintro (⟨next, taken, _⟩ | ⟨_, first, _, rfl, taken, rfl, rest⟩)
      · rw [take?_eq_none_iff.mpr named] at taken
        cases taken
      · refine ⟨?_, ?_, List.forall_mem_cons.mpr ⟨first, rest⟩⟩
        · rw [List.filter_cons_of_neg (by simpa using named), taken]
        · rw [List.filter_cons_of_pos (by simpa using named)]

/-- Members that vary are split into the same draft and others that vary in the same way. -/
theorem Splits.of_vary (splits : layout.Splits medium members draft result others)
    (ignores : layout.Ignores medium added changed)
    (vary : Json.MembersVary added changed members members')
    (keepsAdded : ∀ name value, added name value → medium.keeps value = true)
    (keepsChanged : ∀ name value value', changed name value value' →
      medium.keeps value = true → medium.keeps value' = true) :
    ∃ others', layout.Splits medium members' draft result others' ∧
      Json.MembersVary added changed others others' := by
  obtain ⟨taken, rfl, kept⟩ := splits
  have own := vary.filter (· ∈ layout.names)
  have rest := vary.filter (· ∉ layout.names)
  exact ⟨_, ⟨ignores.takeAll own taken, rfl, rest.forall_values keepsAdded keepsChanged kept⟩, rest⟩

end Layout

end ApplicationLedger
