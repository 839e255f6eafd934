/-
This file proves which decoders do not depend on what nobody reads. A decoder keeps a part if every
value that varies as the part says still decodes to the same result. What is neither an array nor an
object does not vary at all, a list keeps what its items are decoded as, and a choice has no fields.
A layout keeps a part if the decoders of its fields keep what stands there, and then it does so from
an object and from an array.
-/

import ApplicationLedger.Proofs.Message.Variation

namespace ApplicationLedger

/-! ### Media -/

namespace Medium

/-- Whether a medium has so many levels left, or keeps values apart. -/
def IsAt (medium : Medium) (depth : Nat) : Prop := medium = .buffer ∨ medium = .text depth

variable {medium inside : Medium} {depth : Nat} {part : MessagePart} {value value' : Json}

theorem IsAt.enter (isAt : medium.IsAt depth) (entered : medium.enter = .ok inside) :
    inside.IsAt (depth - 1) := by
  obtain rfl | rfl := isAt
  · exact .inl (Except.ok.inj entered).symm
  · rw [Medium.enter] at entered
    split at entered
    · cases entered
    · exact .inr (Except.ok.inj entered).symm

theorem IsAt.keeps (isAt : medium.IsAt depth) (fit : value.fits depth = true) :
    medium.keeps value = true := by
  obtain rfl | rfl := isAt
  · rfl
  · exact fit

theorem IsAt.skips (isAt : medium.IsAt depth) (fit : value.fits depth = true) :
    medium.skips value = true := by
  obtain rfl | rfl := isAt
  · rfl
  · exact Json.isComplete_of_fits value depth fit

/-- A value that varies can be kept if it could be kept before. -/
theorem IsAt.keeps_of_varies (isAt : medium.IsAt depth) (varies : part.Varies depth value value')
    (keeps : medium.keeps value = true) : medium.keeps value' = true := by
  obtain rfl | rfl := isAt
  · rfl
  · exact varies.fits keeps

theorem skips_of_varies (varies : part.Varies depth value value')
    (skips : medium.skips value = true) : medium.skips value' = true := by
  cases medium with
  | buffer => rfl
  | text levels => exact varies.isComplete skips

end Medium

/-! ### Decoders -/

namespace Decoder

variable {α β : Type} {decode : Decoder α} {part : MessagePart}

/-- Whether a value that varies as the part says decodes to the same result. -/
def Keeps (decode : Decoder α) (part : MessagePart) : Prop :=
  ∀ ⦃depth : Nat⦄ ⦃value value' : Json⦄ ⦃medium : Medium⦄ ⦃result : α⦄,
    part.Varies depth value value' → medium.IsAt depth →
      decode medium value = .ok result → decode medium value' = .ok result

/-- Whether neither an array nor an object decodes. -/
structure IsScalar (decode : Decoder α) : Prop where
  array : ∀ medium items result, decode medium (.array items) ≠ .ok result
  object : ∀ medium members result, decode medium (.object members) ≠ .ok result

/-- What is neither an array nor an object does not vary. -/
theorem IsScalar.keeps (scalar : decode.IsScalar) (part : MessagePart) : decode.Keeps part := by
  intro depth value value' medium result varies _ decoded
  obtain ⟨members, _, rfl, _⟩ | ⟨items, _, rfl, _⟩ := varies.isNested
  · exact absurd decoded (scalar.object medium members result)
  · exact absurd decoded (scalar.array medium items result)

theorem text_isScalar : text.IsScalar := ⟨fun _ _ _ => nofun, fun _ _ _ => nofun⟩

theorem boolean_isScalar : boolean.IsScalar := ⟨fun _ _ _ => nofun, fun _ _ _ => nofun⟩

theorem instant_isScalar : instant.IsScalar := ⟨fun _ _ _ => nofun, fun _ _ _ => nofun⟩

theorem int64_isScalar : int64.IsScalar := ⟨fun _ _ _ => nofun, fun _ _ _ => nofun⟩

theorem word16_isScalar : word16.IsScalar := ⟨fun _ _ _ => nofun, fun _ _ _ => nofun⟩

theorem count_isScalar : count.IsScalar := ⟨fun _ _ _ => nofun, fun _ _ _ => nofun⟩

theorem Keeps.bind (keeps : decode.Keeps part) (next : α → Except DecodeFault β) :
    Keeps (fun medium value => (decode medium value).bind next) part := by
  intro depth value value' medium result varies isAt decoded
  obtain ⟨found, first, second⟩ := bind_eq_ok.mp decoded
  exact bind_eq_ok.mpr ⟨found, keeps varies isAt first, second⟩

theorem Keeps.map (keeps : decode.Keeps part) (make : α → β) :
    Keeps (fun medium value => (decode medium value).map make) part := by
  intro depth value value' medium result varies isAt decoded
  obtain ⟨found, read, made⟩ := map_eq_ok_iff.mp decoded
  exact map_eq_ok_iff.mpr ⟨found, keeps varies isAt read, made⟩

/-- A value that varies is not `null`, so it is decoded as if it could not be. -/
theorem Keeps.optional (keeps : decode.Keeps part) : (optional decode).Keeps part := by
  intro depth value value' medium result varies isAt decoded
  obtain ⟨members, members', rfl, rfl⟩ | ⟨items, items', rfl, rfl⟩ := varies.isNested
  · exact keeps.map some varies isAt decoded
  · exact keeps.map some varies isAt decoded

/-- Items are decoded to the same values if the one that varies is. -/
theorem items_of_changed {medium : Medium} {before after : List Json} {item item' : Json}
    (changed : ∀ {result}, decode medium item = .ok result → decode medium item' = .ok result)
    {results : List α} (decoded : items decode medium (before ++ item :: after) = .ok results) :
    items decode medium (before ++ item' :: after) = .ok results := by
  induction before generalizing results with
  | nil =>
    obtain ⟨first, read, further⟩ := bind_eq_ok.mp decoded
    exact bind_eq_ok.mpr ⟨first, changed read, further⟩
  | cons other before inductionHypothesis =>
    obtain ⟨first, read, further⟩ := bind_eq_ok.mp decoded
    obtain ⟨others, rest, made⟩ := bind_eq_ok.mp further
    exact bind_eq_ok.mpr ⟨first, read, bind_eq_ok.mpr ⟨others, inductionHypothesis rest, made⟩⟩

/-- A list keeps what is decoded as its items. -/
theorem Keeps.list (keeps : ∀ index, decode.Keeps (part.ofItem index)) :
    (list decode).Keeps part := by
  intro depth value value' medium result varies isAt decoded
  obtain ⟨members, _, rfl, _⟩ | ⟨items, _, rfl, _⟩ := varies.isNested
  · cases decoded
  · obtain ⟨before, item, item', after, rfl, rfl, inside⟩ := varies.exists_item
    obtain ⟨medium', entered, decoded⟩ := bind_eq_ok.mp decoded
    exact bind_eq_ok.mpr
      ⟨medium', entered, items_of_changed (keeps _ inside (isAt.enter entered)) decoded⟩

end Decoder

/-! ### Choices -/

namespace Spelling

variable {α : Type} {spellings : List (Spelling α)} {medium : Medium}

theorem eq_of_checkEmpty {value : Json} (empty : checkEmpty medium value = .ok ()) :
    value = .null ∨ value = .object [] := by
  unfold checkEmpty at empty
  split at empty
  · exact .inl rfl
  · exact .inr rfl
  · cases empty

/-- An object that names a choice has one member, with nothing in it. -/
theorem exists_member_of_decode {members : List (String × Json)} {choice : α}
    (decoded : decode spellings medium (.object members) = .ok choice) :
    ∃ name value, members = [(name, value)] ∧ (value = .null ∨ value = .object []) := by
  cases medium with
  | text depth =>
    obtain ⟨inside, _, decoded⟩ := bind_eq_ok.mp decoded
    split at decoded
    · cases decoded
    · cases decoded
    · rename_i name value rest _ _
      obtain ⟨_, _, decoded⟩ := bind_eq_ok.mp decoded
      obtain ⟨_, empty, decoded⟩ := bind_eq_ok.mp decoded
      split at decoded
      · rename_i last
        rw [List.isEmpty_iff.mp last]
        exact ⟨name, value, rfl, eq_of_checkEmpty empty⟩
      · cases decoded
  | buffer =>
    change decodeBuffer spellings _ = _ at decoded
    unfold decodeBuffer at decoded
    split at decoded
    · rename_i isObject
      cases isObject
    · rename_i name value isObject
      cases isObject
      obtain ⟨_, _, decoded⟩ := bind_eq_ok.mp decoded
      obtain ⟨_, empty, decoded⟩ := bind_eq_ok.mp decoded
      exact ⟨name, value, rfl, eq_of_checkEmpty empty⟩
    · cases decoded
    · cases decoded

/-- Nothing without fields is any different from an empty object. -/
theorem eq_empty_of_varies {depth : Nat} {value : Json}
    (varies : MessagePart.plain.Varies depth (.object []) value) : value = .object [] := by
  cases varies with
  | order same => rw [List.nil_perm.mp same]
  | extra admits => exact absurd rfl admits.1

theorem keeps_decode (spellings : List (Spelling α)) : (decode spellings).Keeps .plain := by
  intro depth value value' medium result varies isAt decoded
  cases varies with
  | order same =>
    obtain ⟨name, value, rfl, _⟩ := exists_member_of_decode decoded
    rwa [← List.singleton_perm.mp same]
  | extra admits => exact absurd rfl admits.1
  | member inside rest =>
    obtain ⟨name, value, isOnly, empty⟩ := exists_member_of_decode decoded
    cases isOnly
    obtain rfl | rfl := empty
    · obtain ⟨_, _, isNull, _⟩ | ⟨_, _, isNull, _⟩ := inside.isNested <;> cases isNull
    · rwa [eq_empty_of_varies inside]
  | item inside after => cases medium <;> cases decoded

end Spelling

/-! ### Layouts -/

namespace Layout

/-- Whether the fields of a layout are those of a part from some place on, and the decoder of each
keeps what stands there. -/
def Keeps (part : MessagePart) {types : List Type} : Layout types → Nat → Prop
  | .done, _ => True
  | .field own decode _ rest, index =>
    ∃ inner, part.members[index]? = some (own, inner) ∧ decode.Keeps inner ∧
      rest.Keeps part (index + 1)

variable {types : List Type} {layout : Layout types} {part : MessagePart} {index depth : Nat}
  {medium : Medium}

theorem Keeps.name_mem (keeps : layout.Keeps part index) : ∀ name ∈ layout.names,
    name ∈ part.names := by
  induction layout generalizing index with
  | done => exact nofun
  | field own decode default? rest inductionHypothesis =>
    obtain ⟨inner, isField, _, others⟩ := keeps
    rw [names, List.forall_mem_cons]
    exact ⟨List.mem_map_of_mem (List.mem_of_getElem? isField), inductionHypothesis others⟩

theorem Keeps.take? (keeps : layout.Keeps part index) {name : String} {value value' : Json}
    (varies : (part.ofMember name).Varies depth value value') (isAt : medium.IsAt depth)
    {draft next : Draft types} (taken : layout.take? medium name value draft = some (.ok next)) :
    layout.take? medium name value' draft = some (.ok next) := by
  induction layout generalizing index with
  | done => cases taken
  | field own decode default? rest inductionHypothesis =>
    obtain ⟨inner, isField, first, others⟩ := keeps
    refine take?_field_eq_ok_iff.mpr ?_
    rcases take?_field_eq_ok_iff.mp taken with
      ⟨rfl, free, decoded, read, made⟩ | ⟨other, next, taken, made⟩
    · rw [MessagePart.ofMember_of_getElem? isField] at varies
      exact .inl ⟨rfl, free, decoded, first varies isAt read, made⟩
    · exact .inr ⟨other, next, inductionHypothesis others taken, made⟩

/-- A layout that keeps a part ignores how the members of an object of that part vary. -/
theorem Keeps.ignores (keeps : layout.Keeps part index) (isAt : medium.IsAt (depth - 1)) :
    layout.Ignores medium (part.Admits depth)
      fun name => (part.ofMember name).Varies (depth - 1) where
  unnamed admits named := admits.2.1 (keeps.name_mem _ named)
  skips admits := isAt.skips admits.2.2
  leads inside leads := leads.imp (keeps.take? inside isAt)
    fun ⟨unnamed, skips, same⟩ => ⟨unnamed, Medium.skips_of_varies inside skips, same⟩

/-- If no item is left over, the fields are decoded to the same values. -/
theorem Keeps.ofItemsFrom (keeps : layout.Keeps part index) {before after : List Json}
    {item item' : Json}
    (varies : (part.ofItem (index + before.length)).Varies depth item item')
    (isAt : medium.IsAt depth) {expected : String} {place : Nat} {values : Values types}
    (read : layout.ofItemsFrom medium expected place (before ++ item :: after) =
      .ok (values, [])) :
    layout.ofItemsFrom medium expected place (before ++ item' :: after) = .ok (values, []) := by
  induction layout generalizing index before place with
  | done =>
    obtain ⟨_, left⟩ := Prod.mk.inj (Except.ok.inj read)
    exact absurd left (by simp)
  | field own decode default? rest inductionHypothesis =>
    obtain ⟨inner, isField, first, others⟩ := keeps
    cases before with
    | nil =>
      obtain ⟨value, decoded, read⟩ := bind_eq_ok.mp read
      rw [List.length_nil, Nat.add_zero, MessagePart.ofItem_of_getElem? isField] at varies
      exact bind_eq_ok.mpr ⟨value, first varies isAt decoded, read⟩
    | cons other before =>
      obtain ⟨value, decoded, read⟩ := bind_eq_ok.mp read
      obtain ⟨⟨values, left⟩, read, made⟩ := bind_eq_ok.mp read
      cases made
      rw [List.length_cons, ← Nat.add_assoc, Nat.add_right_comm] at varies
      exact bind_eq_ok.mpr ⟨value, decoded,
        bind_eq_ok.mpr ⟨(values, []), inductionHypothesis others varies read, rfl⟩⟩

theorem ofItems_eq_ok_iff {name : String} {items : List Json} {values : Values types} :
    layout.ofItems medium name items = .ok values ↔
      layout.ofItemsFrom medium (name ++ " with " ++ elements layout.size) 0 items =
        .ok (values, []) := by
  constructor
  · intro read
    obtain ⟨⟨values, left⟩, read, none⟩ := bind_eq_ok.mp read
    dsimp only at none
    split at none
    · rename_i isLast
      cases none
      rwa [List.isEmpty_iff.mp isLast] at read
    · split at none <;> cases none
  · exact fun read => bind_eq_ok.mpr ⟨_, read, rfl⟩

theorem Keeps.ofItems (keeps : layout.Keeps part index) {before after : List Json}
    {item item' : Json} (varies : (part.ofItem (index + before.length)).Varies depth item item')
    (isAt : medium.IsAt depth) {name : String} {values : Values types}
    (read : layout.ofItems medium name (before ++ item :: after) = .ok values) :
    layout.ofItems medium name (before ++ item' :: after) = .ok values :=
  ofItems_eq_ok_iff.mpr (keeps.ofItemsFrom varies isAt (ofItems_eq_ok_iff.mp read))

/-- A value with fields keeps its part, from an object or an array. -/
theorem Keeps.decode (keeps : layout.Keeps part 0) (name : String) :
    (layout.decode name).Keeps part := by
  intro depth value value' medium result varies isAt decoded
  obtain ⟨members, _, rfl, _⟩ | ⟨items, _, rfl, _⟩ := varies.isNested
  · obtain ⟨members', rfl, vary⟩ := varies.exists_members
    obtain ⟨inside, entered, decoded⟩ := bind_eq_ok.mp decoded
    exact bind_eq_ok.mpr
      ⟨inside, entered, (keeps.ignores (isAt.enter entered)).ofMembers vary decoded⟩
  · obtain ⟨before, item, item', after, rfl, rfl, changed⟩ := varies.exists_item
    obtain ⟨inside, entered, decoded⟩ := bind_eq_ok.mp decoded
    rw [← Nat.zero_add before.length] at changed
    exact bind_eq_ok.mpr ⟨inside, entered, keeps.ofItems changed (isAt.enter entered) decoded⟩

end Layout

end ApplicationLedger
