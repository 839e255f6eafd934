/-
This file says which values of a message differ only in what nobody reads. A part says what a value
is decoded as: which fields it has, and what each of them is decoded as in turn. A value varies in
one step if one of its objects gets its members in another order, or a member with a name that is no
field of it, anywhere inside the value. An added value is plain and stays within the nesting limit,
and then the whole still can be passed over or kept wherever it could before.
-/

import Mathlib.Logic.Relation
import ApplicationLedger.Message.Basic
import ApplicationLedger.Proofs.Json.Order

namespace ApplicationLedger

/-! ### Parts -/

/-- What a value of a message is decoded as. -/
inductive MessagePart where
  /-- A value without fields: a text, a number, a choice, or one that nobody reads. -/
  | plain
  | list (item : MessagePart)
  | file
  | fields
  | record
  | predicate
  | group
  | query
  | request (kind : Request.Kind)
  | response (kind : Response.Kind)

namespace MessagePart

/-- The names of the fields of an application, none of which has fields itself. -/
def fieldMembers : List (String × MessagePart) :=
  ["title", "company", "description", "location", "date_posted", "url", "internal_id", "source",
    "reposted", "date_applied"].map (·, plain)

/-- The fields of a part, in the order of their declaration. -/
def members : MessagePart → List (String × MessagePart)
  | .plain => []
  | .list _ => []
  | .file => [("name", plain), ("content", plain)]
  | .fields => fieldMembers
  | .record => [("id", plain), ("files", plain)] ++ fieldMembers
  | .predicate => [("field", plain), ("operator", plain), ("value", plain)]
  | .group => [("filters", list predicate), ("subgroups", list group), ("operator", plain)]
  | .query =>
    [("where", group), ("sort_by", plain), ("sort_order", plain), ("limit", plain),
      ("page", plain)]
  | .request .upload => [("kind", plain), ("application", fields), ("files", list file)]
  | .request .query => [("kind", plain), ("query", query)]
  | .request .update => [("kind", plain), ("id", plain), ("application", fields)]
  | .request .fileLink => [("kind", plain), ("id", plain), ("file_name", plain)]
  | .response .uploaded =>
    [("kind", plain), ("message", plain), ("application", record), ("num_files", plain)]
  | .response .results => [("kind", plain), ("results", list record)]
  | .response .updated => [("kind", plain), ("message", plain), ("application", fields)]
  | .response .fileLink => [("kind", plain), ("url", plain), ("expires_at", plain)]
  | .response .error => [("kind", plain), ("status", plain), ("code", plain), ("error", plain)]

/-- The names of the fields of a part. -/
def names (part : MessagePart) : List String := part.members.map Prod.fst

/-- What the member with a name is decoded as. -/
def ofMember (part : MessagePart) (name : String) : MessagePart :=
  (part.members.lookup name).getD plain

/-- What the item at a place of an array is decoded as. An array may hold the fields of a part in
their order. -/
def ofItem : MessagePart → Nat → MessagePart
  | .list item, _ => item
  | part, index => (part.members[index]?).elim plain Prod.snd

theorem names_nodup (part : MessagePart) : part.names.Nodup := by
  cases part with
  | request kind => cases kind <;> decide
  | response kind => cases kind <;> decide
  | list item => exact List.nodup_nil
  | _ => decide

theorem ofItem_of_getElem? {part inner : MessagePart} {index : Nat} {name : String}
    (isField : part.members[index]? = some (name, inner)) : part.ofItem index = inner := by
  cases part with
  | list item => cases isField
  | _ => simp only [ofItem, isField, Option.elim_some]

theorem ofMember_of_getElem? {part inner : MessagePart} {index : Nat} {name : String}
    (isField : part.members[index]? = some (name, inner)) : part.ofMember name = inner := by
  obtain ⟨before, after, split⟩ := List.append_of_mem (List.mem_of_getElem? isField)
  have distinct := part.names_nodup
  rw [names, split, List.map_append, List.map_cons, List.nodup_append] at distinct
  have found : part.members.lookup name = some inner := by
    refine List.lookup_eq_some_iff.mpr ⟨before, after, split, fun member isMember => ?_⟩
    rw [bne_iff_ne]
    exact (distinct.2.2 member.1 (List.mem_map_of_mem isMember) name List.mem_cons_self).symm
  rw [ofMember, found, Option.getD_some]

/-! ### Variations -/

/-- Whether an object may have one more member: its part has fields, but none with the name, and the
value is plain and nests within the limit. -/
def Admits (part : MessagePart) (depth : Nat) (name : String) (value : Json) : Prop :=
  part.members ≠ [] ∧ name ∉ part.names ∧ value.fits (depth - 1) = true

/-- Whether two values differ in the order of the members of one object or in one more member. The
depth is one more than the levels that may still be entered. -/
inductive Varies : MessagePart → Nat → Json → Json → Prop
  | order {part : MessagePart} {depth : Nat} {members members' : List (String × Json)}
      (same : members.Perm members') :
    Varies part depth (.object members) (.object members')
  | extra {part : MessagePart} {depth : Nat} {name : String} {value : Json}
      (admits : part.Admits depth name value) (members : List (String × Json)) :
    Varies part depth (.object members) (.object ((name, value) :: members))
  | member {part : MessagePart} {depth : Nat} {name : String} {value value' : Json}
      (inside : Varies (part.ofMember name) (depth - 1) value value')
      (rest : List (String × Json)) :
    Varies part depth (.object ((name, value) :: rest)) (.object ((name, value') :: rest))
  | item {part : MessagePart} {depth : Nat} {before : List Json} {value value' : Json}
      (inside : Varies (part.ofItem before.length) (depth - 1) value value') (after : List Json) :
    Varies part depth (.array (before ++ value :: after)) (.array (before ++ value' :: after))

/-- Whether the value of a whole message is varied in any number of steps. -/
def Varied (part : MessagePart) : Json → Json → Prop :=
  Relation.ReflTransGen (part.Varies (Json.nestingLimit + 1))

variable {part : MessagePart} {depth : Nat} {value value' : Json}

/-- The members of an object vary. -/
theorem Varies.exists_members {members : List (String × Json)}
    (varies : part.Varies depth (.object members) value') :
    ∃ members', value' = .object members' ∧
      Json.MembersVary (part.Admits depth) (fun name => (part.ofMember name).Varies (depth - 1))
        members members' := by
  cases varies with
  | order same => exact ⟨_, rfl, .order same⟩
  | extra admits => exact ⟨_, rfl, .extra admits _⟩
  | member inside => exact ⟨_, rfl, .member inside _⟩

/-- One item of an array varies. -/
theorem Varies.exists_item {items : List Json} (varies : part.Varies depth (.array items) value') :
    ∃ before item item' after, items = before ++ item :: after ∧
      value' = .array (before ++ item' :: after) ∧
        (part.ofItem before.length).Varies (depth - 1) item item' := by
  cases varies with
  | item inside after => exact ⟨_, _, _, after, rfl, rfl, inside⟩

/-- Only arrays and objects vary. -/
theorem Varies.isNested (varies : part.Varies depth value value') :
    (∃ members members', value = .object members ∧ value' = .object members') ∨
      ∃ items items', value = .array items ∧ value' = .array items' := by
  cases varies with
  | item inside => exact .inr ⟨_, _, rfl, rfl⟩
  | _ => exact .inl ⟨_, _, rfl, rfl⟩

/-- A value that varies fits into the same levels. -/
theorem Varies.fits (varies : part.Varies depth value value') (fit : value.fits depth = true) :
    value'.fits depth = true := by
  induction varies with
  | order same =>
    obtain ⟨enough, all⟩ := Json.fits_object_iff.mp fit
    exact Json.fits_object_iff.mpr
      ⟨enough, fun member isMember => all member (same.mem_iff.mpr isMember)⟩
  | extra admits =>
    obtain ⟨enough, all⟩ := Json.fits_object_iff.mp fit
    exact Json.fits_object_iff.mpr ⟨enough, List.forall_mem_cons.mpr ⟨admits.2.2, all⟩⟩
  | member _ rest inductionHypothesis =>
    obtain ⟨enough, all⟩ := Json.fits_object_iff.mp fit
    obtain ⟨first, others⟩ := List.forall_mem_cons.mp all
    exact Json.fits_object_iff.mpr
      ⟨enough, List.forall_mem_cons.mpr ⟨inductionHypothesis first, others⟩⟩
  | item _ after inductionHypothesis =>
    obtain ⟨enough, all⟩ := Json.fits_array_iff.mp fit
    rw [List.forall_mem_append, List.forall_mem_cons] at all
    refine Json.fits_array_iff.mpr ⟨enough, ?_⟩
    rw [List.forall_mem_append, List.forall_mem_cons]
    exact ⟨all.1, inductionHypothesis all.2.1, all.2.2⟩

/-- A value that varies can be passed over as before. -/
theorem Varies.isComplete (varies : part.Varies depth value value')
    (complete : value.isComplete = true) : value'.isComplete = true := by
  induction varies with
  | order same =>
    have all := Json.allMembersComplete_iff.mp complete
    exact Json.allMembersComplete_iff.mpr
      fun member isMember => all member (same.mem_iff.mpr isMember)
  | extra admits =>
    exact Bool.and_eq_true_iff.mpr ⟨Json.isComplete_of_fits _ _ admits.2.2, complete⟩
  | member _ rest inductionHypothesis =>
    obtain ⟨first, others⟩ := Bool.and_eq_true_iff.mp complete
    exact Bool.and_eq_true_iff.mpr ⟨inductionHypothesis first, others⟩
  | item _ after inductionHypothesis =>
    have all := Json.allComplete_iff.mp complete
    rw [List.forall_mem_append, List.forall_mem_cons] at all
    refine Json.allComplete_iff.mpr ?_
    rw [List.forall_mem_append, List.forall_mem_cons]
    exact ⟨all.1, inductionHypothesis all.2.1, all.2.2⟩

end MessagePart

end ApplicationLedger
