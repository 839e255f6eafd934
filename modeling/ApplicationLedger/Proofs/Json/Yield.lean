/-
This file says where the values of decoded fields come from. However the fields are written, as
members in any order or as items, each value was made by the decoder of its field, or it is the
default of that field. What all values of a decoder have in common, the fields have in common.
-/

import ApplicationLedger.Json.Layout
import ApplicationLedger.Proofs.Except

namespace ApplicationLedger.Layout

variable {types : List Type}

/-- Whether each value was decoded, if it is not the default of its field. -/
def Yields {types : List Type} : Layout types → Values types → Prop
  | .done, _ => True
  | .field _ decode default? rest, (value, values) =>
    (default? = some value ∨ ∃ medium json, decode medium json = .ok value) ∧ rest.Yields values

/-- Whether each value of a draft was decoded. -/
def YieldsDraft {types : List Type} : Layout types → Draft types → Prop
  | .done, _ => True
  | .field _ decode _ rest, (held, others) =>
    (∀ value, held = some value → ∃ medium json, decode medium json = .ok value) ∧
      rest.YieldsDraft others

/-! ### Members -/

theorem yieldsDraft_start (layout : Layout types) : layout.YieldsDraft layout.start := by
  induction layout with
  | done => trivial
  | field name decode default? rest inductionHypothesis => exact ⟨nofun, inductionHypothesis⟩

/-- A member is taken in by the field with its name. -/
theorem take?_field {α : Type} (own : String) (decode : Decoder α) (default? : Option α)
    (rest : Layout types) (medium : Medium) (name : String) (value : Json)
    (draft : Draft (α :: types)) :
    (field own decode default? rest).take? medium name value draft =
      if name = own then
        match draft.1 with
        | some _ => some (.error (.duplicateField own))
        | none => some ((decode medium value).map fun decoded => (some decoded, draft.2))
      else (rest.take? medium name value draft.2).map fun taken =>
        taken.map fun others => (draft.1, others) := rfl

/-- A member that is taken in was decoded. -/
theorem yieldsDraft_take? {layout : Layout types} {medium : Medium} {name : String} {value : Json}
    {draft taken : Draft types} (decoded : layout.YieldsDraft draft)
    (took : layout.take? medium name value draft = some (.ok taken)) :
    layout.YieldsDraft taken := by
  induction layout with
  | done => cases took
  | field own decode default? rest inductionHypothesis =>
    rw [take?_field] at took
    split at took
    · split at took
      · cases took
      · cases read : decode medium value with
        | error fault =>
          rw [read] at took
          cases took
        | ok result =>
          rw [read] at took
          cases took
          refine ⟨?_, decoded.2⟩
          rintro _ ⟨⟩
          exact ⟨medium, value, read⟩
    · obtain ⟨result, others_eq, mapped⟩ := Option.map_eq_some_iff.mp took
      cases result with
      | error fault => cases mapped
      | ok others =>
        cases mapped
        exact ⟨decoded.1, inductionHypothesis decoded.2 others_eq⟩

theorem yieldsDraft_takeAll {layout : Layout types} {medium : Medium}
    {members : List (String × Json)} {draft taken : Draft types}
    (decoded : layout.YieldsDraft draft)
    (took : layout.takeAll medium members draft = .ok taken) : layout.YieldsDraft taken := by
  induction members generalizing draft with
  | nil =>
    cases took
    exact decoded
  | cons member rest inductionHypothesis =>
    obtain ⟨name, value⟩ := member
    rw [takeAll] at took
    split at took
    · rename_i result took_eq
      obtain ⟨next, rfl, took⟩ := bind_eq_ok.mp took
      exact inductionHypothesis (yieldsDraft_take? decoded took_eq) took
    · split at took
      · exact inductionHypothesis decoded took
      · cases took

/-- A complete draft yields its values and the defaults of the others. -/
theorem yields_finish {layout : Layout types} {draft : Draft types} {values : Values types}
    (decoded : layout.YieldsDraft draft) (finished : layout.finish draft = .ok values) :
    layout.Yields values := by
  induction layout with
  | done => trivial
  | field name decode default? rest inductionHypothesis =>
    obtain ⟨held, others⟩ := draft
    rw [finish] at finished
    split at finished
    · cases finished
    · rename_i value chosen
      cases left : rest.finish others with
      | error fault =>
        rw [left] at finished
        cases finished
      | ok values =>
        rw [left] at finished
        cases finished
        refine ⟨?_, inductionHypothesis decoded.2 left⟩
        cases held with
        | none => exact .inl chosen
        | some value' => exact .inr (decoded.1 value chosen)

/-! ### Items -/

theorem yields_ofItemsFrom {layout : Layout types} {medium : Medium} {expected : String}
    {index : Nat} {items left : List Json} {values : Values types}
    (read : layout.ofItemsFrom medium expected index items = .ok (values, left)) :
    layout.Yields values := by
  induction layout generalizing index items left with
  | done => trivial
  | field name decode default? rest inductionHypothesis =>
    unfold ofItemsFrom at read
    split at read
    · split at read
      · cases read
      · cases others : rest.ofItemsFrom medium expected (index + 1) [] with
        | error fault =>
          rw [others] at read
          cases read
        | ok result =>
          rw [others] at read
          cases read
          exact ⟨.inl rfl, inductionHypothesis others⟩
    · rename_i item items
      obtain ⟨value, decoded, read⟩ := bind_eq_ok.mp read
      obtain ⟨others, read_eq, read⟩ := bind_eq_ok.mp read
      cases read
      exact ⟨.inr ⟨medium, item, decoded⟩, inductionHypothesis read_eq⟩

/-! ### Values -/

/-- The fields of a value were decoded, or they are defaults. -/
theorem yields_decode {layout : Layout types} {name : String} {medium : Medium} {value : Json}
    {values : Values types} (read : layout.decode name medium value = .ok values) :
    layout.Yields values := by
  unfold decode at read
  split at read
  · obtain ⟨inside, _, read⟩ := bind_eq_ok.mp read
    obtain ⟨draft, took, finished⟩ := bind_eq_ok.mp read
    exact yields_finish (yieldsDraft_takeAll (yieldsDraft_start layout) took) finished
  · obtain ⟨inside, _, read⟩ := bind_eq_ok.mp read
    obtain ⟨⟨others, left⟩, read_eq, read⟩ := bind_eq_ok.mp read
    dsimp only at read
    split at read
    · cases read
      exact yields_ofItemsFrom read_eq
    · split at read <;> cases read
  · cases read

end ApplicationLedger.Layout
