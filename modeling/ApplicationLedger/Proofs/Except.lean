/-
This file opens computations that may fail: a computation in steps has a value exactly when each of
its steps has one, and so has a computation for each item of a list. A walk through a list that has
no value to give ends with the fault of the first item that has one.
-/

import Mathlib.Data.List.Forall2

namespace ApplicationLedger

/-- Two steps have a value when the first has one and the second has one behind it. -/
theorem bind_eq_ok {ε α β : Type} {first : Except ε α} {next : α → Except ε β} {result : β} :
    first.bind next = .ok result ↔ ∃ value, first = .ok value ∧ next value = .ok result := by
  cases first with
  | error fault => exact ⟨nofun, fun ⟨_, equal, _⟩ => nomatch equal⟩
  | ok value => exact ⟨fun equal => ⟨value, rfl, equal⟩, fun ⟨_, rfl, equal⟩ => equal⟩

/-- Two steps end with the fault of the first one that has a fault. -/
theorem bind_eq_error {ε α β : Type} {first : Except ε α} {next : α → Except ε β} {fault : ε} :
    first.bind next = .error fault ↔
      first = .error fault ∨ ∃ value, first = .ok value ∧ next value = .error fault := by
  cases first with
  | error other =>
    exact ⟨fun same => .inl (congrArg _ (Except.error.inj same)),
      fun | .inl same => congrArg _ (Except.error.inj same)⟩
  | ok value => exact ⟨fun failed => .inr ⟨value, rfl, failed⟩,
      fun | .inr ⟨_, rfl, failed⟩ => failed⟩

theorem map_eq_ok_iff {ε α β : Type} {make : α → β} {result : Except ε α} {value : β} :
    result.map make = .ok value ↔ ∃ found, result = .ok found ∧ make found = value := by
  cases result with
  | error fault => exact ⟨nofun, fun ⟨_, equal, _⟩ => nomatch equal⟩
  | ok found => exact ⟨fun equal => ⟨found, rfl, Except.ok.inj equal⟩,
      fun ⟨_, same, made⟩ => congrArg _ (Except.ok.inj same ▸ made)⟩

theorem exists_of_map_eq_ok {ε α β : Type} {make : α → β} {result : Except ε α} {value : β}
    (mapped : result.map make = .ok value) : ∃ found, result = .ok found :=
  (map_eq_ok_iff.mp mapped).imp fun _ => And.left

theorem map_eq_error_iff {ε α β : Type} {make : α → β} {result : Except ε α} {fault : ε} :
    result.map make = .error fault ↔ result = .error fault := by
  cases result with
  | error other => exact ⟨fun same => congrArg _ (Except.error.inj same),
      fun same => congrArg _ (Except.error.inj same)⟩
  | ok found => exact ⟨nofun, nofun⟩

/-! ### Lists -/

section Lists

variable {ε α β : Type} {read : α → Except ε β} {values : List α} {results : List β}

/-- A list is read when each of its items is. -/
theorem mapM_eq_ok_iff :
    values.mapM read = .ok results ↔
      List.Forall₂ (fun value result => read value = .ok result) values results := by
  induction values generalizing results with
  | nil =>
    rw [List.mapM_nil, List.forall₂_nil_left_iff]
    exact ⟨fun equal => (Except.ok.inj equal).symm, fun equal => equal ▸ rfl⟩
  | cons value rest inductionHypothesis =>
    rw [List.mapM_cons]
    constructor
    · intro all
      obtain ⟨result, first, others⟩ := bind_eq_ok.mp all
      obtain ⟨results, next, last⟩ := bind_eq_ok.mp others
      cases last
      exact .cons first (inductionHypothesis.mp next)
    · rintro (_ | ⟨first, others⟩)
      exact bind_eq_ok.mpr ⟨_, first, bind_eq_ok.mpr ⟨_, inductionHypothesis.mpr others, rfl⟩⟩

theorem exists_of_mem_of_mapM_eq_ok (all : values.mapM read = .ok results) {result : β}
    (member : result ∈ results) : ∃ value ∈ values, read value = .ok result := by
  have each := mapM_eq_ok_iff.mp all
  clear all
  induction each with
  | nil => cases member
  | cons first others inductionHypothesis =>
    rcases List.mem_cons.mp member with rfl | member
    · exact ⟨_, List.mem_cons_self, first⟩
    · obtain ⟨value, inRest, read_eq⟩ := inductionHypothesis member
      exact ⟨value, List.mem_cons_of_mem _ inRest, read_eq⟩

theorem exists_mapM_eq_ok (readable : ∀ value ∈ values, ∃ result, read value = .ok result) :
    ∃ results, values.mapM read = .ok results := by
  induction values with
  | nil => exact ⟨[], rfl⟩
  | cons value rest inductionHypothesis =>
    obtain ⟨result, first⟩ := readable value List.mem_cons_self
    obtain ⟨results, others⟩ := inductionHypothesis fun other member =>
      readable other (List.mem_cons_of_mem value member)
    exact ⟨result :: results, mapM_eq_ok_iff.mpr (.cons first (mapM_eq_ok_iff.mp others))⟩

end Lists

/-! ### Walks -/

/-- Whether a value is the first one in a list of which something holds. -/
def IsFirst {α : Type} (wanted : α → Prop) (values : List α) (value : α) : Prop :=
  ∃ before after, values = before ++ value :: after ∧ (∀ other ∈ before, ¬wanted other) ∧
    wanted value

section Walks

variable {ε α : Type} {wanted : α → Prop} {values : List α}

theorem IsFirst.holds {value : α} (first : IsFirst wanted values value) : wanted value := by
  obtain ⟨_, _, _, _, isSo⟩ := first
  exact isSo

theorem IsFirst.mem {value : α} (first : IsFirst wanted values value) : value ∈ values := by
  obtain ⟨before, after, rfl, _⟩ := first
  exact List.mem_append_right before List.mem_cons_self

/-- If something holds of a value in a list, there is a first one. -/
theorem exists_isFirst (some : ∃ value ∈ values, wanted value) :
    ∃ value, IsFirst wanted values value := by
  classical
  induction values with
  | nil =>
    obtain ⟨_, member, _⟩ := some
    cases member
  | cons value rest inductionHypothesis =>
    by_cases first : wanted value
    · exact ⟨value, [], rest, rfl, nofun, first⟩
    · obtain ⟨found, member, isSo⟩ := some
      have inRest : ∃ other ∈ rest, wanted other := by
        rcases List.mem_cons.mp member with rfl | member
        · exact absurd isSo first
        · exact ⟨found, member, isSo⟩
      obtain ⟨found, before, after, rfl, none, isSo⟩ := inductionHypothesis inRest
      exact ⟨found, value :: before, after, rfl, List.forall_mem_cons.mpr ⟨first, none⟩, isSo⟩

variable {read : α → Except ε Unit}

theorem forM_eq_ok_iff : values.forM read = .ok () ↔ ∀ value ∈ values, read value = .ok () := by
  induction values with
  | nil => exact ⟨fun _ _ member => (nomatch member), fun _ => rfl⟩
  | cons value rest inductionHypothesis =>
    rw [List.forall_mem_cons, ← inductionHypothesis]
    exact bind_eq_ok.trans ⟨fun ⟨_, first, others⟩ => ⟨first, others⟩,
      fun ⟨first, others⟩ => ⟨(), first, others⟩⟩

theorem forM_append (first second : List α) :
    (first ++ second).forM read = (first.forM read).bind fun _ => second.forM read :=
  List.forM_append

/-- A walk ends with the fault of the first value that has one. -/
theorem forM_eq_error_of_isFirst {value : α} {fault : ε} (first : IsFirst wanted values value)
    (others : ∀ other ∈ values, ¬wanted other → read other = .ok ())
    (failed : read value = .error fault) : values.forM read = .error fault := by
  obtain ⟨before, after, rfl, none, _⟩ := first
  have passed : before.forM read = .ok () := forM_eq_ok_iff.mpr fun other member =>
    others other (List.mem_append_left _ member) (none other member)
  rw [forM_append, passed]
  show (read value).bind (fun _ => after.forM read) = _
  rw [failed]
  rfl

/-- A list is not read when one of its values is not, and the first such value tells why. -/
theorem mapM_eq_error_of_isFirst {β : Type} {make : α → Except ε β} {value : α} {fault : ε}
    (first : IsFirst wanted values value)
    (others : ∀ other ∈ values, ¬wanted other → ∃ result, make other = .ok result)
    (failed : make value = .error fault) : values.mapM make = .error fault := by
  obtain ⟨before, after, rfl, none, _⟩ := first
  obtain ⟨results, passed⟩ := exists_mapM_eq_ok fun other member =>
    others other (List.mem_append_left _ member) (none other member)
  rw [List.mapM_append, passed, List.mapM_cons, failed]
  rfl

end Walks

end ApplicationLedger
