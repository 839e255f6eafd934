/-
This file says how deep the arrays and objects of a value nest, and which values fit into the levels
that are left: those that are plain throughout and nest no deeper. What fits can also be passed
over, and an exact value within the nesting limit is the whole of its compact text.
-/

import ApplicationLedger.Proofs.Json.Values

namespace ApplicationLedger.Json

/-! ### Values that fit -/

theorem allFit_iff {depth : Nat} {items : List Json} :
    allFit depth items = true ↔ ∀ item ∈ items, item.fits depth = true := by
  induction items with
  | nil => exact ⟨fun _ => nofun, fun _ => rfl⟩
  | cons item rest inductionHypothesis =>
    rw [allFit, Bool.and_eq_true, inductionHypothesis, List.forall_mem_cons]

theorem allMembersFit_iff {depth : Nat} {members : List (String × Json)} :
    allMembersFit depth members = true ↔ ∀ member ∈ members, member.2.fits depth = true := by
  induction members with
  | nil => exact ⟨fun _ => nofun, fun _ => rfl⟩
  | cons member rest inductionHypothesis =>
    rw [allMembersFit, Bool.and_eq_true, inductionHypothesis, List.forall_mem_cons]

theorem allComplete_iff {items : List Json} :
    allComplete items = true ↔ ∀ item ∈ items, item.isComplete = true := by
  induction items with
  | nil => exact ⟨fun _ => nofun, fun _ => rfl⟩
  | cons item rest inductionHypothesis =>
    rw [allComplete, Bool.and_eq_true, inductionHypothesis, List.forall_mem_cons]

theorem allMembersComplete_iff {members : List (String × Json)} :
    allMembersComplete members = true ↔ ∀ member ∈ members, member.2.isComplete = true := by
  induction members with
  | nil => exact ⟨fun _ => nofun, fun _ => rfl⟩
  | cons member rest inductionHypothesis =>
    rw [allMembersComplete, Bool.and_eq_true, inductionHypothesis, List.forall_mem_cons]

/-- An array fits if there is a level left for it and its items fit into the others. -/
theorem fits_array_iff {depth : Nat} {items : List Json} :
    (array items).fits depth = true ↔ 1 < depth ∧ ∀ item ∈ items, item.fits (depth - 1) = true := by
  obtain _ | inner := depth
  · exact ⟨nofun, fun ⟨enough, _⟩ => absurd enough (by decide)⟩
  · rw [fits, Bool.and_eq_true, allFit_iff, bne_iff_ne, Nat.add_sub_cancel]
    exact and_congr_left fun _ => by omega

/-- An object fits if there is a level left for it and its values fit into the others. -/
theorem fits_object_iff {depth : Nat} {members : List (String × Json)} :
    (object members).fits depth = true ↔
      1 < depth ∧ ∀ member ∈ members, member.2.fits (depth - 1) = true := by
  obtain _ | inner := depth
  · exact ⟨nofun, fun ⟨enough, _⟩ => absurd enough (by decide)⟩
  · rw [fits, Bool.and_eq_true, allMembersFit_iff, bne_iff_ne, Nat.add_sub_cancel]
    exact and_congr_left fun _ => by omega

mutual

/-- A value that fits into some levels is complete. -/
theorem isComplete_of_fits (value : Json) (depth : Nat) (fit : value.fits depth = true) :
    value.isComplete = true := by
  cases value with
  | array items => exact allComplete_of_fit items _ (fits_array_iff.mp fit).2
  | object members => exact allMembersComplete_of_fit members _ (fits_object_iff.mp fit).2
  | broken => cases depth <;> cases fit
  | null | boolean | number | string | unreadable => rfl

theorem allComplete_of_fit (items : List Json) (depth : Nat)
    (fit : ∀ item ∈ items, item.fits depth = true) : allComplete items = true := by
  cases items with
  | nil => rfl
  | cons item rest =>
    obtain ⟨first, others⟩ := List.forall_mem_cons.mp fit
    rw [allComplete, isComplete_of_fits item depth first, allComplete_of_fit rest depth others]
    rfl

theorem allMembersComplete_of_fit (members : List (String × Json)) (depth : Nat)
    (fit : ∀ member ∈ members, member.2.fits depth = true) : allMembersComplete members = true := by
  cases members with
  | nil => rfl
  | cons member rest =>
    obtain ⟨name, value⟩ := member
    obtain ⟨first, others⟩ := List.forall_mem_cons.mp fit
    rw [allMembersComplete, isComplete_of_fits value depth first,
      allMembersComplete_of_fit rest depth others]
    rfl

end

/-! ### Levels -/

mutual

/-- The number of levels that arrays and objects of a value nest. -/
def depth : Json → Nat
  | .array items => itemsDepth items + 1
  | .object members => membersDepth members + 1
  | _ => 0

/-- The greatest number of levels of some items. -/
def itemsDepth : List Json → Nat
  | [] => 0
  | item :: rest => max (depth item) (itemsDepth rest)

/-- The greatest number of levels of the values of some members. -/
def membersDepth : List (String × Json) → Nat
  | [] => 0
  | (_, value) :: rest => max (depth value) (membersDepth rest)

end

mutual

/-- A value fits into the levels that it nests. -/
theorem fits_of_depth (value : Json) (exact : value.IsExact) (limit : Nat)
    (shallow : value.depth ≤ limit) : value.fits (limit + 1) = true := by
  cases value with
  | array items =>
    obtain _ | inner := limit
    · exact absurd shallow (Nat.not_succ_le_zero _)
    · exact allFit_of_depth items exact inner (Nat.le_of_succ_le_succ shallow)
  | object members =>
    obtain _ | inner := limit
    · exact absurd shallow (Nat.not_succ_le_zero _)
    · exact allMembersFit_of_depth members exact inner (Nat.le_of_succ_le_succ shallow)
  | unreadable => exact exact.elim
  | broken => exact exact.elim
  | null | boolean | number | string => rfl

theorem allFit_of_depth (items : List Json) (exact : AllExact items) (limit : Nat)
    (shallow : itemsDepth items ≤ limit) : allFit (limit + 1) items = true := by
  cases items with
  | nil => rfl
  | cons item rest =>
    obtain ⟨first, others⟩ := Nat.max_le.mp shallow
    rw [allFit, fits_of_depth item exact.1 limit first, allFit_of_depth rest exact.2 limit others]
    rfl

theorem allMembersFit_of_depth (members : List (String × Json)) (exact : AllMembersExact members)
    (limit : Nat) (shallow : membersDepth members ≤ limit) :
    allMembersFit (limit + 1) members = true := by
  cases members with
  | nil => rfl
  | cons member rest =>
    obtain ⟨name, value⟩ := member
    obtain ⟨first, others⟩ := Nat.max_le.mp shallow
    rw [allMembersFit, fits_of_depth value exact.1 limit first,
      allMembersFit_of_depth rest exact.2 limit others]
    rfl

end

mutual

/-- A value that fits into some levels nests no more of them. -/
theorem depth_le_of_fits (value : Json) (limit : Nat) (fit : value.fits (limit + 1) = true) :
    value.depth ≤ limit := by
  cases value with
  | array items =>
    obtain _ | inner := limit
    · cases fit
    · exact Nat.succ_le_succ (itemsDepth_le_of_fit items inner fit)
  | object members =>
    obtain _ | inner := limit
    · cases fit
    · exact Nat.succ_le_succ (membersDepth_le_of_fit members inner fit)
  | unreadable => cases fit
  | broken => cases fit
  | null | boolean | number | string => exact Nat.zero_le limit

theorem itemsDepth_le_of_fit (items : List Json) (limit : Nat)
    (fit : allFit (limit + 1) items = true) : itemsDepth items ≤ limit := by
  cases items with
  | nil => exact Nat.zero_le limit
  | cons item rest =>
    rw [allFit, Bool.and_eq_true] at fit
    exact Nat.max_le.mpr ⟨depth_le_of_fits item limit fit.1, itemsDepth_le_of_fit rest limit fit.2⟩

theorem membersDepth_le_of_fit (members : List (String × Json)) (limit : Nat)
    (fit : allMembersFit (limit + 1) members = true) : membersDepth members ≤ limit := by
  cases members with
  | nil => exact Nat.zero_le limit
  | cons member rest =>
    obtain ⟨name, value⟩ := member
    rw [allMembersFit, Bool.and_eq_true] at fit
    exact Nat.max_le.mpr
      ⟨depth_le_of_fits value limit fit.1, membersDepth_le_of_fit rest limit fit.2⟩

end

/-- A value within the nesting limit is all of its text. -/
theorem ofText?_compact {value : Json} (exact : value.IsExact)
    (shallow : value.depth ≤ nestingLimit) : ofText? (compact value) = some value := by
  rw [ofText?, read_compact exact]
  exact if_pos (fits_of_depth value exact nestingLimit shallow)

/-- A value beyond the nesting limit is no message. -/
theorem ofText?_compact_eq_none {value : Json} (exact : value.IsExact)
    (deep : nestingLimit < value.depth) : ofText? (compact value) = none := by
  rw [ofText?, read_compact exact]
  have tooDeep : value.fits (nestingLimit + 1) = false := by
    rw [Bool.eq_false_iff]
    exact fun fit => Nat.not_le.mpr deep (depth_le_of_fits value nestingLimit fit)
  simp only [tooDeep, Bool.and_false, Bool.false_eq_true, if_false]

end ApplicationLedger.Json
