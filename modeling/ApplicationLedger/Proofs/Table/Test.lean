/-
This file says how the tests of operators divide cells. A missing value passes no comparison and no
search, and only the test for it. Any other cell compares with a value in exactly one of three ways,
and a part is found in it or not. The wider comparisons are made of two of the three ways.
-/

import Mathlib.Logic.ExistsUnique
import ApplicationLedger.Proofs.Query.Compile
import ApplicationLedger.Table.Selection

namespace ApplicationLedger.Operator

/-- The operators for the three ways to compare and for a missing value. -/
def byOrder : List Operator := [compare .less, compare .equal, compare .greater, isEmpty]

/-- The operators for a part that is found, for one that is not, and for a missing value. -/
def byPart : List Operator := [contains, notContains, isEmpty]

/-- Whether a cell passes the test of an operator. -/
def Passes (operator : Operator) (value : String) (column : Column) (cell : Cell) : Prop :=
  (operator.test value).holds column cell = some true

variable (value : String) (column : Column) (cell : Cell)

/-- The value as it stands beside a column. -/
def besideColumn : Cell := .ofParameter column (Operand.ofValue value).parameter

theorem passes_compare_iff (comparison : Comparison) :
    (compare comparison).Passes value column cell ↔
      cell ≠ .null ∧ comparison.holds (cell.compare (besideColumn value column)) = true := by
  cases cell with
  | null => exact iff_of_false nofun fun present => present.1 rfl
  | number _ | text _ | bytes _ =>
    show some _ = some true ↔ _
    rw [Option.some_inj]
    exact (and_iff_right nofun).symm

theorem passes_isEmpty_iff : isEmpty.Passes value column cell ↔ cell = .null := by
  show some (decide (cell = .null)) = some true ↔ _
  rw [Option.some_inj, decide_eq_true_iff]

theorem passes_contains_iff (part : String) :
    contains.Passes part column cell ↔ ∃ text, cell.matchedText? = some text ∧
      Text.isLike (some '\\') (Text.containing part) text = true :=
  Option.map_eq_some_iff

theorem passes_notContains_iff (part : String) :
    notContains.Passes part column cell ↔ ∃ text, cell.matchedText? = some text ∧
      Text.isLike (some '\\') (Text.containing part) text = false := by
  show ((cell.matchedText?.map _).map (!·)) = some true ↔ _
  rw [Option.map_map, Option.map_eq_some_iff]
  simp only [Function.comp, Bool.not_eq_true']

/-- One operator passes alone if it is the one that does. -/
theorem existsUnique_passes {operators : List Operator} (chosen : Operator)
    (member : chosen ∈ operators)
    (alone : ∀ operator ∈ operators, operator.Passes value column cell ↔ operator = chosen) :
    ∃! operator, operator ∈ operators ∧ operator.Passes value column cell :=
  ⟨chosen, ⟨member, (alone chosen member).mpr rfl⟩,
    fun operator found => (alone operator found.1).mp found.2⟩

/-- The comparison that an order passes, of the three that exclude each other. -/
def ofOrdering : Ordering → Comparison
  | .lt => .less
  | .eq => .equal
  | .gt => .greater

/-- A cell compares with a value in exactly one way, or has no value. -/
theorem existsUnique_byOrder :
    ∃! operator, operator ∈ byOrder ∧ operator.Passes value column cell := by
  by_cases missing : cell = .null
  · refine existsUnique_passes value column cell isEmpty (by decide) ?_
    simp only [byOrder, List.forall_mem_cons, passes_compare_iff, passes_isEmpty_iff]
    simp [missing]
  · refine existsUnique_passes value column cell
      (compare (ofOrdering (cell.compare (besideColumn value column)))) ?_ ?_
    · cases cell.compare (besideColumn value column) <;> decide
    · simp only [byOrder, List.forall_mem_cons, passes_compare_iff, passes_isEmpty_iff]
      generalize cell.compare (besideColumn value column) = order
      cases order <;> simp [missing, ofOrdering, Comparison.holds]

/-- A part is found in a cell or not, or the cell has no value. -/
theorem existsUnique_byPart :
    ∃! operator, operator ∈ byPart ∧ operator.Passes value column cell := by
  have only (chosen : Operator) (member : chosen ∈ byPart)
      (alone : (contains.Passes value column cell ↔ contains = chosen) ∧
        (notContains.Passes value column cell ↔ notContains = chosen) ∧
        (isEmpty.Passes value column cell ↔ isEmpty = chosen)) :=
    existsUnique_passes value column cell chosen member
      (List.forall_mem_cons.mpr ⟨alone.1, List.forall_mem_cons.mpr ⟨alone.2.1,
        List.forall_mem_singleton.mpr alone.2.2⟩⟩)
  rw [passes_contains_iff, passes_notContains_iff, passes_isEmpty_iff] at only
  cases found : cell.matchedText? with
  | none =>
    have missing : cell = .null := by
      cases cell with
      | null => rfl
      | number _ | text _ | bytes _ => cases found
    exact only isEmpty (by decide) (by simp [missing, Cell.matchedText?])
  | some text =>
    have present : cell ≠ .null := by
      rintro rfl
      cases found
    cases inside : Text.isLike (some '\\') (Text.containing value) text with
    | true => exact only contains (by decide) (by simp [present, found, inside])
    | false => exact only notContains (by decide) (by simp [present, found, inside])

/-- A wider comparison holds if one of the two does that it is made of. -/
theorem passes_wider_iff :
    ((compare .lessOrEqual).Passes value column cell ↔
        (compare .less).Passes value column cell ∨ (compare .equal).Passes value column cell) ∧
      ((compare .greaterOrEqual).Passes value column cell ↔
        (compare .greater).Passes value column cell ∨ (compare .equal).Passes value column cell) ∧
      ((compare .notEqual).Passes value column cell ↔
        (compare .less).Passes value column cell ∨
          (compare .greater).Passes value column cell) := by
  simp only [passes_compare_iff, ← and_or_left]
  generalize cell.compare (besideColumn value column) = order
  refine ⟨and_congr_right fun _ => ?_, and_congr_right fun _ => ?_, and_congr_right fun _ => ?_⟩ <;>
    cases order <;> decide

end ApplicationLedger.Operator
