/-
This file says which statements the engine of the database runs. A statement is prepared, then its
parameters are bound, then its rows are read, and the engine may refuse to go on at each of these
points. It has limits: the condition must not be nested too deep, where a chain of parts counts as
deep as it is long; there must not be too many parameters; and a pattern must not be too long. It
may also find no way through very many comparisons, so that only a moderate number of parameters is
certain. Texts beyond the longest one that a table can hold are not looked at here: no message comes
near it.
-/

import ApplicationLedger.Table.Basic

namespace ApplicationLedger

/-! ### Running a statement -/

/-- A part of the work on a statement that reads. -/
inductive Phase where
  | prepare
  | execute
  | read
  deriving DecidableEq, Repr

/-- What is being done in a phase, in words. -/
def Phase.doing : Phase → String
  | prepare => "Failed to prepare query"
  | execute => "Failed to execute query"
  | read => "Failed to read row"

/-- All phases, in order. -/
def Phase.all : List Phase := [prepare, execute, read]

/-! ### The size of a statement -/

/-- How deep the expression of a test is. -/
def Test.depth : Test → Nat
  | lacks _ => 3
  | _ => 2

/-- The pattern that a test matches with. -/
def Test.pattern? : Test → Option String
  | like pattern => some pattern
  | contains part => some (Text.containing part)
  | lacks part => some (Text.containing part)
  | _ => none

namespace Condition

mutual

/-- How deep the expression of a condition is. -/
def depth : Condition → Nat
  | .test _ asked => asked.depth
  | .group _ parts => depthOfAll parts

/-- How deep the expression of some parts is. -/
def depthOfAll : List Condition → Nat
  | [] => 0
  | part :: rest => depthBehind (depth part) rest

/-- How deep an expression becomes by further parts. Each of them is joined to all that stands
before it. -/
def depthBehind (before : Nat) : List Condition → Nat
  | [] => before
  | part :: rest => depthBehind (max before (depth part) + 1) rest

end

mutual

/-- The patterns of a condition, from left to right. -/
def patterns : Condition → List String
  | .test _ asked => asked.pattern?.toList
  | .group _ parts => patternsOfAll parts

/-- The patterns of some parts. -/
def patternsOfAll : List Condition → List String
  | [] => []
  | part :: rest => patterns part ++ patternsOfAll rest

end

end Condition

namespace Statement

/-- How deep the expression of the condition is. -/
def depth (s : Statement) : Nat :=
  match s.filter with
  | none => 0
  | some condition => condition.depth

/-- The patterns of the condition. -/
def patterns (s : Statement) : List String :=
  match s.filter with
  | none => []
  | some condition => condition.patterns

/-- The greatest depth of an expression. -/
def greatestDepth : Nat := 1000

/-- The greatest number of parameters. -/
def greatestParameterCount : Nat := 32766

/-- The number of parameters with which an engine still finds its way. -/
def moderateParameterCount : Nat := 10000

/-- The greatest number of bytes in a pattern. -/
def longestPattern : Nat := 50000

/-- Whether a statement is one that every engine runs. -/
structure IsWithinLimits (s : Statement) : Prop where
  depth : s.depth ≤ greatestDepth
  parameters : s.parameters.length ≤ moderateParameterCount
  patterns : ∀ pattern ∈ s.patterns, pattern.utf8ByteSize ≤ longestPattern

end Statement

/-! ### Engines -/

/-- What is known of an engine. -/
structure Engine where
  /-- Why a statement on a table fails in a phase, if it does. -/
  reason? : Statement → Table → Phase → Option String
  runs : ∀ statement table phase, statement.IsWithinLimits → reason? statement table phase = none

/-- Whether the engine gives the rows of a statement on a table. -/
def Engine.Runs (engine : Engine) (s : Statement) (t : Table) : Prop :=
  ∀ phase, engine.reason? s t phase = none

/-! ### The engine of this program -/

/-- The number of bytes of a text before one of its operands, counted from zero. -/
def Piece.bytesBefore : Nat → List Piece → Nat
  | _, [] => 0
  | index, .fixed text :: rest => text.utf8ByteSize + bytesBefore index rest
  | 0, .operand _ :: _ => 0
  | index + 1, .operand value :: rest => value.placeholder.utf8ByteSize + bytesBefore index rest

namespace Engine

/-- Why a statement beyond the limits fails. The depth is looked at before the parameters. A pattern
is looked at with the first row, also where another part of the condition decides. These are choices
of this program. -/
def bundledReason? (s : Statement) (t : Table) : Phase → Option String
  | .prepare =>
    if Statement.greatestDepth < s.depth then
      some ("Expression tree is too large (maximum depth " ++
        toString Statement.greatestDepth ++ ")")
    else if Statement.greatestParameterCount < s.parameters.length then
      some ("too many SQL variables in " ++ s.text ++ " at offset " ++
        toString (Piece.bytesBefore Statement.greatestParameterCount s.pieces))
    else none
  | .execute => none
  | .read =>
    if !t.rows.isEmpty && s.patterns.any (Statement.longestPattern < ·.utf8ByteSize) then
      some "LIKE or GLOB pattern too complex"
    else none

theorem moderateParameterCount_le :
    Statement.moderateParameterCount ≤ Statement.greatestParameterCount := by decide

theorem bundledReason?_eq_none {s : Statement} (within : s.IsWithinLimits) (t : Table)
    (phase : Phase) : bundledReason? s t phase = none := by
  cases phase with
  | prepare =>
    rw [bundledReason?, if_neg (Nat.not_lt.mpr within.depth),
      if_neg (Nat.not_lt.mpr (Nat.le_trans within.parameters moderateParameterCount_le))]
  | execute => rfl
  | read =>
    have short : s.patterns.any (Statement.longestPattern < ·.utf8ByteSize) = false := by
      rw [List.any_eq_false]
      exact fun pattern member => by simpa using within.patterns pattern member
    rw [bundledReason?, short, Bool.and_false]
    rfl

/-- The engine that comes with this program: it refuses every statement beyond the limits. -/
def bundled : Engine where
  reason? := bundledReason?
  runs _ t phase within := bundledReason?_eq_none within t phase

end Engine

end ApplicationLedger
