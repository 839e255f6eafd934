/-
This file says what compiling makes of the parts of a query, when it succeeds: a predicate becomes
one test on the column that it names, a group the conditions of its parts, and a query the condition
of its group with an order and a page.
-/

import Mathlib.Data.List.Forall2
import ApplicationLedger.Proofs.Except
import ApplicationLedger.Query.Statement

namespace ApplicationLedger

/-! ### Predicates -/

theorem Column.name_of_ofName? {text : String} {column : Column}
    (found : Column.ofName? text = some column) : column.name = text := by
  have same := List.find?_some found
  exact beq_iff_eq.mp same

/-- The column of a valid predicate is the one it names. -/
theorem Predicate.name_column {p : Predicate} {column : Column} (valid : p.column = .ok column) :
    column.name = p.field := by
  unfold Predicate.column at valid
  split at valid
  · cases valid
  · split at valid
    · cases valid
    · rename_i found
      split at valid
      · cases valid
      · cases valid
        exact Column.name_of_ofName? found

/-- The condition of a predicate is a test on the column that it names. Which test it is follows
from the operator, but for the operand. -/
theorem Predicate.compile_eq_ok {p : Predicate} {condition : Condition}
    (compiled : p.compile = .ok condition) :
    ∃ column asked, condition = .test column asked ∧ column.name = p.field ∧
      match p.operator with
      | .contains => asked = .contains p.valueText
      | .notContains => asked = .lacks p.valueText
      | .isEmpty => asked = .isNull
      | .isNotEmpty => asked = .isNotNull
      | .compare comparison =>
        asked = .compare comparison (.text p.valueText) ∨
          ∃ number, asked = .compare comparison (.number p.valueText number)
      | .like => asked = .like p.valueText := by
  obtain ⟨column, valid, rest⟩ := bind_eq_ok.mp compiled
  have named := Predicate.name_column valid
  cases operator : p.operator <;> simp only [operator] at rest ⊢
  case compare comparison =>
    split at rest <;> cases rest
    · exact ⟨column, _, rfl, named, .inl rfl⟩
    · exact ⟨column, _, rfl, named, .inr ⟨_, rfl⟩⟩
  case like =>
    split at rest <;> cases rest
    exact ⟨column, _, rfl, named, rfl⟩
  all_goals
    cases rest
    exact ⟨column, _, rfl, named, rfl⟩

/-- The operand that a value is compared as. -/
def Operand.ofValue (value : String) : Operand :=
  match Numeric.ofValue? value with
  | none => .text value
  | some read => .number value read

/-- What an operator asks of a column. -/
def Operator.test (value : String) : Operator → Test
  | compare comparison => .compare comparison (.ofValue value)
  | contains => .contains value
  | notContains => .lacks value
  | isEmpty => .isNull
  | isNotEmpty => .isNotNull
  | like => .like value

/-- A predicate that names a column, and has a value if it needs one, is valid. -/
theorem Predicate.column_of_name (column : Column) {operator : Operator} {value : Option String}
    (given : (value.isNone && !operator.isNullCheck) = false) :
    (Predicate.mk column.name operator value).column = .ok column := by
  have named : column.name.isEmpty = false := by cases column <;> decide
  simp only [Predicate.column, named, Column.ofName?_name, given, Bool.false_eq_true, if_false]

theorem Predicate.check_of_name (column : Column) {operator : Operator} {value : Option String}
    (given : (value.isNone && !operator.isNullCheck) = false) :
    (Predicate.mk column.name operator value).check = .ok () :=
  congrArg (Except.map fun _ => ()) (Predicate.column_of_name column given)

/-- Unless it asks for a pattern, a valid predicate always becomes a test. -/
theorem Predicate.compile_of_name (column : Column) {operator : Operator} {value : Option String}
    (given : (value.isNone && !operator.isNullCheck) = false) (notLike : operator ≠ .like) :
    (Predicate.mk column.name operator value).compile =
      .ok (.test column (operator.test (value.getD ""))) := by
  rw [Predicate.compile, Predicate.column_of_name column given]
  cases operator with
  | like => exact absurd rfl notLike
  | compare comparison =>
    show (match Numeric.ofValue? (value.getD "") with | none => _ | some number => _) = _
    simp only [Operator.test, Operand.ofValue]
    cases Numeric.ofValue? (value.getD "") <;> rfl
  | contains | notContains | isEmpty | isNotEmpty => rfl

theorem Predicate.compileAll_eq_ok {predicates : List Predicate} {conditions : List Condition}
    (compiled : Predicate.compileAll predicates = .ok conditions) :
    List.Forall₂ (fun p condition => p.compile = .ok condition) predicates conditions := by
  induction predicates generalizing conditions with
  | nil =>
    cases compiled
    exact .nil
  | cons p rest inductionHypothesis =>
    obtain ⟨condition, first, others⟩ := bind_eq_ok.mp compiled
    obtain ⟨conditions, next, last⟩ := bind_eq_ok.mp others
    cases last
    exact .cons first (inductionHypothesis next)

/-! ### Groups and queries -/

/-- A group becomes the conditions of its predicates and then those of its groups. -/
theorem Group.compile_eq_ok {predicates : List Predicate} {subgroups : List Group}
    {combinator : Combinator} {found : Option Condition}
    (compiled : (Group.mk predicates subgroups combinator).compile = .ok found) :
    ∃ tests nested, Predicate.compileAll predicates = .ok tests ∧
      Group.compileAll subgroups = .ok nested ∧
      found = Condition.ofParts combinator (tests ++ nested) := by
  rw [Group.compile] at compiled
  obtain ⟨tests, first, rest⟩ := bind_eq_ok.mp compiled
  obtain ⟨nested, second, last⟩ := bind_eq_ok.mp rest
  cases last
  exact ⟨tests, nested, first, second, rfl⟩

/-- Some groups become the conditions of those that have one. -/
theorem Group.compileAll_cons_eq_ok {group : Group} {rest : List Group}
    {conditions : List Condition} (compiled : Group.compileAll (group :: rest) = .ok conditions) :
    ∃ found others, group.compile = .ok found ∧ Group.compileAll rest = .ok others ∧
      conditions = found.toList ++ others := by
  rw [Group.compileAll] at compiled
  obtain ⟨found, first, next⟩ := bind_eq_ok.mp compiled
  obtain ⟨others, second, last⟩ := bind_eq_ok.mp next
  cases last
  exact ⟨found, others, first, second, rfl⟩

/-- The condition of the filter of a query, if there is one. -/
def Query.condition (q : Query) : Except QueryFault (Option Condition) :=
  match q.filter with
  | none => .ok none
  | some group => group.compile

/-- A query that is valid becomes the condition of its filter, its order and its page. -/
theorem Query.compile_eq_ok {q : Query} {statement : Statement}
    (compiled : q.compile = .ok statement) :
    ∃ column order filter, q.order = .ok (column, order) ∧ q.condition = .ok filter ∧
      statement = ⟨filter, column, order, q.rowLimit, q.rowOffset⟩ := by
  obtain ⟨_, _, rest⟩ := bind_eq_ok.mp compiled
  obtain ⟨⟨column, order⟩, ordered, rest⟩ := bind_eq_ok.mp rest
  unfold Query.condition
  cases filtered : q.filter with
  | none =>
    simp only [filtered] at rest
    cases rest
    exact ⟨column, order, none, ordered, rfl, rfl⟩
  | some group =>
    simp only [filtered] at rest
    obtain ⟨filter, found, last⟩ := bind_eq_ok.mp rest
    cases last
    exact ⟨column, order, filter, ordered, found, rfl⟩

/-- A query whose predicates are valid becomes its condition, its order and its page. -/
theorem Query.compile_of_parts {q : Query} {column : Column} {order : SortOrder}
    {filter : Option Condition} (checked : q.walk.forM Predicate.check = .ok ())
    (ordered : q.order = .ok (column, order)) (conditioned : q.condition = .ok filter) :
    q.compile = .ok ⟨filter, column, order, q.rowLimit, q.rowOffset⟩ := by
  have valid : q.check = .ok () := by
    rw [Query.check, checked, ordered]
    rfl
  rw [Query.compile, valid, ordered]
  unfold Query.condition at conditioned
  cases filtered : q.filter with
  | none =>
    simp only [filtered] at conditioned
    cases conditioned
    rfl
  | some group =>
    simp only [filtered] at conditioned
    simp only [conditioned]
    rfl

/-- A query with some valid predicates only asks for all of their conditions. -/
theorem Query.compile_predicates {predicates : List Predicate} {conditions : List Condition}
    (valid : ∀ p ∈ predicates, p.check = .ok ())
    (compiled : Predicate.compileAll predicates = .ok conditions) :
    ({ Query.everything with filter := some (.mk predicates [] .and) } : Query).compile =
      .ok ⟨Condition.ofParts .and conditions, .dateApplied, .descending, none, none⟩ := by
  refine compile_of_parts (forM_eq_ok_iff.mpr fun p member => valid p ?_) rfl ?_
  · change p ∈ predicates ++ [] at member
    rwa [List.append_nil] at member
  · show Group.compile _ = _
    rw [Group.compile, compiled]
    show Except.ok (Condition.ofParts .and (conditions ++ [])) = _
    rw [List.append_nil]

/-- Without a limit, there is no page either. -/
theorem Query.limit_eq_none {q : Query} {statement : Statement}
    (compiled : q.compile = .ok statement) (unlimited : q.limit ≤ 0) :
    statement.limit = none ∧ statement.offset = none := by
  obtain ⟨column, order, filter, _, _, rfl⟩ := compile_eq_ok compiled
  exact ⟨if_neg (Int.not_lt.mpr unlimited), if_neg fun paged => Int.not_lt.mpr unlimited paged.1⟩

/-! ### From parts to the whole -/

/-- A relation between conditions and predicates that holds of the condition of a single predicate,
of some conditions if it holds of each, and of a group if it holds of its parts. -/
structure Condition.IsPartwise (relates : List Condition → List Predicate → Prop) : Prop where
  nil : relates [] []
  append : ∀ {conditions others predicates further}, relates conditions predicates →
    relates others further → relates (conditions ++ others) (predicates ++ further)
  single : ∀ {p condition}, Predicate.compile p = .ok condition → relates [condition] [p]
  ofParts : ∀ {parts predicates} combinator, relates parts predicates →
    relates (Condition.ofParts combinator parts).toList predicates

section Partwise

variable {relates : List Condition → List Predicate → Prop}

theorem Condition.IsPartwise.of_predicates (partwise : Condition.IsPartwise relates)
    {predicates : List Predicate} {conditions : List Condition}
    (compiled : Predicate.compileAll predicates = .ok conditions) :
    relates conditions predicates := by
  have each := Predicate.compileAll_eq_ok compiled
  clear compiled
  induction each with
  | nil => exact partwise.nil
  | cons first _ inductionHypothesis =>
    exact partwise.append (partwise.single first) inductionHypothesis

mutual

/-- What holds from the parts to the whole holds of the parts of a group and its walk. -/
theorem Condition.IsPartwise.of_group (partwise : Condition.IsPartwise relates)
    (group : Group) (found : Option Condition) (compiled : group.compile = .ok found) :
    ∃ parts, found = Condition.ofParts group.combinator parts ∧ relates parts group.walk := by
  cases group with
  | mk predicates subgroups combinator =>
    obtain ⟨tests, nested, first, second, rfl⟩ := Group.compile_eq_ok compiled
    exact ⟨_, rfl, partwise.append (partwise.of_predicates first)
      (partwise.of_groups subgroups nested second)⟩

theorem Condition.IsPartwise.of_groups (partwise : Condition.IsPartwise relates)
    (groups : List Group) (conditions : List Condition)
    (compiled : Group.compileAll groups = .ok conditions) :
    relates conditions (Group.walkAll groups) := by
  cases groups with
  | nil =>
    cases compiled
    exact partwise.nil
  | cons group rest =>
    obtain ⟨found, others, first, second, rfl⟩ := Group.compileAll_cons_eq_ok compiled
    obtain ⟨parts, rfl, related⟩ := partwise.of_group group found first
    exact partwise.append (partwise.ofParts _ related)
      (partwise.of_groups rest others second)

end

end Partwise

/-! ### Without predicates -/

mutual

/-- A group without a predicate at any depth has no condition. -/
theorem Group.compile_of_walk_eq_nil (group : Group) (unfiltered : group.walk = []) :
    group.compile = .ok none := by
  cases group with
  | mk predicates subgroups combinator =>
    obtain ⟨rfl, nested⟩ := List.append_eq_nil_iff.mp unfiltered
    rw [Group.compile, Group.compileAll_of_walkAll_eq_nil subgroups nested]
    rfl

theorem Group.compileAll_of_walkAll_eq_nil (groups : List Group)
    (unfiltered : Group.walkAll groups = []) : Group.compileAll groups = .ok [] := by
  cases groups with
  | nil => rfl
  | cons group rest =>
    obtain ⟨first, others⟩ := List.append_eq_nil_iff.mp unfiltered
    rw [Group.compileAll, Group.compile_of_walk_eq_nil group first,
      Group.compileAll_of_walkAll_eq_nil rest others]
    rfl

end

/-- A query without predicates becomes its order and its page. -/
theorem Query.compile_of_walk_eq_nil {q : Query} {column : Column} {order : SortOrder}
    (unfiltered : q.walk = []) (ordered : q.order = .ok (column, order)) :
    q.compile = .ok ⟨none, column, order, q.rowLimit, q.rowOffset⟩ := by
  have conditioned : q.condition = .ok none := by
    unfold Query.condition
    cases filtered : q.filter with
    | none => rfl
    | some group =>
      rw [Query.walk, filtered] at unfiltered
      exact Group.compile_of_walk_eq_nil group unfiltered
  exact Query.compile_of_parts (unfiltered ▸ rfl) ordered conditioned

end ApplicationLedger
