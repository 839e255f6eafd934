/-
This file says what the text of a statement means to the database. A group of predicates has a value
of its own: its combinator joins the values of its predicates and then those of its groups, and a
group without any predicate is left out. The condition that the database reads back from the text
has the same value, whatever each of the predicates is worth, and it is there exactly when there is
a predicate.
-/

import ApplicationLedger.Proofs.Query.Reading

namespace ApplicationLedger

open Sql

/-! ### What a group means -/

namespace Group

mutual

/-- The value of a group. Its predicates are numbered in the order of a walk, beginning with
`first`, and each has the value that is assigned to its number. -/
def truth (assignment : Nat → Truth) (first : Nat) : Group → Truth
  | mk predicates subgroups combinator =>
    ((List.range' first predicates.length).map assignment ++
      truths assignment (first + predicates.length) subgroups).foldl
        (Truth.join combinator) (Truth.unit combinator)

/-- The values of those groups that hold a predicate. -/
def truths (assignment : Nat → Truth) (first : Nat) : List Group → List Truth
  | [] => []
  | group :: rest =>
    if group.walk.isEmpty then truths assignment first rest
    else truth assignment first group :: truths assignment (first + group.walk.length) rest

end

end Group

/-! ### The values of joined conditions -/

namespace Sql.Expression

/-- The values of some conditions, whose tests are numbered one condition after the other. -/
def truths (assignment : Nat → Truth) (first : Nat) : List Expression → List Truth
  | [] => []
  | e :: rest =>
    e.truth assignment first :: truths assignment (first + e.atoms.length) rest

theorem truths_append (assignment : Nat → Truth) (first : Nat) (es others : List Expression) :
    truths assignment first (es ++ others) =
      truths assignment first es ++
        truths assignment (first + (es.flatMap atoms).length) others := by
  induction es generalizing first with
  | nil => rfl
  | cons e rest inductionHypothesis =>
    rw [List.cons_append, truths, inductionHypothesis, List.flatMap_cons, List.length_append,
      Nat.add_assoc]
    rfl

theorem atoms_ne_nil (e : Expression) : e.atoms ≠ [] := by
  induction e with
  | atom a => exact List.cons_ne_nil a []
  | join _ left right inductionHypothesis _ =>
    rw [atoms]
    exact List.append_ne_nil_of_left_ne_nil inductionHypothesis _

theorem atoms_foldl_join (combinator : Combinator) (e : Expression) (es : List Expression) :
    (es.foldl (join combinator) e).atoms = e.atoms ++ es.flatMap atoms := by
  induction es generalizing e with
  | nil => exact (List.append_nil _).symm
  | cons next rest inductionHypothesis =>
    rw [List.foldl_cons, inductionHypothesis, atoms, List.flatMap_cons, List.append_assoc]

/-- Conditions that are joined from the left have the value of their values, joined so. -/
theorem truth_foldl_join (assignment : Nat → Truth) (first : Nat) (combinator : Combinator)
    (e : Expression) (es : List Expression) :
    (es.foldl (join combinator) e).truth assignment first =
      (truths assignment first (e :: es)).foldl (Truth.join combinator)
        (Truth.unit combinator) := by
  have begins (value : Truth) : Truth.join combinator (Truth.unit combinator) value = value := by
    cases combinator <;> rcases value with _ | _ | _ <;> rfl
  rw [truths, List.foldl_cons, begins]
  induction es generalizing e with
  | nil => rfl
  | cons next rest inductionHypothesis =>
    rw [List.foldl_cons, inductionHypothesis, truths, List.foldl_cons, truth, atoms,
      List.length_append, Nat.add_assoc]

end Sql.Expression

/-! ### Groups -/

/-- Whether the condition of a group is read as an expression with the tests and the value of the
group. -/
structure Group.IsReadAs (group : Group) (condition : Condition) (e : Expression) : Prop where
  writes : WritesCondition (Piece.runText condition.pieces) e
  part : WritesFactor condition.partText e
  atoms : e.atoms = group.walk.map Predicate.atom
  truth : ∀ assignment first, e.truth assignment first = group.truth assignment first

/-- The values of the tests of predicates are those assigned to their numbers. -/
theorem truths_predicates (assignment : Nat → Truth) (first : Nat) (predicates : List Predicate) :
    Expression.truths assignment first (predicates.map fun p => .atom p.atom) =
      (List.range' first predicates.length).map assignment := by
  induction predicates generalizing first with
  | nil => rfl
  | cons p rest inductionHypothesis =>
    rw [List.map_cons, Expression.truths, inductionHypothesis]
    rfl

theorem writesFactor_predicates {predicates : List Predicate} {tests : List Condition}
    (compiled : Predicate.compileAll predicates = .ok tests) :
    List.Forall₂ WritesFactor (tests.map Condition.partText)
      (predicates.map fun p => .atom p.atom) := by
  rw [List.forall₂_map_left_iff, List.forall₂_map_right_iff]
  exact (Predicate.compileAll_eq_ok compiled).flip.imp fun _ _ valid =>
    Predicate.writesFactor valid

theorem atoms_predicates_append (predicates : List Predicate) (subgroups : List Group)
    (combinator : Combinator) (es : List Expression)
    (atoms : es.flatMap Expression.atoms = (Group.walkAll subgroups).map Predicate.atom) :
    ((predicates.map fun p => Expression.atom p.atom) ++ es).flatMap Expression.atoms =
      (Group.walk (.mk predicates subgroups combinator)).map Predicate.atom := by
  have own : (predicates.map fun p => Expression.atom p.atom).flatMap Expression.atoms =
      predicates.map Predicate.atom := by
    rw [List.flatMap_map, List.map_eq_flatMap]
    rfl
  rw [List.flatMap_append, own, atoms, Group.walk, List.map_append]

/-- The values of the parts of a group, joined by its combinator, are its value. -/
theorem truths_predicates_append (assignment : Nat → Truth) (first : Nat)
    (predicates : List Predicate) (subgroups : List Group) (combinator : Combinator)
    (es : List Expression) (truths : ∀ first,
      Expression.truths assignment first es = Group.truths assignment first subgroups) :
    (Expression.truths assignment first
      ((predicates.map fun p => Expression.atom p.atom) ++ es)).foldl
        (Truth.join combinator) (Truth.unit combinator) =
      Group.truth assignment first (.mk predicates subgroups combinator) := by
  have count : ((predicates.map fun p => Expression.atom p.atom).flatMap
      Expression.atoms).length = predicates.length := by
    rw [List.flatMap_map, List.length_flatMap]
    simp [Expression.atoms]
  rw [Expression.truths_append, truths_predicates, count, truths, Group.truth]

/-- The condition of some parts is read as the parts, joined from the left. -/
theorem Group.isReadAs_joined (group : Group) (combinator : Combinator) {part : Condition}
    {parts : List Condition} {e : Expression} {es : List Expression}
    (factors : List.Forall₂ WritesFactor ((part :: parts).map Condition.partText) (e :: es))
    (atoms : (e :: es).flatMap Expression.atoms = group.walk.map Predicate.atom)
    (truth : ∀ assignment first, (Expression.truths assignment first (e :: es)).foldl
      (Truth.join combinator) (Truth.unit combinator) = group.truth assignment first) :
    group.IsReadAs (.group combinator (part :: parts)) (es.foldl (.join combinator) e) := by
  cases factors with
  | cons factor others =>
    have writes := writesCondition_joined combinator factor others
    rw [← Condition.runText_joined] at writes
    refine ⟨writes, ?_, ?_, fun assignment first => ?_⟩
    · rw [Condition.partText_group]
      exact writesFactor_parenthesized writes
    · rw [Expression.atoms_foldl_join, ← atoms]
      rfl
    · rw [Expression.truth_foldl_join, truth]

mutual

/-- A group that holds a predicate is read with its own tests and its own value; only a group
without any predicate has no condition. -/
theorem Group.compile_reads (group : Group) (found : Option Condition)
    (compiled : group.compile = .ok found) :
    (found = none ∧ group.walk = []) ∨
      ∃ condition e, found = some condition ∧ group.walk ≠ [] ∧ group.IsReadAs condition e := by
  match group with
  | .mk predicates subgroups combinator =>
    obtain ⟨tests, nested, first, second, rfl⟩ := Group.compile_eq_ok compiled
    obtain ⟨es, factors, atoms, truths⟩ := Group.compileAll_reads subgroups nested second
    rw [Condition.ofParts]
    have allFactors : List.Forall₂ WritesFactor ((tests ++ nested).map Condition.partText)
        ((predicates.map fun p => Expression.atom p.atom) ++ es) := by
      rw [List.map_append]
      exact List.rel_append (writesFactor_predicates first) factors
    have allAtoms := atoms_predicates_append predicates subgroups combinator es atoms
    have allTruths (assignment : Nat → Truth) (first : Nat) :=
      truths_predicates_append assignment first predicates subgroups combinator es
        (truths assignment)
    generalize (predicates.map fun p => Expression.atom p.atom) ++ es = all at *
    generalize tests ++ nested = parts at *
    cases parts with
    | nil =>
      cases allFactors
      exact .inl ⟨rfl, List.map_eq_nil_iff.mp allAtoms.symm⟩
    | cons part parts =>
      cases all with
      | nil => cases allFactors
      | cons e all =>
        refine .inr ⟨_, _, rfl, fun empty => ?_,
          Group.isReadAs_joined _ combinator allFactors allAtoms allTruths⟩
        rw [empty, List.map_nil, List.flatMap_cons, List.append_eq_nil_iff] at allAtoms
        exact e.atoms_ne_nil allAtoms.1

/-- The groups that hold a predicate are read with their own tests and their own values. -/
theorem Group.compileAll_reads (groups : List Group) (conditions : List Condition)
    (compiled : Group.compileAll groups = .ok conditions) :
    ∃ es, List.Forall₂ WritesFactor (conditions.map Condition.partText) es ∧
      es.flatMap Expression.atoms = (Group.walkAll groups).map Predicate.atom ∧
      ∀ assignment first,
        Expression.truths assignment first es = Group.truths assignment first groups := by
  match groups with
  | [] =>
    cases compiled
    exact ⟨[], .nil, rfl, fun _ _ => rfl⟩
  | group :: rest =>
    obtain ⟨found, others, first, second, rfl⟩ := Group.compileAll_cons_eq_ok compiled
    obtain ⟨es, factors, atoms, truths⟩ := Group.compileAll_reads rest others second
    rcases Group.compile_reads group found first with ⟨rfl, empty⟩ |
      ⟨condition, e, rfl, full, reads⟩
    · refine ⟨es, factors, ?_, fun assignment first => ?_⟩
      · rw [Group.walkAll, empty, List.nil_append, atoms]
      · rw [Group.truths, empty, List.isEmpty_nil, if_pos rfl, truths]
    · refine ⟨e :: es, .cons reads.part factors, ?_, fun assignment first => ?_⟩
      · rw [List.flatMap_cons, Group.walkAll, List.map_append, reads.atoms, atoms]
      · rw [Group.truths, if_neg (by simpa using full), Expression.truths, reads.truth, truths,
          reads.atoms, List.length_map]

end

/-! ### Queries -/

/-- The text of a compiled query is a statement to the database. Its condition is there exactly when
the group of the query holds a predicate; its tests are those of the predicates in the order of a
walk, and it has the value of the group, whatever each of the predicates is worth. -/
theorem Query.text_means_group (q : Query) (group : Group) (statement : Statement)
    (filtered : q.filter = some group) (compiled : q.compile = .ok statement) :
    ∃ select, Select.ofText? statement.text = some select ∧
      (select.filter = none ↔ group.walk = []) ∧
      ∀ e, select.filter = some e →
        e.atoms = group.walk.map Predicate.atom ∧
        ∀ assignment : Nat → Truth, e.truth assignment 0 = group.truth assignment 0 := by
  obtain ⟨column, order, found, _, conditioned, rfl⟩ := Query.compile_eq_ok compiled
  rw [Query.condition, filtered] at conditioned
  rcases Group.compile_reads group found conditioned with ⟨rfl, empty⟩ |
    ⟨condition, e, rfl, full, reads⟩
  · exact ⟨_, Statement.select_text _ none .none, ⟨fun _ => empty, fun _ => rfl⟩, nofun⟩
  · refine ⟨_, Statement.select_text _ (some e) (.some reads.writes),
      ⟨nofun, fun empty => absurd empty full⟩, fun read same => ?_⟩
    cases same
    exact ⟨reads.atoms, fun assignment => reads.truth assignment 0⟩

/-- A group joined by `AND` that holds a group joined by `OR` and a group of empty groups. -/
theorem Query.text_means_group_nested :
    let wanted := Predicate.mk "title" .contains (some "lead' OR 1=1 --")
    let either := Group.mk
      [⟨"company", .compare .equal, some "Acme"⟩, ⟨"reposted", .compare .less, some "1"⟩] [] .or
    let group := Group.mk [wanted] [either, .mk [] [.empty] .or] .and
    let q : Query := ⟨some group, some "company", none, 10, 2⟩
    ∃ statement, q.compile = .ok statement ∧
      ∃ select, Select.ofText? statement.text = some select ∧
        (select.filter = none ↔ group.walk = []) ∧
        ∀ e, select.filter = some e →
          e.atoms = group.walk.map Predicate.atom ∧
          ∀ assignment : Nat → Truth, e.truth assignment 0 = group.truth assignment 0 := by
  intro wanted either group q
  obtain ⟨statement, compiled⟩ : ∃ statement, q.compile = .ok statement := ⟨_, rfl⟩
  exact ⟨statement, compiled, Query.text_means_group q group statement rfl compiled⟩

end ApplicationLedger
