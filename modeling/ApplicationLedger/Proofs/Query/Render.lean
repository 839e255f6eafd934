/-
This file shows that the two texts of a query come from one walk. A query can be written straight
from its predicates and groups into a sink that decides what becomes of the operands: one sink binds
them to placeholders, the other writes them in place. Whatever the sink does, the walk fails with
the same fault and writes the same pieces as the compiled statement has, so a query that can be
shown can be run, and both texts are those of one statement.
-/

import ApplicationLedger.Proofs.Query.Literal
import ApplicationLedger.Proofs.Store.Transaction

namespace ApplicationLedger

/-! ### Writing into a sink -/

/-- What a sink makes of an operand: the text written for it, and the values bound. -/
abbrev Sink := Operand → String × List Parameter

/-- Operands are bound to placeholders. -/
def Sink.bound : Sink := fun operand => (operand.placeholder, [operand.parameter])

/-- Operands are written in place. -/
def Sink.literal : Sink := fun operand => (operand.literal, [])

/-- A predicate, checked and written. -/
def Predicate.render (sink : Sink) (p : Predicate) : Except QueryFault (String × List Parameter) :=
  do
  p.check
  let before (words : String) (operand : Operand) : String × List Parameter :=
    (p.field ++ words ++ (sink operand).1, (sink operand).2)
  match p.operator with
  | .contains => .ok (before " LIKE " (.part p.valueText))
  | .notContains => .ok (before " NOT LIKE " (.part p.valueText))
  | .isEmpty => .ok (p.field ++ " IS NULL", [])
  | .isNotEmpty => .ok (p.field ++ " IS NOT NULL", [])
  | .compare comparison =>
    let words := " " ++ comparison.sign ++ " "
    match Numeric.ofValue? p.valueText with
    | none => .ok (before words (.text p.valueText))
    | some number => .ok (before words (.number p.valueText number))
  | .like =>
    match Numeric.ofValue? p.valueText with
    | none => .ok (before " LIKE " (.text p.valueText))
    | some _ => .error (.numericPattern .like p.field p.valueText)

/-- The texts of some predicates, and the values bound in them. -/
def Predicate.renderAll (sink : Sink) :
    List Predicate → Except QueryFault (List String × List Parameter)
  | [] => .ok ([], [])
  | p :: rest => do
    let (text, parameters) ← p.render sink
    let (texts, others) ← renderAll sink rest
    .ok (text :: texts, parameters ++ others)

mutual

/-- A group, written with its combinator between its parts. -/
def Group.render (sink : Sink) : Group → Except QueryFault (String × List Parameter)
  | .mk predicates subgroups combinator => do
    let (texts, parameters) ← Predicate.renderAll sink predicates
    let (nested, others) ← Group.renderAll sink subgroups
    .ok ((" " ++ combinator.word ++ " ").intercalate (texts ++ nested), parameters ++ others)

/-- The texts of those groups that have one, each in parentheses, and the values bound in them. -/
def Group.renderAll (sink : Sink) :
    List Group → Except QueryFault (List String × List Parameter)
  | [] => .ok ([], [])
  | group :: rest => do
    let (text, parameters) ← Group.render sink group
    let (texts, others) ← Group.renderAll sink rest
    .ok (if text.isEmpty then texts else ("(" ++ text ++ ")") :: texts, parameters ++ others)

end

/-- The column and the direction of the rows as a query names them, or else the default ones. -/
def Query.renderOrder (q : Query) : String :=
  let (column, order) := match q.sortBy with
    | none => (Column.defaultSort.name, SortOrder.descending)
    | some name =>
      if name.isEmpty then (Column.defaultSort.name, .descending)
      else (name, q.sortOrder.getD .ascending)
  " ORDER BY " ++ column ++ " " ++ order.word

/-- A number of rows behind its word, if there is one. -/
def Query.renderCount (sink : Sink) (word : String) : Option Int → String × List Parameter
  | none => ("", [])
  | some count => (" " ++ word ++ " " ++ (sink (.count count)).1, (sink (.count count)).2)

/-- A query, checked and written from the start to the end. -/
def Query.render (sink : Sink) (q : Query) : Except QueryFault (String × List Parameter) := do
  q.check
  let (condition, parameters) ←
    match q.filter with
    | none => .ok ("", [])
    | some group => group.render sink
  let limit := renderCount sink "LIMIT" q.rowLimit
  let offset := renderCount sink "OFFSET" q.rowOffset
  .ok (Statement.head ++ (if condition.isEmpty then "" else " WHERE " ++ condition) ++
      q.renderOrder ++ limit.1 ++ offset.1,
    parameters ++ limit.2 ++ offset.2)

/-! ### What is written -/

namespace Piece

/-- Some pieces, written into a sink. -/
def into (sink : Sink) (pieces : List Piece) : String × List Parameter :=
  (String.join (pieces.map (Piece.write fun operand => (sink operand).1)),
    (pieces.filterMap Piece.operand?).flatMap fun operand => (sink operand).2)

variable (sink : Sink)

theorem into_nil : into sink [] = ("", []) := rfl

theorem into_append (first second : List Piece) :
    into sink (first ++ second) =
      ((into sink first).1 ++ (into sink second).1,
        (into sink first).2 ++ (into sink second).2) := by
  simp only [into, List.map_append, String.join_append, List.filterMap_append, List.flatMap_append]

theorem into_fixed (text : String) (rest : List Piece) :
    into sink (.fixed text :: rest) = (text ++ (into sink rest).1, (into sink rest).2) := by
  simp only [into, List.map_cons, String.join_cons, List.filterMap_cons]
  rfl

theorem into_operand (operand : Operand) (rest : List Piece) :
    into sink (.operand operand :: rest) =
      ((sink operand).1 ++ (into sink rest).1, (sink operand).2 ++ (into sink rest).2) := by
  simp only [into, List.map_cons, String.join_cons, List.filterMap_cons]
  rfl

end Piece

/-- A predicate is written as its test. -/
theorem Predicate.render_eq (sink : Sink) (p : Predicate) :
    p.render sink = p.compile.map fun condition => Piece.into sink condition.nested := by
  rw [Predicate.render, Predicate.compile, Predicate.check]
  cases valid : p.column with
  | error fault => rfl
  | ok column =>
    rw [← Predicate.name_column valid]
    have written (words : String) (operand : Operand) :
        Piece.into sink [.fixed (column.name ++ words), .operand operand] =
          (column.name ++ words ++ (sink operand).1, (sink operand).2) := by
      rw [Piece.into_fixed, Piece.into_operand, Piece.into_nil, String.append_empty,
        List.append_nil]
    have words (text : String) :
        Piece.into sink [.fixed (column.name ++ text)] = (column.name ++ text, []) := by
      rw [Piece.into_fixed, Piece.into_nil, String.append_empty]
    simp only [Except.map, bind, Except.bind]
    cases operator : p.operator <;> dsimp only
    case compare comparison =>
      cases Numeric.ofValue? p.valueText with
      | none => simp only [Condition.nested, Test.pieces, written, String.append_assoc]
      | some number => simp only [Condition.nested, Test.pieces, written, String.append_assoc]
    case like =>
      cases Numeric.ofValue? p.valueText with
      | none => simp only [Condition.nested, Test.pieces, written]
      | some number => rfl
    case contains => simp only [Condition.nested, Test.pieces, written]
    case notContains => simp only [Condition.nested, Test.pieces, written]
    case isEmpty => simp only [Condition.nested, Test.pieces, words]
    case isNotEmpty => simp only [Condition.nested, Test.pieces, words]

/-- The texts of some conditions, each as part of a group, and the values bound in them. -/
def Condition.renderedParts (sink : Sink) (conditions : List Condition) :
    List String × List Parameter :=
  (conditions.map fun condition => (Piece.into sink condition.nested).1,
    conditions.flatMap fun condition => (Piece.into sink condition.nested).2)

theorem Predicate.renderAll_eq (sink : Sink) (predicates : List Predicate) :
    Predicate.renderAll sink predicates =
      (Predicate.compileAll predicates).map (Condition.renderedParts sink) := by
  induction predicates with
  | nil => rfl
  | cons p rest inductionHypothesis =>
    rw [Predicate.renderAll, Predicate.compileAll, Predicate.render_eq, inductionHypothesis]
    cases p.compile with
    | error fault => rfl
    | ok condition =>
      cases Predicate.compileAll rest with
      | error fault => rfl
      | ok conditions => rfl

/-- The text of a part of a group is never empty. -/
theorem Condition.into_nested_ne_empty (sink : Sink) (condition : Condition) :
    (Piece.into sink condition.nested).1 ≠ "" := by
  have fixed {text : String} (nonempty : text ≠ "") (rest : List Piece) :
      (Piece.into sink (.fixed text :: rest)).1 ≠ "" := by
    rw [Piece.into_fixed]
    exact fun empty => nonempty (String.append_eq_empty_iff.mp empty).1
  have column (column : Column) (words : String) : column.name ++ words ≠ "" := by
    intro empty
    have name := (String.append_eq_empty_iff.mp empty).1
    revert name
    cases column <;> decide
  cases condition with
  | test name asked =>
    cases asked <;> rw [nested, Test.pieces] <;> refine fixed ?_ _
    case compare =>
      rw [String.append_assoc, String.append_assoc]
      exact column _ _
    all_goals exact column _ _
  | group combinator parts =>
    rw [nested, List.cons_append]
    exact fixed (by decide) _

/-- The parts of a group are written with its combinator between them. -/
theorem Condition.into_joined (sink : Sink) (combinator : Combinator) (parts : List Condition) :
    Piece.into sink (Condition.joined combinator parts) =
      ((" " ++ combinator.word ++ " ").intercalate (renderedParts sink parts).1,
        (renderedParts sink parts).2) := by
  induction parts with
  | nil => rfl
  | cons part rest inductionHypothesis =>
    cases rest with
    | nil =>
      rw [joined, renderedParts, List.map_singleton, String.intercalate_singleton,
        List.flatMap_singleton]
    | cons next others =>
      rw [joined, Piece.into_append, Piece.into_fixed, inductionHypothesis]
      simp only [renderedParts, List.map_cons, String.intercalate_cons_cons, List.flatMap_cons,
        String.append_assoc]

theorem Condition.renderedParts_append (sink : Sink) (first second : List Condition) :
    renderedParts sink (first ++ second) =
      ((renderedParts sink first).1 ++ (renderedParts sink second).1,
        (renderedParts sink first).2 ++ (renderedParts sink second).2) := by
  rw [renderedParts, List.map_append, List.flatMap_append]
  rfl

/-- The condition of some parts, if there are any, as it is written. -/
def Condition.rendered (sink : Sink) : Option Condition → String × List Parameter
  | none => ("", [])
  | some condition => Piece.into sink condition.pieces

theorem Condition.rendered_ofParts (sink : Sink) (combinator : Combinator)
    (parts : List Condition) :
    rendered sink (ofParts combinator parts) =
      ((" " ++ combinator.word ++ " ").intercalate (renderedParts sink parts).1,
        (renderedParts sink parts).2) := by
  cases parts with
  | nil => rfl
  | cons part rest => exact Condition.into_joined sink combinator (part :: rest)

/-- A condition is written as something. -/
theorem Condition.rendered_not_isEmpty (sink : Sink) (combinator : Combinator) (part : Condition)
    (rest : List Condition) :
    ¬(rendered sink (some (.group combinator (part :: rest)))).1.isEmpty := by
  show ¬(Piece.into sink (joined combinator (part :: rest))).1.isEmpty
  rw [joined_cons, Piece.into_append, String.isEmpty_iff]
  exact fun empty => part.into_nested_ne_empty sink (String.append_eq_empty_iff.mp empty).1

/-- A group stands in parentheses inside another group, unless it has no condition. -/
theorem Condition.renderedParts_ofParts (sink : Sink) (combinator : Combinator)
    (parts : List Condition) :
    renderedParts sink (ofParts combinator parts).toList =
      (if (rendered sink (ofParts combinator parts)).1.isEmpty then []
        else ["(" ++ (rendered sink (ofParts combinator parts)).1 ++ ")"],
        (rendered sink (ofParts combinator parts)).2) := by
  cases parts with
  | nil => rfl
  | cons part rest =>
    have written := rendered_not_isEmpty sink combinator part rest
    show renderedParts sink [.group combinator (part :: rest)] =
      (if (rendered sink (some (.group combinator (part :: rest)))).1.isEmpty then [] else _, _)
    rw [if_neg written, renderedParts, List.map_singleton, List.flatMap_singleton, nested,
      List.cons_append, Piece.into_fixed, Piece.into_append, Piece.into_fixed, Piece.into_nil,
      String.append_empty, List.append_nil, String.append_assoc]
    rfl

mutual

/-- A group is written as its condition, if it has one. -/
theorem Group.render_eq (sink : Sink) (group : Group) :
    group.render sink = group.compile.map (Condition.rendered sink) := by
  cases group with
  | mk predicates subgroups combinator =>
    rw [Group.render, Group.compile, Predicate.renderAll_eq, Group.renderAll_eq sink subgroups]
    cases Predicate.compileAll predicates with
    | error fault => rfl
    | ok tests =>
      cases Group.compileAll subgroups with
      | error fault => rfl
      | ok nested =>
        have whole := Condition.rendered_ofParts sink combinator (tests ++ nested)
        rw [Condition.renderedParts_append] at whole
        exact congrArg Except.ok whole.symm

theorem Group.renderAll_eq (sink : Sink) (groups : List Group) :
    Group.renderAll sink groups =
      (Group.compileAll groups).map (Condition.renderedParts sink) := by
  cases groups with
  | nil => rfl
  | cons group rest =>
    rw [Group.renderAll, Group.compileAll, Group.render_eq sink group, Group.renderAll_eq sink rest]
    cases compiled : group.compile with
    | error fault => rfl
    | ok found =>
      cases Group.compileAll rest with
      | error fault => rfl
      | ok others =>
        obtain ⟨parts, rfl, _⟩ := Group.shows_of_compile group found compiled
        have first := Condition.renderedParts_ofParts sink group.combinator parts
        refine congrArg Except.ok ?_
        rw [Condition.renderedParts_append, first]
        refine Prod.ext ?_ rfl
        generalize Condition.ofParts group.combinator parts = found
        show (if (Condition.rendered sink found).1.isEmpty then _ else _ :: _) = _
        split <;> rfl

end

/-! ### Whole queries -/

/-- The order of a valid query is the one it names. -/
theorem Query.renderOrder_eq {q : Query} {column : Column} {order : SortOrder}
    (ordered : q.order = .ok (column, order)) :
    q.renderOrder = " ORDER BY " ++ column.name ++ " " ++ order.word := by
  rw [Query.order] at ordered
  rw [renderOrder]
  cases sorted : q.sortBy with
  | none =>
    rw [sorted] at ordered
    cases ordered
    rfl
  | some name =>
    simp only [sorted] at ordered ⊢
    split at ordered <;> rename_i empty
    · cases ordered
      rw [if_pos empty]
    · split at ordered <;> rename_i found <;> cases ordered
      rw [if_neg empty, Column.name_of_ofName? found]

theorem Query.renderCount_eq (sink : Sink) (word : String) (count : Option Int) :
    renderCount sink word count = Piece.into sink (Statement.countPieces word count) := by
  cases count with
  | none => rfl
  | some count =>
    rw [Statement.countPieces, Piece.into_fixed, Piece.into_operand, Piece.into_nil,
      String.append_empty, List.append_nil]
    rfl

/-- The condition of a group stands behind its word, unless there is none. -/
theorem Statement.into_filterPieces (sink : Sink) (combinator : Combinator)
    (parts : List Condition) :
    Piece.into sink (filterPieces (Condition.ofParts combinator parts)) =
      (if (Condition.rendered sink (Condition.ofParts combinator parts)).1.isEmpty then ""
        else " WHERE " ++ (Condition.rendered sink (Condition.ofParts combinator parts)).1,
        (Condition.rendered sink (Condition.ofParts combinator parts)).2) := by
  cases parts with
  | nil => rfl
  | cons part rest =>
    have written := Condition.rendered_not_isEmpty sink combinator part rest
    show Piece.into sink (.fixed " WHERE " :: _) =
      (if (Condition.rendered sink (some (.group combinator (part :: rest)))).1.isEmpty then ""
        else _, _)
    rw [if_neg written, Piece.into_fixed]
    rfl

theorem Statement.into_pieces (sink : Sink) (s : Statement) :
    Piece.into sink s.pieces =
      (Statement.head ++ (Piece.into sink (filterPieces s.filter)).1 ++
          (" ORDER BY " ++ s.sortColumn.name ++ " " ++ s.sortOrder.word) ++
          (Piece.into sink (countPieces "LIMIT" s.limit)).1 ++
          (Piece.into sink (countPieces "OFFSET" s.offset)).1,
        (Piece.into sink (filterPieces s.filter)).2 ++
          (Piece.into sink (countPieces "LIMIT" s.limit)).2 ++
          (Piece.into sink (countPieces "OFFSET" s.offset)).2) := by
  rw [pieces, Piece.into_append, List.cons_append, Piece.into_fixed, Piece.into_append,
    Piece.into_fixed]
  simp only [String.append_assoc, List.append_assoc]

/-- A query is written as its statement, with the same fault if it has none. -/
theorem Query.render_eq (sink : Sink) (q : Query) :
    q.render sink = q.compile.map fun statement => Piece.into sink statement.pieces := by
  rw [Query.render, Query.compile]
  cases valid : q.check with
  | error fault => rfl
  | ok _ =>
    obtain ⟨_, _, rest⟩ := bind_eq_ok.mp valid
    obtain ⟨⟨column, order⟩, ordered, _⟩ := bind_eq_ok.mp rest
    rw [Query.renderOrder_eq ordered, ordered, Query.renderCount_eq, Query.renderCount_eq]
    cases q.filter with
    | none =>
      simp only [bind, Except.bind, Except.map]
      rw [Statement.into_pieces]
      rfl
    | some group =>
      simp only [bind, Except.bind, Group.render_eq]
      cases compiled : group.compile with
      | error fault => rfl
      | ok found =>
        obtain ⟨parts, rfl, _⟩ := Group.shows_of_compile group found compiled
        simp only [Except.map]
        rw [Statement.into_pieces, Statement.into_filterPieces]

/-! ### The two sinks -/

theorem Statement.into_bound (s : Statement) :
    Piece.into .bound s.pieces = (s.text, s.parameters) :=
  Prod.ext rfl List.map_eq_flatMap.symm

theorem Statement.into_literal (s : Statement) :
    Piece.into .literal s.pieces = (s.literalText, []) :=
  Prod.ext rfl (List.flatMap_eq_nil_iff.mpr fun _ _ => rfl)

/-- The store refuses a query that cannot be shown, and else runs it. -/
theorem RecordStore.query_eq_render (store : RecordStore) (q : Query) :
    store.query q =
      match q.render .literal with
      | .error fault => (store, .error fault.fault)
      | .ok _ => store.transact .read (Database.select q) := by
  rw [RecordStore.query, Query.render_eq]
  cases q.compile with
  | error fault => rfl
  | ok statement => rfl

/-- Inside a transaction a compiled query changes nothing. If it fails, then in one of its phases:
others are in its way there, or the database has a reason of its own. -/
theorem Database.select_of_compile {q : Query} {statement : Statement}
    (compiled : q.compile = .ok statement) (connection : Connection) (table : Table) :
    (∃ records, Database.select q connection table = .ok (records, table)) ∨
      ∃ phase : Phase, Database.select q connection table = .error (Database.locked phase.doing) ∨
        ∃ reason, Database.select q connection table =
          .error (.database (phase.doing ++ ": " ++ reason)) := by
  simp only [Database.select, compiled]
  cases failed : Phase.all.findSome? (Database.failure? connection statement table) with
  | some fault =>
    obtain ⟨phase, ⟨_, rfl⟩ | ⟨reason, _, rfl⟩⟩ := exists_of_findSome?_failure? failed
    · exact .inr ⟨phase, .inl rfl⟩
    · exact .inr ⟨phase, .inr ⟨reason, rfl⟩⟩
  | none =>
    cases table.records statement with
    | error fault =>
      have words : "Failed to read row: " = Phase.read.doing ++ ": " := by decide
      refine .inr ⟨.read, .inr ⟨fault.reason, ?_⟩⟩
      rw [← words]
    | ok records => exact .inl ⟨records, rfl⟩

open Sql (lexemes fill) in
/-- A query has both texts or none. If it has none, both walks end with the same fault and the store
refuses the query with it. If it has both, the one that is shown is the one that is run, with the
operands of the query in place of the placeholders and their clauses: a text as one literal, a
number as one number. A query that can be shown never fails to compile inside a transaction: it
gives records, or others are in its way, or the database fails in one of its phases. -/
theorem Query.literal_fills_bound (q : Query) :
    (∃ fault : QueryFault, q.render .bound = .error fault ∧ q.render .literal = .error fault ∧
      ∀ store : RecordStore, store.query q = (store, .error fault.fault)) ∨
    ∃ statement, q.compile = .ok statement ∧
      q.render .bound = .ok (statement.text, statement.parameters) ∧
      q.render .literal = .ok (statement.literalText, []) ∧
      fill (lexemes statement.text.toList) q.operandLexemes =
        some (lexemes statement.literalText.toList) ∧
      (∀ store : RecordStore, store.query q = store.transact .read (Database.select q)) ∧
      ∀ (connection : Connection) (table : Table),
        (∀ fault : QueryFault, Database.select q connection table ≠ .error fault.fault) ∧
        ((∃ records, Database.select q connection table = .ok (records, table)) ∨
          ∃ phase : Phase, Database.select q connection table =
              .error (Database.locked phase.doing) ∨
            ∃ reason, Database.select q connection table =
              .error (.database (phase.doing ++ ": " ++ reason))) := by
  cases compiled : q.compile with
  | error fault =>
    have failed (sink : Sink) : q.render sink = .error fault := by
      rw [Query.render_eq, compiled]
      rfl
    refine .inl ⟨fault, failed .bound, failed .literal, fun store => ?_⟩
    rw [store.query_eq_render, failed]
  | ok statement =>
    have written (sink : Sink) : q.render sink = .ok (Piece.into sink statement.pieces) := by
      rw [Query.render_eq, compiled]
      rfl
    obtain ⟨apart, operands⟩ := Query.shows_of_compile compiled
    refine .inr ⟨statement, rfl, ?_, ?_, ?_, fun store => ?_, fun connection table => ?_⟩
    · rw [written, statement.into_bound]
    · rw [written, statement.into_literal]
    · rw [← operands]
      exact statement.fill_lexemes_text apart
    · rw [store.query_eq_render, written]
    · have ended := Database.select_of_compile compiled connection table
      refine ⟨fun fault failed => ?_, ended⟩
      rw [failed] at ended
      obtain ⟨_, ⟨⟩⟩ | ⟨_, met | ⟨_, refused⟩⟩ := ended
      · cases fault <;> cases met
      · cases fault <;> cases refused

end ApplicationLedger
