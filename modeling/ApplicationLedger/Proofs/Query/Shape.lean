/-
This file proves that values do not show in the text that is run. Two queries have the same shape if
they differ in the values of their predicates, in the sizes of their limits and in the numbers of
their pages only; queries of one shape that can be compiled have the same text, to the last
character. So the text that a client sends as a value, a number or not, never becomes a part of the
statement.
-/

import ApplicationLedger.Proofs.Query.Text

namespace ApplicationLedger

/-! ### Shapes -/

/-- Predicates that differ in their values only. -/
def Predicate.SameShape (p r : Predicate) : Prop :=
  p.field = r.field ∧ p.operator = r.operator

namespace Group

mutual

/-- Groups that differ in the values of their predicates only. -/
def SameShape : Group → Group → Prop
  | mk predicates subgroups combinator, mk predicates' subgroups' combinator' =>
    List.Forall₂ Predicate.SameShape predicates predicates' ∧ AllSameShape subgroups subgroups' ∧
      combinator = combinator'

/-- Lists of groups that differ in the values of their predicates only. -/
def AllSameShape : List Group → List Group → Prop
  | [], [] => True
  | group :: rest, group' :: rest' => SameShape group group' ∧ AllSameShape rest rest'
  | _, _ => False

end

end Group

/-- Queries that differ in values, in how far a limit is above zero and in how far a page is. -/
structure Query.SameShape (q r : Query) : Prop where
  filter : Option.Rel Group.SameShape q.filter r.filter
  sortBy : q.sortBy = r.sortBy
  sortOrder : q.sortOrder = r.sortOrder
  limit : 0 < q.limit ↔ 0 < r.limit
  page : 0 < q.page ↔ 0 < r.page

/-! ### The texts of groups -/

/-- The text of a condition, if there is one. -/
def Condition.foundText (found : Option Condition) : Option (List Char) :=
  found.map fun condition => Piece.runText condition.pieces

/-- The text of a group follows from the texts of its parts. -/
theorem Condition.foundText_ofParts (combinator : Combinator) {parts parts' : List Condition}
    (same : parts.map partText = parts'.map partText) :
    foundText (ofParts combinator parts) = foundText (ofParts combinator parts') := by
  cases parts with
  | nil =>
    cases parts' with
    | nil => rfl
    | cons part' rest' => cases same
  | cons part rest =>
    cases parts' with
    | nil => cases same
    | cons part' rest' =>
      obtain ⟨first, others⟩ := List.cons.inj same
      show some (Piece.runText (joined combinator (part :: rest))) =
        some (Piece.runText (joined combinator (part' :: rest')))
      rw [runText_joined, runText_joined, first, others]

/-- The condition of a group stands in parentheses inside another group. -/
theorem Group.partText_found {group : Group} {found : Option Condition}
    (compiled : group.compile = .ok found) :
    found.toList.map Condition.partText =
      ((Condition.foundText found).map fun text => '(' :: text ++ [')']).toList := by
  cases group with
  | mk predicates subgroups combinator =>
    obtain ⟨tests, nested, _, _, rfl⟩ := Group.compile_eq_ok compiled
    unfold Condition.ofParts
    split
    · rfl
    · exact congrArg (fun text => [text]) (Condition.partText_group combinator _)

theorem Predicate.partTexts_eq {predicates predicates' : List Predicate}
    {tests tests' : List Condition}
    (alike : List.Forall₂ Predicate.SameShape predicates predicates')
    (compiled : Predicate.compileAll predicates = .ok tests)
    (compiled' : Predicate.compileAll predicates' = .ok tests') :
    tests.map Condition.partText = tests'.map Condition.partText := by
  have left := Predicate.compileAll_eq_ok compiled
  have right := Predicate.compileAll_eq_ok compiled'
  clear compiled compiled'
  induction alike generalizing tests tests' with
  | nil =>
    cases left
    cases right
    rfl
  | cons same others inductionHypothesis =>
    cases left with
    | cons first rest =>
      cases right with
      | cons first' rest' =>
        rw [List.map_cons, List.map_cons, Predicate.partText_eq first,
          Predicate.partText_eq first', same.1, same.2, inductionHypothesis rest rest']

mutual

/-- Groups of one shape have the same text. -/
theorem Group.foundText_eq (group group' : Group) (alike : group.SameShape group')
    (found found' : Option Condition) (compiled : group.compile = .ok found)
    (compiled' : group'.compile = .ok found') :
    Condition.foundText found = Condition.foundText found' := by
  match group, group' with
  | .mk predicates subgroups combinator, .mk predicates' subgroups' combinator' =>
    obtain ⟨predicatesAlike, subgroupsAlike, rfl⟩ := alike
    obtain ⟨tests, nested, first, second, rfl⟩ := Group.compile_eq_ok compiled
    obtain ⟨tests', nested', first', second', rfl⟩ := Group.compile_eq_ok compiled'
    apply Condition.foundText_ofParts
    rw [List.map_append, List.map_append, Predicate.partTexts_eq predicatesAlike first first',
      Group.partTexts_eq subgroups subgroups' subgroupsAlike nested nested' second second']

theorem Group.partTexts_eq (groups groups' : List Group) (alike : AllSameShape groups groups')
    (conditions conditions' : List Condition) (compiled : Group.compileAll groups = .ok conditions)
    (compiled' : Group.compileAll groups' = .ok conditions') :
    conditions.map Condition.partText = conditions'.map Condition.partText := by
  match groups, groups' with
  | [], [] =>
    cases compiled
    cases compiled'
    rfl
  | group :: rest, group' :: rest' =>
    obtain ⟨found, others, first, second, rfl⟩ := Group.compileAll_cons_eq_ok compiled
    obtain ⟨found', others', first', second', rfl⟩ := Group.compileAll_cons_eq_ok compiled'
    rw [List.map_append, List.map_append, Group.partText_found first, Group.partText_found first',
      Group.foundText_eq group group' alike.1 found found' first first',
      Group.partTexts_eq rest rest' alike.2 others others' second second']

end

/-! ### The texts of queries -/

/-- Queries of one shape have filters of one text. -/
theorem Query.foundText_eq {q r : Query} (alike : q.SameShape r)
    {found found' : Option Condition} (compiled : q.condition = .ok found)
    (compiled' : r.condition = .ok found') :
    Condition.foundText found = Condition.foundText found' := by
  unfold Query.condition at compiled compiled'
  have filters := alike.filter
  generalize q.filter = filter at *
  generalize r.filter = filter' at *
  cases filters with
  | none =>
    cases compiled
    cases compiled'
    rfl
  | some same => exact Group.foundText_eq _ _ same _ _ compiled compiled'

/-- The text of a statement shows the text of its filter, its order, and whether there are a limit
and an offset. -/
theorem Statement.text_eq_of_shown {s t : Statement}
    (filter : Condition.foundText s.filter = Condition.foundText t.filter)
    (sortColumn : s.sortColumn = t.sortColumn) (sortOrder : s.sortOrder = t.sortOrder)
    (limit : s.limit.isSome = t.limit.isSome) (offset : s.offset.isSome = t.offset.isSome) :
    s.text = t.text := by
  have filtered : filterText s.filter = filterText t.filter := by
    generalize s.filter = left at *
    generalize t.filter = right at *
    rcases left with _ | condition <;> rcases right with _ | condition'
    · rfl
    · cases filter
    · cases filter
    · have same : Piece.runText condition.pieces = Piece.runText condition'.pieces :=
        Option.some.inj filter
      rw [filterText, filterText, same]
  have counted (word : String) {count count' : Option Int} (same : count.isSome = count'.isSome) :
      countText word count = countText word count' := by
    cases count <;> cases count' <;> cases same <;> rfl
  apply String.toList_inj.mp
  rw [toList_text_eq, toList_text_eq, filtered, sortColumn, sortOrder, counted "LIMIT" limit,
    counted "OFFSET" offset]

theorem Query.order_eq_of_sameShape {q r : Query} (alike : q.SameShape r) :
    q.order = r.order := by
  rw [Query.order, Query.order, alike.sortBy, alike.sortOrder]

/-- Queries that differ in values, in how far a limit is above zero and in how far a page is have
the same text, if both can be compiled. -/
theorem Query.text_eq_of_sameShape (q r : Query) (s t : Statement) (alike : q.SameShape r)
    (compiled : q.compile = .ok s) (compiled' : r.compile = .ok t) : s.text = t.text := by
  obtain ⟨column, order, found, ordered, filtered, rfl⟩ := Query.compile_eq_ok compiled
  obtain ⟨column', order', found', ordered', filtered', rfl⟩ := Query.compile_eq_ok compiled'
  rw [Query.order_eq_of_sameShape alike, ordered'] at ordered
  cases ordered
  refine Statement.text_eq_of_shown (Query.foundText_eq alike filtered filtered') rfl rfl ?_ ?_
  · simp only [Query.rowLimit, gt_iff_lt, alike.limit]
    split <;> rfl
  · simp only [Query.rowOffset, gt_iff_lt, alike.limit, alike.page]
    split <;> rfl

/-- A part and a number against a text with quotes and another number, on pages far apart. -/
theorem Query.text_eq_of_sameShape_quotes :
    let q : Query := ⟨some (.mk [⟨"title", .contains, some "lead"⟩]
      [.mk [⟨"company", .compare .equal, some "12"⟩] [] .or] .and), some "url", none, 10, 1⟩
    let r : Query := ⟨some (.mk [⟨"title", .contains, some "100%' OR 'a'='a"⟩]
      [.mk [⟨"company", .compare .equal, some "'; DROP TABLE x --"⟩] [] .or] .and), some "url",
        none, 1000000, 77⟩
    q.SameShape r ∧ ∃ s t, q.compile = .ok s ∧ r.compile = .ok t ∧ s.text = t.text := by
  intro q r
  have alike : q.SameShape r := by
    refine ⟨.some ⟨?_, ⟨⟨?_, trivial, rfl⟩, trivial⟩, rfl⟩, rfl, rfl, by decide, by decide⟩
    · exact .cons ⟨rfl, rfl⟩ .nil
    · exact .cons ⟨rfl, rfl⟩ .nil
  obtain ⟨s, compiled⟩ : ∃ s, q.compile = .ok s := ⟨_, rfl⟩
  obtain ⟨t, compiled'⟩ : ∃ t, r.compile = .ok t := ⟨_, rfl⟩
  exact ⟨alike, s, t, compiled, compiled',
    Query.text_eq_of_sameShape q r s t alike compiled compiled'⟩

end ApplicationLedger
