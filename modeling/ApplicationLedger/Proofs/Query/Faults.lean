/-
This file says when a query has a statement, and which fault it is refused with when it has none.
A query is walked through twice, once to check its predicates and once to compile them, and the
column of its order is looked at in between. So a predicate that is not valid counts before all
else, wherever it stands, and a pattern that is a number counts last.
-/

import ApplicationLedger.Proofs.Query.Compile

namespace ApplicationLedger

/-! ### Predicates -/

namespace Predicate

/-- Whether the predicate names a column, and has a value unless it asks for a missing one. -/
structure IsValid (p : Predicate) : Prop where
  named : ∃ column : Column, column.name = p.field
  valued : p.value ≠ none ∨ p.operator.isNullCheck = true

/-- What is wrong with a predicate that is not valid. -/
def fault (p : Predicate) : QueryFault :=
  if p.field = "" then .fieldMissing
  else if Column.ofName? p.field = none then .unknownField p.field
  else .valueMissing p.field p.operator

/-- Whether the predicate has a pattern that is a number. -/
def IsNumericPattern (p : Predicate) : Prop :=
  p.operator = .like ∧ ∃ number, Numeric.ofValue? p.valueText = some number

end Predicate

theorem Column.exists_name_eq_iff {text : String} :
    (∃ column : Column, column.name = text) ↔ Column.ofName? text ≠ none := by
  constructor
  · rintro ⟨column, rfl⟩
    rw [Column.ofName?_name]
    exact Option.some_ne_none column
  · intro found
    obtain ⟨column, found⟩ := Option.ne_none_iff_exists'.mp found
    exact ⟨column, Column.name_of_ofName? found⟩

namespace Predicate

/-- A predicate has a column exactly if it is valid; else it has its fault. -/
theorem column_cases (p : Predicate) :
    (p.IsValid ∧ ∃ column, p.column = .ok column) ∨ (¬p.IsValid ∧ p.column = .error p.fault) := by
  unfold column fault
  by_cases empty : p.field = ""
  · refine .inr ⟨fun valid => ?_, ?_⟩
    · obtain ⟨column, named⟩ := valid.named
      revert named
      rw [empty]
      cases column <;> decide
    · rw [if_pos empty, if_pos (String.isEmpty_iff.mpr empty)]
  · rw [if_neg empty, if_neg (fun isEmpty => empty (String.isEmpty_iff.mp isEmpty))]
    cases found : Column.ofName? p.field with
    | none =>
      refine .inr ⟨fun valid => ?_, rfl⟩
      exact Column.exists_name_eq_iff.mp valid.named found
    | some column =>
      have named : ∃ column : Column, column.name = p.field :=
        ⟨column, Column.name_of_ofName? found⟩
      cases value : p.value with
      | some text => exact .inl ⟨⟨named, .inl (value ▸ Option.some_ne_none text)⟩, column, rfl⟩
      | none =>
        cases null : p.operator.isNullCheck with
        | true => exact .inl ⟨⟨named, .inr null⟩, column, rfl⟩
        | false =>
          refine .inr ⟨fun valid => ?_, rfl⟩
          rcases valid.valued with valued | isNull
          · exact valued value
          · cases null.symm.trans isNull

theorem exists_column_eq_ok {p : Predicate} (valid : p.IsValid) :
    ∃ column, p.column = .ok column := by
  rcases p.column_cases with ⟨_, found⟩ | ⟨invalid, _⟩
  · exact found
  · exact absurd valid invalid

theorem check_eq_ok_iff {p : Predicate} : p.check = .ok () ↔ p.IsValid := by
  rw [check]
  rcases p.column_cases with ⟨valid, column, found⟩ | ⟨invalid, failed⟩
  · rw [found]
    exact ⟨fun _ => valid, fun _ => rfl⟩
  · rw [failed]
    exact ⟨nofun, fun valid => absurd valid invalid⟩

theorem check_eq_error_iff {p : Predicate} {fault : QueryFault} :
    p.check = .error fault ↔ ¬p.IsValid ∧ fault = p.fault := by
  rw [check]
  rcases p.column_cases with ⟨valid, column, found⟩ | ⟨invalid, failed⟩
  · rw [found]
    exact ⟨nofun, fun ⟨invalid, _⟩ => absurd valid invalid⟩
  · rw [failed]
    exact ⟨fun same => ⟨invalid, (Except.error.inj same).symm⟩, fun ⟨_, same⟩ => same ▸ rfl⟩

/-- A valid predicate is compiled, unless its pattern is a number. -/
theorem compile_map_of_texts {p : Predicate} (valid : p.IsValid) (text : ¬p.IsNumericPattern) :
    p.compile.map (fun _ => ()) = .ok () := by
  obtain ⟨column, found⟩ := exists_column_eq_ok valid
  rw [compile, found]
  simp only [bind, Except.bind]
  cases operator : p.operator <;> dsimp only
  case like =>
    cases number : Numeric.ofValue? p.valueText with
    | none => rfl
    | some number' => exact absurd ⟨operator, number', number⟩ text
  case compare comparison => cases Numeric.ofValue? p.valueText <;> rfl
  all_goals rfl

theorem compile_map_of_numericPattern {p : Predicate} (valid : p.IsValid)
    (pattern : p.IsNumericPattern) :
    p.compile.map (fun _ => ()) = .error (.numericPattern .like p.field p.valueText) := by
  obtain ⟨column, found⟩ := exists_column_eq_ok valid
  obtain ⟨operator, number, isNumber⟩ := pattern
  rw [compile, found]
  simp only [bind, Except.bind, operator, isNumber]
  rfl

end Predicate

/-! ### Groups and queries -/

/-- Predicates are compiled if each of them is; else the first fault is the one that counts. -/
theorem Predicate.compileAll_map (predicates : List Predicate) :
    (compileAll predicates).map (fun _ => ()) =
      predicates.forM fun p => p.compile.map fun _ => () := by
  induction predicates with
  | nil => rfl
  | cons p rest inductionHypothesis =>
    show _ = (p.compile.map fun _ => ()).bind fun _ => rest.forM _
    rw [← inductionHypothesis, compileAll]
    cases p.compile with
    | error fault => rfl
    | ok condition => cases compileAll rest <;> rfl

namespace Group

mutual

/-- A group is compiled if each predicate of its walk is; else it has the fault of the first one
that is not. -/
theorem compile_map (group : Group) :
    group.compile.map (fun _ => ()) = group.walk.forM fun p => p.compile.map fun _ => () := by
  cases group with
  | mk predicates subgroups combinator =>
    rw [walk, forM_append, ← Predicate.compileAll_map, ← compileAll_map subgroups, compile]
    cases Predicate.compileAll predicates with
    | error fault => rfl
    | ok tests => cases compileAll subgroups <;> rfl

theorem compileAll_map (groups : List Group) :
    (compileAll groups).map (fun _ => ()) =
      (walkAll groups).forM fun p => p.compile.map fun _ => () := by
  cases groups with
  | nil => rfl
  | cons group rest =>
    rw [walkAll, forM_append, ← compile_map group, ← compileAll_map rest, compileAll]
    cases compile group with
    | error fault => rfl
    | ok found => cases compileAll rest <;> rfl

end

end Group

namespace Query

/-- Whether the query names no column to order by, or one that there is. -/
def IsOrdered (q : Query) : Prop :=
  q.sortBy = none ∨ q.sortBy = some "" ∨ ∃ column : Column, q.sortBy = some column.name

/-- Why a query has no statement. -/
inductive IsRefused (q : Query) : QueryFault → Prop
  | invalid (p : Predicate) (first : IsFirst (fun p => ¬p.IsValid) q.walk p) : IsRefused q p.fault
  | unordered (name : String) (valid : ∀ p ∈ q.walk, p.IsValid) (sorted : q.sortBy = some name)
      (unknown : ¬q.IsOrdered) : IsRefused q (.unknownSort name)
  | numericPattern (p : Predicate) (valid : ∀ p ∈ q.walk, p.IsValid) (ordered : q.IsOrdered)
      (first : IsFirst Predicate.IsNumericPattern q.walk p) :
      IsRefused q (.numericPattern .like p.field p.valueText)

theorem order_cases (q : Query) :
    (q.IsOrdered ∧ ∃ column order, q.order = .ok (column, order)) ∨
      (¬q.IsOrdered ∧ ∃ name, q.sortBy = some name ∧ q.order = .error (.unknownSort name)) := by
  unfold IsOrdered order
  cases q.sortBy with
  | none => exact .inl ⟨.inl rfl, _, _, rfl⟩
  | some name =>
    by_cases empty : name = ""
    · subst empty
      exact .inl ⟨.inr (.inl rfl), _, _, rfl⟩
    · dsimp only
      rw [if_neg (fun isEmpty => empty (String.isEmpty_iff.mp isEmpty))]
      cases found : Column.ofName? name with
      | none =>
        refine .inr ⟨?_, name, rfl, rfl⟩
        rintro (none | same | ⟨column, same⟩)
        · cases none
        · exact empty (Option.some.inj same)
        · exact Column.exists_name_eq_iff.mp ⟨column, (Option.some.inj same).symm⟩ found
      | some column =>
        refine .inl ⟨.inr (.inr ⟨column, ?_⟩), _, _, rfl⟩
        rw [Column.name_of_ofName? found]

/-- A query is compiled in three steps: its predicates are checked, then its order, then its
predicates are compiled. -/
theorem compile_map (q : Query) :
    q.compile.map (fun _ => ()) =
      (q.walk.forM Predicate.check).bind fun _ =>
        (q.order.map fun _ => ()).bind fun _ =>
          q.walk.forM fun p => p.compile.map fun _ => () := by
  rw [compile, check]
  cases q.walk.forM Predicate.check with
  | error fault => rfl
  | ok _ =>
    cases q.order with
    | error fault => rfl
    | ok order =>
      rw [walk]
      cases q.filter with
      | none => rfl
      | some group =>
        refine Eq.trans ?_ group.compile_map
        show ((group.compile).bind _).map _ = _
        cases group.compile <;> rfl

theorem forM_check_of_valid {q : Query} (valid : ∀ p ∈ q.walk, p.IsValid) :
    q.walk.forM Predicate.check = .ok () :=
  forM_eq_ok_iff.mpr fun p member => Predicate.check_eq_ok_iff.mpr (valid p member)

/-- Whether all predicates of a query are valid, its order is one, and no pattern is a number. -/
structure IsSound (q : Query) : Prop where
  valid : ∀ p ∈ q.walk, p.IsValid
  ordered : q.IsOrdered
  patterns : ∀ p ∈ q.walk, ¬p.IsNumericPattern

theorem exists_compile_eq_ok {q : Query} (sound : q.IsSound) :
    ∃ statement, q.compile = .ok statement := by
  have compiled : (q.walk.forM fun p => p.compile.map fun _ => ()) = .ok () :=
    forM_eq_ok_iff.mpr fun p member =>
      Predicate.compile_map_of_texts (sound.valid p member) (sound.patterns p member)
  have whole := q.compile_map
  rcases q.order_cases with ⟨_, column, order, found⟩ | ⟨unordered, _⟩
  · rw [forM_check_of_valid sound.valid, found, compiled] at whole
    exact exists_of_map_eq_ok whole
  · exact absurd sound.ordered unordered

/-- A query that is not sound is refused. -/
theorem exists_isRefused {q : Query} (unsound : ¬q.IsSound) : ∃ fault, q.IsRefused fault := by
  by_cases valid : ∀ p ∈ q.walk, p.IsValid
  · by_cases ordered : q.IsOrdered
    · by_cases patterns : ∀ p ∈ q.walk, ¬p.IsNumericPattern
      · exact absurd ⟨valid, ordered, patterns⟩ unsound
      · obtain ⟨p, member, pattern⟩ : ∃ p ∈ q.walk, p.IsNumericPattern := by
          simpa only [not_forall, not_not, exists_prop] using patterns
        obtain ⟨p, first⟩ := exists_isFirst ⟨p, member, pattern⟩
        exact ⟨_, .numericPattern p valid ordered first⟩
    · rcases q.order_cases with ⟨ordered', _⟩ | ⟨_, name, sorted, _⟩
      · exact absurd ordered' ordered
      · exact ⟨_, .unordered name valid sorted ordered⟩
  · obtain ⟨p, member, invalid⟩ : ∃ p ∈ q.walk, ¬p.IsValid := by
      simpa only [not_forall, exists_prop] using valid
    obtain ⟨p, first⟩ := @exists_isFirst _ (fun p => ¬p.IsValid) _ ⟨p, member, invalid⟩
    exact ⟨_, .invalid p first⟩

/-- A fault for which a query is refused is the one that it is refused with. -/
theorem compile_of_isRefused {q : Query} {fault : QueryFault} (refused : q.IsRefused fault) :
    q.compile = .error fault := by
  refine map_eq_error_iff.mp (q.compile_map.trans ?_)
  cases refused with
  | invalid p first =>
    have failed : q.walk.forM Predicate.check = .error p.fault :=
      forM_eq_error_of_isFirst first
        (fun other _ valid => Predicate.check_eq_ok_iff.mpr (not_not.mp valid))
        (Predicate.check_eq_error_iff.mpr ⟨first.holds, rfl⟩)
    rw [failed]
    rfl
  | unordered name valid sorted unknown =>
    rw [forM_check_of_valid valid]
    rcases q.order_cases with ⟨ordered, _⟩ | ⟨_, other, sorted', found⟩
    · exact absurd ordered unknown
    · cases sorted.symm.trans sorted'
      rw [found]
      rfl
  | numericPattern p valid ordered first =>
    have failed := forM_eq_error_of_isFirst first
      (fun other member => Predicate.compile_map_of_texts (valid other member))
      (Predicate.compile_map_of_numericPattern (valid p first.mem) first.holds)
    rw [forM_check_of_valid valid]
    rcases q.order_cases with ⟨_, column, order, found⟩ | ⟨unordered, _⟩
    · rw [found]
      exact failed
    · exact absurd ordered unordered

/-- The category of a fault tells how far the checks have come: only a query whose predicates are
valid and whose order is one is refused by the compiler. -/
theorem fault_of_isRefused {q : Query} {fault : QueryFault} (refused : q.IsRefused fault) :
    (fault.fault = .compiler fault.reason ∧ (∀ p ∈ q.walk, p.IsValid) ∧ q.IsOrdered) ∨
      (fault.fault = .validation fault.reason ∧
        ¬((∀ p ∈ q.walk, p.IsValid) ∧ q.IsOrdered)) := by
  cases refused with
  | invalid p first =>
    refine .inr ⟨?_, fun sound => first.holds (sound.1 p first.mem)⟩
    unfold Predicate.fault
    split
    · rfl
    · split <;> rfl
  | unordered name valid sorted unknown => exact .inr ⟨rfl, fun sound => unknown sound.2⟩
  | numericPattern p valid ordered first => exact .inl ⟨rfl, valid, ordered⟩

/-- A query has a statement exactly if all its predicates are valid, its order is one and no pattern
is a number. Else it is refused with the fault of its first predicate that is not valid, wherever
that stands; or with that of its order, if all are valid; or with that of its first pattern that is
a number. Only the last is a fault of the compiler, all others are faults of the request. -/
theorem compile_or_isRefused (q : Query) :
    ((∃ statement, q.compile = .ok statement) ↔
      (∀ p ∈ q.walk, p.IsValid) ∧ q.IsOrdered ∧ ∀ p ∈ q.walk, ¬p.IsNumericPattern) ∧
    ∀ fault, q.compile = .error fault ↔ q.IsRefused fault ∧
      ((fault.fault = .compiler fault.reason ∧ (∀ p ∈ q.walk, p.IsValid) ∧ q.IsOrdered) ∨
        (fault.fault = .validation fault.reason ∧
          ¬((∀ p ∈ q.walk, p.IsValid) ∧ q.IsOrdered))) := by
  refine ⟨⟨?_, fun sound => exists_compile_eq_ok ⟨sound.1, sound.2.1, sound.2.2⟩⟩,
    fun fault => ⟨fun failed => ?_, fun refused => compile_of_isRefused refused.1⟩⟩
  · rintro ⟨statement, compiled⟩
    by_contra unsound
    obtain ⟨fault, refused⟩ := exists_isRefused fun sound : q.IsSound =>
      unsound ⟨sound.valid, sound.ordered, sound.patterns⟩
    cases compiled.symm.trans (compile_of_isRefused refused)
  · have unsound : ¬q.IsSound := by
      intro sound
      obtain ⟨statement, compiled⟩ := exists_compile_eq_ok sound
      cases compiled.symm.trans failed
    obtain ⟨other, refused⟩ := exists_isRefused unsound
    cases failed.symm.trans (compile_of_isRefused refused)
    exact ⟨refused, fault_of_isRefused refused⟩

/-- A field that there is not counts before an order and a pattern that are wrong. -/
example :
    Query.compile ⟨some (.mk [⟨"title", .like, some "7"⟩]
      [.mk [⟨"salary", .isEmpty, none⟩] [] .or] .and), some "age", none, 0, 0⟩ =
      .error (.unknownField "salary") := rfl

end Query

end ApplicationLedger
