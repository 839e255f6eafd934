/-
This file compares the two texts of a statement, the one that is run and the one that is shown. The
fixed pieces of a statement are words and signs that keep apart from the operands beside them, so
each operand is read for itself: as a placeholder in one text, and in the other as one literal or
one number that holds the value of its predicate. No value reaches beyond its own lexeme.
-/

import ApplicationLedger.Proofs.Query.Compile
import ApplicationLedger.Proofs.Query.Text
import ApplicationLedger.Proofs.Sql.Lexeme

namespace ApplicationLedger

open Sql (Lexeme lexemes lexemes_append IsPlain EndsOperand beginsApart escapeClause fill)

/-! ### Operands -/

namespace Operand

/-- The lexemes of an operand in the text that is run. -/
def runLexemes : Operand → List Lexeme
  | part _ => .placeholder :: escapeClause
  | _ => [.placeholder]

/-- The lexeme of an operand in the text that is shown. -/
def lexeme : Operand → Lexeme
  | text value => .literal value.toList
  | number written _ => .number written.toList
  | part value => .literal ('%' :: value.toList ++ ['%'])
  | count value => .number (toString value).toList

/-- Whether the operand is one lexeme where it is in place: a number has to be written as one. -/
def IsWritable : Operand → Prop
  | number written _ => Sql.number? written.toList = some (written.toList, [])
  | count value => 0 ≤ value
  | _ => True

theorem lexemes_placeholder (operand : Operand) {rest : List Char} (ends : EndsOperand rest) :
    lexemes (operand.placeholder.toList ++ rest) = operand.runLexemes ++ lexemes rest := by
  have mark : "?".toList = ['?'] := rfl
  cases operand with
  | part value => exact Sql.lexemes_escaped ends
  | text | number | count =>
    show lexemes ("?".toList ++ rest) = _
    rw [mark]
    exact Sql.lexemes_placeholder rest

theorem lexemes_literal {operand : Operand} (writable : operand.IsWritable) {rest : List Char}
    (ends : EndsOperand rest) :
    lexemes (operand.literal.toList ++ rest) = [operand.lexeme] ++ lexemes rest := by
  cases operand with
  | text value => exact Sql.lexemes_quoted value ends
  | number written value => exact Sql.lexemes_number writable ends
  | part value =>
    refine (Sql.lexemes_quoted ("%" ++ value ++ "%") ends).trans (congrArg (· :: _) ?_)
    rw [lexeme, String.toList_append, String.toList_append]
    rfl
  | count value =>
    have digits : (toString value).toList = Nat.toDigits 10 value.toNat := by
      obtain ⟨count, rfl⟩ := Int.eq_ofNat_of_zero_le writable
      exact Nat.toList_repr
    refine Sql.lexemes_number ?_ ends
    show Sql.number? (toString value).toList = some ((toString value).toList, [])
    rw [digits]
    exact Sql.number?_toDigits value.toNat

end Operand

/-! ### Pieces that keep apart -/

namespace Piece

/-- Whether pieces begin with what ends an operand, if with anything. -/
def BeginApart : List Piece → Prop
  | [] => True
  | .fixed text :: _ => beginsApart text.toList = true
  | .operand _ :: _ => False

/-- Whether no lexeme crosses from one piece to the next. Behind an operand or a word there is
something that ends it. -/
def KeepApart : List Piece → Prop
  | [] => True
  | .fixed text :: rest =>
    IsPlain text.toList ∧ (text.toList.getLast?.any Sql.isWordCharacter = false ∨ BeginApart rest) ∧
      KeepApart rest
  | .operand value :: rest => value.IsWritable ∧ BeginApart rest ∧ KeepApart rest

theorem BeginApart.append {first second : List Piece} (apart : BeginApart first)
    (next : BeginApart second) : BeginApart (first ++ second) := by
  cases first with
  | nil => exact next
  | cons piece rest =>
    cases piece with
    | fixed text => exact apart
    | operand value => exact apart.elim

theorem KeepApart.append {first second : List Piece} (apart : KeepApart first)
    (apart' : KeepApart second) (next : BeginApart second) : KeepApart (first ++ second) := by
  induction first with
  | nil => exact apart'
  | cons piece rest inductionHypothesis =>
    cases piece with
    | fixed text =>
      exact ⟨apart.1, apart.2.1.imp_right fun begins => begins.append next,
        inductionHypothesis apart.2.2⟩
    | operand value =>
      exact ⟨apart.1, apart.2.1.append next, inductionHypothesis apart.2.2⟩

/-- The text of some pieces, with their operands written in some way. -/
def written (operandText : Operand → String) (pieces : List Piece) : List Char :=
  pieces.flatMap fun piece => (piece.write operandText).toList

/-- The lexemes of some pieces, with those of their operands. -/
def row (operandRow : Operand → List Lexeme) (pieces : List Piece) : List Lexeme :=
  pieces.flatMap fun
    | .fixed text => lexemes text.toList
    | .operand value => operandRow value

theorem BeginApart.endsOperand {pieces : List Piece} (apart : BeginApart pieces)
    (operandText : Operand → String) : EndsOperand (written operandText pieces) := by
  cases pieces with
  | nil => exact fun _ member => nomatch member
  | cons piece rest =>
    cases piece with
    | fixed text => exact .of_beginsApart apart _
    | operand value => exact apart.elim

/-- If each operand is read for itself, so is each piece. -/
theorem lexemes_written {operandText : Operand → String} {operandRow : Operand → List Lexeme}
    (reads : ∀ operand : Operand, operand.IsWritable → ∀ rest, EndsOperand rest →
      lexemes ((operandText operand).toList ++ rest) = operandRow operand ++ lexemes rest)
    {pieces : List Piece} (apart : KeepApart pieces) :
    lexemes (written operandText pieces) = row operandRow pieces := by
  induction pieces with
  | nil =>
    show lexemes [] = []
    rw [lexemes]
  | cons piece rest inductionHypothesis =>
    cases piece with
    | fixed text =>
      obtain ⟨plain, ends, others⟩ := apart
      have split : Sql.Apart text.toList (written operandText rest) := by
        intro c last d first isWord
        rcases ends with ends | begins
        · rw [Option.mem_def.mp last] at ends
          cases ends.symm.trans isWord
        · rcases begins.endsOperand operandText d first with rfl | rfl <;> rfl
      refine (lexemes_append plain split).trans ?_
      rw [inductionHypothesis others]
      rfl
    | operand value =>
      obtain ⟨writable, ends, others⟩ := apart
      refine (reads value writable _ (ends.endsOperand operandText)).trans ?_
      rw [inductionHypothesis others]
      rfl

/-- The operands of some pieces, as they stand in place. -/
def operandLexemes (pieces : List Piece) : List Lexeme :=
  (pieces.filterMap operand?).map Operand.lexeme

theorem operandLexemes_append (first second : List Piece) :
    operandLexemes (first ++ second) = operandLexemes first ++ operandLexemes second := by
  rw [operandLexemes, List.filterMap_append, List.map_append]
  rfl

/-- The clause of a pattern is dropped with its placeholder, and behind other placeholders there is
none. -/
theorem withoutClause_runLexemes (operand : Operand) {rest : List Piece} (apart : BeginApart rest)
    (keep : KeepApart rest) :
    ∃ clause, operand.runLexemes = .placeholder :: clause ∧
      Sql.withoutClause (clause ++ row Operand.runLexemes rest) = row Operand.runLexemes rest := by
  have alone : Sql.withoutClause (row Operand.runLexemes rest) = row Operand.runLexemes rest := by
    cases rest with
    | nil => rfl
    | cons piece rest =>
      cases piece with
      | fixed text => exact Sql.withoutClause_of_beginsApart apart keep.1 _
      | operand value => exact apart.elim
  cases operand with
  | part value => exact ⟨escapeClause, rfl, Sql.withoutClause_append _⟩
  | text | number | count => exact ⟨[], rfl, alone⟩

/-- With the operands in place of the placeholders, one row becomes the other. -/
theorem fill_row {pieces : List Piece} (apart : KeepApart pieces) :
    fill (row Operand.runLexemes pieces) (operandLexemes pieces) =
      some (row (fun operand => [operand.lexeme]) pieces) := by
  induction pieces with
  | nil =>
    show fill [] [] = some []
    rw [fill]
  | cons piece rest inductionHypothesis =>
    cases piece with
    | fixed text =>
      obtain ⟨plain, _, others⟩ := apart
      exact Sql.fill_append (Sql.isFixed_of_mem_lexemes plain) (inductionHypothesis others)
    | operand value =>
      obtain ⟨_, ends, others⟩ := apart
      obtain ⟨clause, placeholder, dropped⟩ := withoutClause_runLexemes value ends others
      show fill (value.runLexemes ++ row Operand.runLexemes rest)
        (value.lexeme :: operandLexemes rest) = _
      rw [placeholder, List.cons_append, fill, dropped, inductionHypothesis others]
      rfl

end Piece

/-- A statement whose pieces keep apart shows the text that is run, with its operands in place. -/
theorem Statement.fill_lexemes_text {s : Statement} (apart : Piece.KeepApart s.pieces) :
    fill (lexemes s.text.toList) (Piece.operandLexemes s.pieces) =
      some (lexemes s.literalText.toList) := by
  have text (operandText : Operand → String) :
      (s.write operandText).toList = Piece.written operandText s.pieces := by
    rw [write, String.toList_join, List.flatMap_map]
    rfl
  rw [Statement.text, text, literalText, text,
    Piece.lexemes_written (fun operand _ _ => operand.lexemes_placeholder) apart,
    Piece.lexemes_written (fun _ writable _ => Operand.lexemes_literal writable) apart]
  exact Piece.fill_row apart

/-! ### The operands of a query -/

/-- The operand of a predicate: its value as a number if it is compared with and is one, else as a
text, with a mark for any run of characters around the part that is looked for. -/
def Predicate.operandLexeme (p : Predicate) : Option Lexeme :=
  match p.operator with
  | .contains | .notContains => some (.literal ('%' :: p.valueText.toList ++ ['%']))
  | .isEmpty | .isNotEmpty => none
  | .compare _ | .like =>
    if (Numeric.ofValue? p.valueText).isSome then some (.number p.valueText.toList)
    else some (.literal p.valueText.toList)

/-- The operand for a number of rows. -/
def Query.countLexeme (count : Int) : Lexeme := .number (toString count).toList

/-- The operands of a query from left to right: those of its predicates in the order of a walk, then
the numbers of rows. -/
def Query.operandLexemes (q : Query) : List Lexeme :=
  q.walk.filterMap Predicate.operandLexeme ++
    (q.rowLimit.toList.map countLexeme ++ q.rowOffset.toList.map countLexeme)

namespace Condition

/-- Whether conditions, each as part of a group, keep apart from what is around them and hold the
operands of some predicates. -/
structure Shows (conditions : List Condition) (predicates : List Predicate) : Prop where
  apart : ∀ condition ∈ conditions, Piece.KeepApart condition.nested
  operands : Piece.operandLexemes (conditions.flatMap Condition.nested) =
    predicates.filterMap Predicate.operandLexeme

theorem shows_nil : Shows [] [] := ⟨fun _ member => (nomatch member), rfl⟩

theorem Shows.append {first second : List Condition} {predicates predicates' : List Predicate}
    (shows : Shows first predicates) (shows' : Shows second predicates') :
    Shows (first ++ second) (predicates ++ predicates') := by
  constructor
  · intro condition member
    rcases List.mem_append.mp member with member | member
    · exact shows.apart condition member
    · exact shows'.apart condition member
  · rw [List.flatMap_append, Piece.operandLexemes_append, shows.operands, shows'.operands,
      List.filterMap_append]

theorem isPlain_between (combinator : Combinator) :
    IsPlain (" " ++ combinator.word ++ " ").toList ∧
      (" " ++ combinator.word ++ " ").toList.getLast?.any Sql.isWordCharacter = false ∧
      beginsApart (" " ++ combinator.word ++ " ").toList = true := by
  cases combinator <;> decide

/-- Parts with the word of a group before each keep apart from what is before them. -/
theorem keepApart_further (combinator : Combinator) {conditions : List Condition}
    (apart : ∀ condition ∈ conditions, Piece.KeepApart condition.nested) :
    let pieces := conditions.flatMap fun next =>
      Piece.fixed (" " ++ combinator.word ++ " ") :: next.nested
    Piece.BeginApart pieces ∧ Piece.KeepApart pieces ∧
      Piece.operandLexemes pieces =
        Piece.operandLexemes (conditions.flatMap Condition.nested) := by
  obtain ⟨plain, ends, begins⟩ := isPlain_between combinator
  induction conditions with
  | nil => exact ⟨trivial, trivial, rfl⟩
  | cons next others inductionHypothesis =>
    obtain ⟨begins', apart', operands⟩ := inductionHypothesis fun condition member =>
      apart condition (List.mem_cons_of_mem next member)
    have first := (apart next List.mem_cons_self).append apart' begins'
    refine ⟨begins, ⟨plain, .inl ends, first⟩, ?_⟩
    rw [List.flatMap_cons, List.flatMap_cons, Piece.operandLexemes_append,
      Piece.operandLexemes_append, ← operands]
    rfl

/-- The parts of a group keep apart from the words between them. -/
theorem Shows.joined {part : Condition} {rest : List Condition} {predicates : List Predicate}
    (shows : Shows (part :: rest) predicates) (combinator : Combinator) :
    Piece.KeepApart (Condition.joined combinator (part :: rest)) ∧
      Piece.operandLexemes (Condition.joined combinator (part :: rest)) =
        predicates.filterMap Predicate.operandLexeme := by
  obtain ⟨begins, apart, operands⟩ := keepApart_further combinator fun condition member =>
    shows.apart condition (List.mem_cons_of_mem part member)
  rw [joined_cons, ← shows.operands, List.flatMap_cons, Piece.operandLexemes_append,
    Piece.operandLexemes_append]
  exact ⟨(shows.apart part List.mem_cons_self).append apart begins, congrArg (_ ++ ·) operands⟩

/-- A group inside a group shows what its parts show. -/
theorem Shows.ofParts {parts : List Condition} {predicates : List Predicate}
    (shows : Shows parts predicates) (combinator : Combinator) :
    Shows (Condition.ofParts combinator parts).toList predicates := by
  cases parts with
  | nil => exact shows
  | cons part rest =>
    obtain ⟨apart, operands⟩ := shows.joined combinator
    have closed : Piece.KeepApart [.fixed ")"] := ⟨by decide, .inr trivial, trivial⟩
    constructor
    · intro condition member
      rw [List.mem_singleton.mp member, nested]
      exact ⟨by decide, .inl rfl, apart.append closed rfl⟩
    · rw [← operands]
      show Piece.operandLexemes (.fixed "(" ::
        Condition.joined combinator (part :: rest) ++ [.fixed ")"] ++ []) = _
      rw [List.append_nil, Piece.operandLexemes_append]
      exact List.append_nil _

end Condition

/-- A value that is a number is written as one. -/
theorem Numeric.number?_of_ofValue? {value : String} {number : Numeric}
    (found : Numeric.ofValue? value = some number) :
    Sql.number? value.toList = some (value.toList, []) := by
  obtain ⟨mapped, _⟩ := Option.filter_eq_some_iff.mp found
  obtain ⟨decimal, read, _⟩ := Option.map_eq_some_iff.mp mapped
  exact Sql.number?_of_ofText? read

theorem Column.isPlain_name (column : Column) : IsPlain column.name.toList := by
  cases column <;> decide

/-- A column with the words of a test behind it keeps apart from the operand. -/
theorem Test.keepApart_operand (column : Column) {words : String} {operand : Operand}
    (plain : IsPlain words.toList) (blank : words.toList.getLast? = some ' ')
    (writable : operand.IsWritable) :
    Piece.KeepApart [.fixed (column.name ++ words), .operand operand] := by
  refine ⟨?_, .inl ?_, writable, trivial, trivial⟩
  · rw [String.toList_append]
    exact column.isPlain_name.append plain
  · rw [String.toList_append, List.getLast?_append, blank]
    rfl

theorem Test.keepApart_words (column : Column) {words : String} (plain : IsPlain words.toList) :
    Piece.KeepApart [.fixed (column.name ++ words)] := by
  refine ⟨?_, .inr trivial, trivial⟩
  rw [String.toList_append]
  exact column.isPlain_name.append plain

theorem Test.keepApart_compare (column : Column) (comparison : Comparison) {operand : Operand}
    (writable : operand.IsWritable) :
    Piece.KeepApart ((Test.compare comparison operand).pieces column) := by
  have sign : IsPlain (" " ++ (comparison.sign ++ " ")).toList ∧
      (" " ++ (comparison.sign ++ " ")).toList.getLast? = some ' ' := by
    cases comparison <;> decide
  rw [pieces, String.append_assoc, String.append_assoc]
  exact Test.keepApart_operand column sign.1 sign.2 writable

/-- A predicate that can be compiled shows its operand, if it has one. -/
theorem Predicate.shows_of_compile {p : Predicate} {condition : Condition}
    (compiled : p.compile = .ok condition) : Condition.Shows [condition] [p] := by
  obtain ⟨column, _, rest⟩ := bind_eq_ok.mp compiled
  have one {asked : Test} {operands : List Lexeme}
      (apart : Piece.KeepApart (asked.pieces column))
      (shown : Piece.operandLexemes (asked.pieces column) = operands)
      (wanted : p.operandLexeme.toList = operands) :
      Condition.Shows [.test column asked] [p] := by
    constructor
    · intro condition member
      rw [List.mem_singleton.mp member]
      exact apart
    · rw [List.flatMap_singleton, List.filterMap_cons]
      refine shown.trans (wanted.symm.trans ?_)
      cases p.operandLexeme <;> rfl
  rw [operandLexeme] at one
  cases operator : p.operator <;> simp only [operator] at rest one
  case compare comparison =>
    split at rest <;> rename_i found <;> cases rest <;> rw [found] at one
    · exact one (Test.keepApart_compare column comparison trivial) rfl rfl
    · exact one (Test.keepApart_compare column comparison (Numeric.number?_of_ofValue? found)) rfl
        rfl
  case like =>
    split at rest <;> rename_i found <;> cases rest
    rw [found] at one
    exact one (Test.keepApart_operand column (by decide) rfl trivial) rfl rfl
  all_goals cases rest
  case contains => exact one (Test.keepApart_operand column (by decide) rfl trivial) rfl rfl
  case notContains => exact one (Test.keepApart_operand column (by decide) rfl trivial) rfl rfl
  case isEmpty => exact one (Test.keepApart_words column (by decide)) rfl rfl
  case isNotEmpty => exact one (Test.keepApart_words column (by decide)) rfl rfl

theorem Condition.isPartwise_shows : Condition.IsPartwise Condition.Shows :=
  ⟨Condition.shows_nil, fun shows => shows.append, Predicate.shows_of_compile,
    fun combinator shows => shows.ofParts combinator⟩

/-- A group shows the operands of its walk. -/
theorem Group.shows_of_compile (group : Group) (found : Option Condition)
    (compiled : group.compile = .ok found) :
    ∃ parts, found = Condition.ofParts group.combinator parts ∧
      Condition.Shows parts group.walk :=
  Condition.isPartwise_shows.of_group group found compiled

/-! ### The texts of a query -/

/-- A number of rows behind its word keeps apart from what is before it. -/
theorem Statement.keepApart_countPieces (word : String) {count : Option Int}
    (plain : IsPlain (" " ++ word ++ " ").toList)
    (blank : (" " ++ word ++ " ").toList.getLast? = some ' ')
    (begins : beginsApart (" " ++ word ++ " ").toList = true) (positive : ∀ n ∈ count, 0 ≤ n) :
    Piece.BeginApart (Statement.countPieces word count) ∧
      Piece.KeepApart (Statement.countPieces word count) ∧
      Piece.operandLexemes (Statement.countPieces word count) =
        count.toList.map Query.countLexeme := by
  cases count with
  | none => exact ⟨trivial, trivial, rfl⟩
  | some count =>
    refine ⟨begins, ⟨plain, .inl ?_, positive count rfl, trivial, trivial⟩, rfl⟩
    rw [blank]
    rfl

/-- The conditions of a query keep apart from what is before them, and show the operands of its
walk. -/
theorem Statement.keepApart_filterPieces {q : Query} {filter : Option Condition}
    (conditioned : q.condition = .ok filter) :
    Piece.BeginApart (Statement.filterPieces filter) ∧
      Piece.KeepApart (Statement.filterPieces filter) ∧
      Piece.operandLexemes (Statement.filterPieces filter) =
        q.walk.filterMap Predicate.operandLexeme := by
  unfold Query.condition at conditioned
  unfold Query.walk
  cases filtered : q.filter with
  | none =>
    rw [filtered] at conditioned
    cases conditioned
    exact ⟨trivial, trivial, rfl⟩
  | some group =>
    rw [filtered] at conditioned
    obtain ⟨parts, rfl, shows⟩ := Group.shows_of_compile group filter conditioned
    cases parts with
    | nil => exact ⟨trivial, trivial, shows.operands⟩
    | cons part rest =>
      obtain ⟨apart, operands⟩ := shows.joined group.combinator
      exact ⟨rfl, ⟨by decide, .inl rfl, apart⟩, operands⟩

theorem Query.rowLimit_nonneg (q : Query) : ∀ n ∈ q.rowLimit, 0 ≤ n := by
  intro n member
  unfold rowLimit at member
  split at member
  · cases member
    omega
  · cases member

theorem Query.rowOffset_nonneg (q : Query) : ∀ n ∈ q.rowOffset, 0 ≤ n := by
  intro n member
  unfold rowOffset at member
  split at member
  · rename_i paged
    cases member
    have before : 0 ≤ (q.page - 1) * q.limit := Int.mul_nonneg (by omega) (by omega)
    exact Int.le_min.mpr ⟨before, by decide⟩
  · cases member

theorem Statement.isPlain_order (column : Column) (order : SortOrder) :
    IsPlain (" ORDER BY " ++ column.name ++ " " ++ order.word).toList ∧
      beginsApart (" ORDER BY " ++ column.name ++ " " ++ order.word).toList = true := by
  have word : IsPlain order.word.toList := by cases order <;> decide
  simp only [String.toList_append, List.append_assoc]
  have named := column.isPlain_name.append (IsPlain.append (by decide : IsPlain " ".toList) word)
  exact ⟨IsPlain.append (by decide) named, rfl⟩

theorem Statement.isPlain_names (columns : List Column) :
    IsPlain (", ".intercalate (columns.map Column.name)).toList := by
  induction columns with
  | nil => decide
  | cons column rest inductionHypothesis =>
    cases rest with
    | nil =>
      rw [List.map_singleton, String.intercalate_singleton]
      exact column.isPlain_name
    | cons next others =>
      rw [List.map_cons, List.map_cons, String.intercalate_cons_cons, String.toList_append,
        String.toList_append, ← List.map_cons]
      exact (column.isPlain_name.append (by decide)).append inductionHypothesis

theorem Statement.isPlain_head : IsPlain Statement.head.toList := by
  have select : IsPlain "SELECT ".toList := by decide
  rw [head, String.toList_append, String.toList_append, String.toList_append]
  exact ((select.append (isPlain_names Column.all)).append (by decide)).append (by decide)

/-- The pieces of a compiled query keep apart, and hold its operands. -/
theorem Query.shows_of_compile {q : Query} {statement : Statement}
    (compiled : q.compile = .ok statement) :
    Piece.KeepApart statement.pieces ∧
      Piece.operandLexemes statement.pieces = q.operandLexemes := by
  obtain ⟨column, order, filter, _, conditioned, rfl⟩ := Query.compile_eq_ok compiled
  obtain ⟨filterBegins, filterApart, filterOperands⟩ :=
    Statement.keepApart_filterPieces conditioned
  obtain ⟨limitBegins, limitApart, limitOperands⟩ :=
    Statement.keepApart_countPieces "LIMIT" (by decide) rfl rfl q.rowLimit_nonneg
  obtain ⟨offsetBegins, offsetApart, offsetOperands⟩ :=
    Statement.keepApart_countPieces "OFFSET" (by decide) rfl rfl q.rowOffset_nonneg
  have ordered := Statement.isPlain_order column order
  have counts := limitApart.append offsetApart offsetBegins
  have tail : Piece.KeepApart (.fixed (" ORDER BY " ++ column.name ++ " " ++ order.word) ::
      (Statement.countPieces "LIMIT" q.rowLimit ++ Statement.countPieces "OFFSET" q.rowOffset)) :=
    ⟨ordered.1, .inr (limitBegins.append offsetBegins), counts⟩
  rw [Statement.pieces]
  simp only [List.cons_append, List.append_assoc]
  refine ⟨⟨Statement.isPlain_head, .inr (filterBegins.append ordered.2),
    filterApart.append tail ordered.2⟩, ?_⟩
  show Piece.operandLexemes (Statement.filterPieces filter ++ _) = _
  rw [Piece.operandLexemes_append, filterOperands]
  show _ ++ Piece.operandLexemes (_ ++ _) = _
  rw [Piece.operandLexemes_append, limitOperands, offsetOperands]
  rfl

end ApplicationLedger
