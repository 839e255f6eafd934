/-
This file says how the database reads the parts of a group. Each part is written so that its tokens
end where it ends, and its tokens are read as one factor; parts with both properties are closed
under joining and under parentheses. A predicate is such a part: it is read as the one test that it
asks for, whatever its value.
-/

import ApplicationLedger.Proofs.Query.Text
import ApplicationLedger.Proofs.Sql.Select

namespace ApplicationLedger

open Sql

/-! ### Texts that are read as parts of a condition -/

/-- A text whose tokens end where it ends, and are read as one factor. -/
def WritesFactor (text : List Char) (e : Expression) : Prop :=
  ∃ row, (∀ rest, Separated rest → tokens (text ++ rest) = row ++ tokens rest) ∧ IsFactor row e

/-- A text whose tokens end where it ends, and are read as one condition. -/
def WritesCondition (text : List Char) (e : Expression) : Prop :=
  ∃ row, (∀ rest, Separated rest → tokens (text ++ rest) = row ++ tokens rest) ∧
    IsCondition row e

theorem isWord_combinator (combinator : Combinator) : isWord combinator.word.toList = true := by
  cases combinator <;> rfl

theorem isWord_column (column : Column) : isWord column.name.toList = true := by
  cases column <;> rfl

theorem furtherText_cons (combinator : Combinator) (text : List Char)
    (texts : List (List Char)) :
    Condition.furtherText combinator (text :: texts) =
      ' ' :: combinator.word.toList ++ ' ' :: text ++ Condition.furtherText combinator texts :=
  List.flatMap_cons

theorem separated_furtherText (combinator : Combinator) (texts : List (List Char))
    (rest : List Char) (separated : Separated rest) :
    Separated (Condition.furtherText combinator texts ++ rest) := by
  cases texts with
  | nil => exact separated
  | cons text others =>
    rw [furtherText_cons]
    exact separated_cons ' ' _ (.inl rfl)

/-- The tokens of further parts are the rows of the parts, each behind the word of the combinator.
-/
theorem tokens_furtherText (combinator : Combinator) {texts : List (List Char)}
    {es : List Expression} (factors : List.Forall₂ WritesFactor texts es) :
    ∃ rows, List.Forall₂ IsFactor rows es ∧ ∀ rest, Separated rest →
      tokens (Condition.furtherText combinator texts ++ rest) =
        furtherTokens combinator rows ++ tokens rest := by
  induction factors with
  | nil => exact ⟨[], .nil, fun _ _ => rfl⟩
  | @cons text e texts es factor others inductionHypothesis =>
    obtain ⟨row, ends, reads⟩ := factor
    obtain ⟨rows, allRead, allEnd⟩ := inductionHypothesis
    refine ⟨row :: rows, .cons reads allRead, fun rest separated => ?_⟩
    have behind := separated_furtherText combinator texts rest separated
    rw [furtherText_cons, List.append_assoc, List.append_assoc, List.cons_append, tokens_blank,
      List.cons_append,
      tokens_word_append _ _ (isWord_combinator combinator) (separated_cons ' ' _ (.inl rfl)),
      String.ofList_toList, tokens_blank, ends _ behind, allEnd rest separated]
    simp only [furtherTokens, List.flatMap_cons, List.cons_append, List.append_assoc]

/-- Factors joined by one combinator are written as one condition. -/
theorem writesCondition_joined (combinator : Combinator) {text : List Char} {e : Expression}
    {texts : List (List Char)} {es : List Expression} (factor : WritesFactor text e)
    (factors : List.Forall₂ WritesFactor texts es) :
    WritesCondition (text ++ Condition.furtherText combinator texts)
      (es.foldl (.join combinator) e) := by
  obtain ⟨row, ends, reads⟩ := factor
  obtain ⟨rows, allRead, allEnd⟩ := tokens_furtherText combinator factors
  refine ⟨row ++ furtherTokens combinator rows, fun rest separated => ?_,
    isCondition_joined combinator reads allRead⟩
  rw [List.append_assoc, ends _ (separated_furtherText combinator texts rest separated),
    allEnd rest separated, List.append_assoc]

/-- A condition in parentheses is written as one factor. -/
theorem writesFactor_parenthesized {text : List Char} {e : Expression}
    (condition : WritesCondition text e) : WritesFactor ('(' :: text ++ [')']) e := by
  obtain ⟨row, ends, reads⟩ := condition
  refine ⟨.sign "(" :: row ++ [.sign ")"], fun rest separated => ?_, isFactor_parenthesized reads⟩
  rw [List.append_assoc, List.cons_append, tokens_open, List.singleton_append,
    ends _ (separated_cons ')' _ (.inr (.inr rfl))), tokens_close, List.append_assoc,
    List.cons_append, List.singleton_append]

/-! ### Texts of predicates -/

/-- The test that an operator asks for. -/
def Operator.atom (column : String) : Operator → Atom
  | compare comparison => .compare column comparison.sign
  | like => .like column false none
  | contains => .like column false (some "\\")
  | notContains => .like column true (some "\\")
  | isEmpty => .isNull column false
  | isNotEmpty => .isNull column true

/-- The test that a predicate asks for. -/
def Predicate.atom (p : Predicate) : Atom := p.operator.atom p.field

/-- A test is written as one factor, if what stands behind its column is. -/
theorem writesFactor_test (column : Column) (first : Token) (row : List Token) {tail : List Char}
    {atom : Atom} (ends : ∀ rest, Separated rest →
      tokens (' ' :: tail ++ rest) = (first :: row) ++ tokens rest)
    (reads : ∀ rest, rest.head? ≠ some (.word "ESCAPE") →
      asked? column.name ((first :: row) ++ rest) = some (atom, rest)) :
    WritesFactor (column.name.toList ++ ' ' :: tail) (.atom atom) := by
  refine ⟨.word column.name :: first :: row, fun rest separated => ?_,
    fun fuel rest enough notEscape => ?_⟩
  · rw [List.append_assoc, tokens_word_append _ (' ' :: tail ++ rest) (isWord_column column)
      (separated_cons ' ' _ (.inl rfl)), String.ofList_toList, ends rest separated]
    rfl
  · obtain ⟨fuel, rfl⟩ : ∃ less, fuel = less + 1 :=
      ⟨fuel - 1, by simp only [List.length_cons] at enough; omega⟩
    show (asked? column.name ((first :: row) ++ rest)).map _ = _
    rw [reads rest notEscape]
    rfl

theorem escape?_of_head (rest : List Token) (other : rest.head? ≠ some (.word "ESCAPE")) :
    escape? rest = (none, rest) := by
  unfold escape?
  split
  · exact absurd rfl other
  · rfl

/-- The placeholder of a part carries its escape character. -/
theorem tokens_escaped_placeholder (rest : List Char) (separated : Separated rest) :
    tokens ("? ESCAPE '\\'".toList ++ rest) =
      .sign "?" :: .word "ESCAPE" :: .literal "\\" :: tokens rest := by
  have ends : ∀ c ∈ rest.head?, (Begun.quote ['\\']).extend? c = none := by
    intro c member
    rcases separated c member with rfl | rfl | rfl <;> rfl
  have literal : tokensFrom (.quote ['\\']) rest = .literal "\\" :: tokens rest :=
    tokensFrom_of_ends _ _ ends
  rw [← literal]
  rfl

theorem tokens_comparison (comparison : Comparison) (rest : List Char) :
    tokens (comparison.sign.toList ++ ' ' :: rest) = .sign comparison.sign :: tokens rest := by
  cases comparison <;> rfl

theorem tokens_null (rest : List Char) (separated : Separated rest) :
    tokens ("NULL".toList ++ rest) = .word "NULL" :: tokens rest :=
  tokens_word_append _ rest rfl separated

/-- Behind a column, each operator is written as the test that it asks for. -/
theorem Operator.writesFactor (column : Column) (operator : Operator) :
    WritesFactor (column.name.toList ++ ' ' :: operator.runText)
      (.atom (operator.atom column.name)) := by
  cases operator with
  | compare comparison =>
    refine writesFactor_test column (.sign comparison.sign) [.sign "?"]
      (fun rest separated => ?_) (fun rest _ => ?_)
    · show tokens (' ' :: (comparison.sign.toList ++ [' ', '?']) ++ rest) = _
      rw [List.cons_append, List.append_assoc, tokens_blank]
      exact (tokens_comparison comparison ('?' :: rest)).trans
        (congrArg _ (tokens_placeholder rest))
    · cases comparison <;> rfl
  | contains =>
    refine writesFactor_test column (.word "LIKE") [.sign "?", .word "ESCAPE", .literal "\\"]
      (fun rest separated => ?_) (fun rest _ => rfl)
    exact congrArg (.word "LIKE" :: ·) (tokens_escaped_placeholder rest separated)
  | notContains =>
    refine writesFactor_test column (.word "NOT")
      [.word "LIKE", .sign "?", .word "ESCAPE", .literal "\\"]
      (fun rest separated => ?_) (fun rest _ => rfl)
    exact congrArg (.word "NOT" :: .word "LIKE" :: ·) (tokens_escaped_placeholder rest separated)
  | isEmpty =>
    refine writesFactor_test column (.word "IS") [.word "NULL"]
      (fun rest separated => ?_) (fun rest _ => rfl)
    exact congrArg (.word "IS" :: ·) (tokens_null rest separated)
  | isNotEmpty =>
    refine writesFactor_test column (.word "IS") [.word "NOT", .word "NULL"]
      (fun rest separated => ?_) (fun rest _ => rfl)
    exact congrArg (.word "IS" :: .word "NOT" :: ·) (tokens_null rest separated)
  | like =>
    refine writesFactor_test column (.word "LIKE") [.sign "?"]
      (fun rest separated => ?_) (fun rest notEscape => ?_)
    · exact congrArg (.word "LIKE" :: ·) (tokens_placeholder rest)
    · show some (Atom.like column.name false (escape? rest).1, (escape? rest).2) = _
      rw [escape?_of_head rest notEscape]
      rfl

/-- Each valid predicate is written as one factor, which is the test that it asks for. -/
theorem Predicate.writesFactor {p : Predicate} {condition : Condition}
    (compiled : p.compile = .ok condition) : WritesFactor condition.partText (.atom p.atom) := by
  obtain ⟨column, asked, same, named, _⟩ := Predicate.compile_eq_ok compiled
  rw [Predicate.partText_eq compiled, Predicate.atom, ← named]
  exact Operator.writesFactor column p.operator

/-! ### Texts of statements -/

/-- The tokens of some names with commas between them. -/
def namesRow (first : Column) (others : List Column) : List Token :=
  .word first.name :: others.flatMap fun column => [.sign ",", .word column.name]

theorem tokens_names (first : Column) (others : List Column) (rest : List Char) :
    tokens ((", ".intercalate ((first :: others).map Column.name)).toList ++ ' ' :: rest) =
      namesRow first others ++ tokens rest := by
  induction others generalizing first with
  | nil =>
    rw [List.map_singleton, String.intercalate_singleton,
      tokens_word_blank first.name rest (isWord_column first)]
    rfl
  | cons next others inductionHypothesis =>
    have comma : ", ".toList = [',', ' '] := rfl
    rw [List.map_cons, List.map_cons, String.intercalate_cons_cons, String.toList_append,
      String.toList_append, comma, ← List.map_cons]
    simp only [List.append_assoc, List.cons_append, List.nil_append]
    rw [tokens_word_append _ _ (isWord_column first) (separated_cons ',' _ (.inr (.inl rfl))),
      String.ofList_toList, tokens_comma, tokens_blank, inductionHypothesis]
    rfl

theorem names?_namesRow (first : Column) (others : List Column) (word : String)
    (rest : List Token) :
    names? (namesRow first others ++ .word word :: rest) =
      some ((first :: others).map Column.name, .word word :: rest) := by
  induction others generalizing first with
  | nil => rfl
  | cons next others inductionHypothesis =>
    show (names? (namesRow next others ++ .word word :: rest)).map _ = _
    rw [inductionHypothesis]
    rfl

/-- The tokens in front of the condition of a statement. -/
def headRow : List Token :=
  .word "SELECT" :: namesRow .id Column.all.tail ++ [.word "FROM", .word Column.table]

theorem tokens_head (rest : List Char) :
    tokens (Statement.head.toList ++ ' ' :: rest) = headRow ++ tokens (' ' :: rest) := by
  have apart (a b c d : String) :
      (a ++ b ++ c ++ d).toList = a.toList ++ (b.toList ++ (c.toList ++ d.toList)) := by
    rw [String.toList_append, String.toList_append, String.toList_append, List.append_assoc,
      List.append_assoc]
  have select : "SELECT ".toList = "SELECT".toList ++ [' '] := by decide
  have fromTable : " FROM ".toList = ' ' :: ("FROM".toList ++ [' ']) := by decide
  have listed : Column.all = .id :: Column.all.tail := rfl
  rw [Statement.head, apart, select, fromTable, listed]
  simp only [List.append_assoc, List.cons_append, List.nil_append]
  rw [tokens_word_blank "SELECT" _ rfl, tokens_names, tokens_word_blank "FROM" _ rfl,
    tokens_word_blank Column.table _ rfl, headRow, tokens_blank]
  simp only [List.append_assoc, List.cons_append, List.nil_append]

theorem isWord_order (order : SortOrder) : isWord order.word.toList = true := by
  cases order <;> rfl

/-- The tokens of the order of a statement. -/
def orderRow (column : Column) (order : SortOrder) : List Token :=
  [.word "ORDER", .word "BY", .word column.name, .word order.word]

theorem tokens_orderText (column : Column) (order : SortOrder) (rest : List Char)
    (separated : Separated rest) :
    tokens (Statement.orderText column order ++ rest) = orderRow column order ++ tokens rest := by
  have last : tokens (order.word.toList ++ rest) = .word order.word :: tokens rest := by
    rw [tokens_word_append _ _ (isWord_order order) separated, String.ofList_toList]
  rw [Statement.orderText]
  simp only [List.append_assoc, List.cons_append]
  rw [tokens_blank, tokens_word_blank "ORDER" _ rfl, tokens_word_blank "BY" _ rfl,
    tokens_word_blank column.name _ (isWord_column column), last]
  rfl

/-- The tokens of a number of rows behind its word, if there is one. -/
def countRow (word : String) (count : Option Int) : List Token :=
  match count with
  | none => []
  | some _ => [.word word, .sign "?"]

theorem tokens_countText (word : String) (count : Option Int) (rest : List Char)
    (isWord : isWord word.toList = true) :
    tokens (Statement.countText word count ++ rest) = countRow word count ++ tokens rest := by
  cases count with
  | none => rfl
  | some count =>
    rw [Statement.countText, List.append_assoc, List.cons_append, tokens_blank]
    refine (tokens_word_blank word ('?' :: rest) isWord).trans ?_
    rw [tokens_placeholder]
    rfl

theorem separated_countText (word : String) (count : Option Int) (rest : List Char)
    (separated : Separated rest) : Separated (Statement.countText word count ++ rest) := by
  cases count with
  | none => exact separated
  | some count => exact separated_cons ' ' _ (.inl rfl)

/-- The tokens behind the condition of a statement. -/
def tailRow (s : Statement) : List Token :=
  orderRow s.sortColumn s.sortOrder ++ (countRow "LIMIT" s.limit ++ countRow "OFFSET" s.offset)

/-- The text behind the condition of a statement. -/
def Statement.tailText (s : Statement) : List Char :=
  Statement.orderText s.sortColumn s.sortOrder ++
    (Statement.countText "LIMIT" s.limit ++ Statement.countText "OFFSET" s.offset)

theorem tokens_tailText (s : Statement) : tokens s.tailText = tailRow s := by
  have offset : tokens (Statement.countText "OFFSET" s.offset) = countRow "OFFSET" s.offset := by
    have last := tokens_countText "OFFSET" s.offset [] rfl
    rw [List.append_nil] at last
    exact last.trans (List.append_nil _)
  have separated : Separated (Statement.countText "OFFSET" s.offset) := by
    have last := separated_countText "OFFSET" s.offset [] separated_nil
    rwa [List.append_nil] at last
  rw [Statement.tailText, tokens_orderText _ _ _ (separated_countText "LIMIT" _ _ separated),
    tokens_countText "LIMIT" _ _ rfl, offset, tailRow]

/-- The tokens of a statement are those of its head, its condition and what is behind that. -/
theorem select?_rows (s : Statement) (row : List Token) (filter : Option Expression)
    (reads : filter? (row ++ tailRow s) = some (filter, tailRow s)) :
    select? (headRow ++ (row ++ tailRow s)) =
      some ⟨Column.all.map Column.name, Column.table, filter, s.sortColumn.name, s.sortOrder.word,
        s.limit.isSome, s.offset.isSome⟩ := by
  have listed : Column.all = .id :: Column.all.tail := rfl
  rw [headRow, listed]
  simp only [List.append_assoc, List.cons_append, List.nil_append]
  rw [select?, names?_namesRow]
  simp only [Option.bind_eq_bind, Option.bind_some, reads]
  rw [tailRow]
  cases s.limit <;> cases s.offset <;> rfl

/-- A statement is read with its own columns, order and page, and with what its condition is read
as. -/
theorem Statement.select_text (s : Statement) (filter : Option Expression)
    (reads : Option.Rel (fun condition e => WritesCondition (Piece.runText condition.pieces) e)
      s.filter filter) :
    Select.ofText? s.text =
      some ⟨Column.all.map Column.name, Column.table, filter, s.sortColumn.name, s.sortOrder.word,
        s.limit.isSome, s.offset.isSome⟩ := by
  rw [Select.ofText?, Statement.toList_text_eq]
  show select? (tokens (Statement.head.toList ++
    (Statement.filterText s.filter ++ Statement.tailText s))) = _
  generalize s.filter = written at reads
  cases reads with
  | none =>
    refine (congrArg select? (tokens_head _)).trans ?_
    refine (congrArg (select? <| headRow ++ ·) (tokens_tailText s)).trans ?_
    exact select?_rows s [] none rfl
  | @some condition e writes =>
    obtain ⟨row, ends, reads⟩ := writes
    have separated : Separated (Statement.tailText s) := separated_cons ' ' _ (.inl rfl)
    have text : tokens (Statement.filterText (some condition) ++ Statement.tailText s) =
        .word "WHERE" :: row ++ tailRow s := by
      rw [Statement.filterText, List.cons_append, List.append_assoc, tokens_blank,
        List.cons_append, tokens_word_blank "WHERE" _ rfl, ends _ separated, tokens_tailText]
      rfl
    refine (congrArg select? (tokens_head _)).trans ?_
    refine (congrArg (select? <| headRow ++ ·) text).trans ?_
    refine select?_rows s (.word "WHERE" :: row) (some e) ?_
    have whole := reads (3 * (row ++ tailRow s).length + 2) (tailRow s)
      (by rw [List.length_append]; omega)
      (by simp only [EndsCondition, tailRow, orderRow, List.cons_append, List.head?_cons]; decide)
    rw [List.cons_append, filter?, whole]
    rfl

end ApplicationLedger
