/-
This file takes the text of a statement apart. The text that is run is the text of its pieces one
after the other; the parts of a group stand with the word of their combinator between them.
-/

import ApplicationLedger.Proofs.Query.Compile

namespace ApplicationLedger

theorem Text.toList_blank : " ".toList = [' '] := rfl

/-- The text that is run of some pieces. -/
def Piece.runText (pieces : List Piece) : List Char :=
  pieces.flatMap fun piece => (piece.write Operand.placeholder).toList

theorem Piece.runText_append (first second : List Piece) :
    runText (first ++ second) = runText first ++ runText second :=
  List.flatMap_append

theorem Piece.runText_fixed (text : String) (rest : List Piece) :
    runText (.fixed text :: rest) = text.toList ++ runText rest := rfl

theorem Piece.runText_operand (operand : Operand) (rest : List Piece) :
    runText (.operand operand :: rest) = operand.placeholder.toList ++ runText rest := rfl

theorem Statement.toList_text (s : Statement) : s.text.toList = Piece.runText s.pieces := by
  rw [text, write, String.toList_join, List.flatMap_map]
  rfl

namespace Condition

/-- Each part of a group but the first one stands behind the word of the combinator. -/
theorem joined_cons (combinator : Combinator) (part : Condition) (rest : List Condition) :
    joined combinator (part :: rest) =
      part.nested ++ rest.flatMap fun next =>
        .fixed (" " ++ combinator.word ++ " ") :: next.nested := by
  induction rest generalizing part with
  | nil => rw [joined, List.flatMap_nil, List.append_nil]
  | cons next others inductionHypothesis =>
    rw [joined, inductionHypothesis, List.flatMap_cons, List.cons_append]

/-- The text of a part of a group. -/
def partText (part : Condition) : List Char := Piece.runText part.nested

/-- The texts of further parts of a group, each behind the word of the combinator. -/
def furtherText (combinator : Combinator) (texts : List (List Char)) : List Char :=
  texts.flatMap fun text => ' ' :: combinator.word.toList ++ ' ' :: text

/-- The text of a group follows from the texts of its parts. -/
theorem runText_joined (combinator : Combinator) (part : Condition) (rest : List Condition) :
    Piece.runText (joined combinator (part :: rest)) =
      part.partText ++ furtherText combinator (rest.map partText) := by
  rw [joined_cons, Piece.runText_append, partText]
  refine congrArg (Piece.runText part.nested ++ ·) ?_
  induction rest with
  | nil => rfl
  | cons next others inductionHypothesis =>
    rw [List.flatMap_cons, List.cons_append, Piece.runText_fixed, Piece.runText_append,
      inductionHypothesis]
    simp only [String.toList_append, Text.toList_blank, List.append_assoc, furtherText,
      List.map_cons, List.flatMap_cons, partText, List.nil_append, List.cons_append]

/-- A group inside a group stands in parentheses. -/
theorem partText_group (combinator : Combinator) (parts : List Condition) :
    partText (.group combinator parts) =
      '(' :: Piece.runText (group combinator parts).pieces ++ [')'] := by
  rw [partText, nested, pieces, List.cons_append, Piece.runText_fixed, Piece.runText_append]
  rfl

end Condition

/-! ### The text of a predicate -/

/-- The text of a predicate behind its column. -/
def Operator.runText : Operator → List Char
  | compare comparison => comparison.sign.toList ++ [' ', '?']
  | contains => "LIKE ".toList ++ "? ESCAPE '\\'".toList
  | notContains => "NOT LIKE ".toList ++ "? ESCAPE '\\'".toList
  | isEmpty => "IS ".toList ++ "NULL".toList
  | isNotEmpty => "IS NOT ".toList ++ "NULL".toList
  | like => "LIKE ".toList ++ ['?']

theorem Test.runText_compare (column : Column) (comparison : Comparison) (operand : Operand)
    (plain : operand.placeholder = "?") :
    Piece.runText ((Test.compare comparison operand).pieces column) =
      column.name.toList ++ ' ' :: Operator.runText (.compare comparison) := by
  rw [Test.pieces, Piece.runText_fixed, Piece.runText_operand, plain, String.toList_append,
    String.toList_append, String.toList_append, Text.toList_blank]
  simp only [List.append_assoc]
  rfl

/-- The text of a predicate that can be compiled shows its field and its operator, and nothing of
its value. -/
theorem Predicate.partText_eq {p : Predicate} {condition : Condition}
    (compiled : p.compile = .ok condition) :
    condition.partText = p.field.toList ++ ' ' :: p.operator.runText := by
  obtain ⟨column, asked, rfl, named, kind⟩ := Predicate.compile_eq_ok compiled
  have fixed (text : String) (rest : List Piece) :
      Piece.runText (.fixed (column.name ++ text) :: rest) =
        column.name.toList ++ (text.toList ++ Piece.runText rest) := by
    rw [Piece.runText_fixed, String.toList_append, List.append_assoc]
  rw [← named, Condition.partText, Condition.nested]
  cases operator : p.operator <;> simp only [operator] at kind
  case compare comparison =>
    rcases kind with rfl | ⟨number, rfl⟩
    · exact Test.runText_compare column comparison _ rfl
    · exact Test.runText_compare column comparison _ rfl
  case contains =>
    have tail : " LIKE ".toList ++ ("? ESCAPE '\\'".toList ++ []) =
      ' ' :: Operator.runText .contains := by decide
    exact kind ▸ (fixed _ _).trans (congrArg _ tail)
  case notContains =>
    have tail : " NOT LIKE ".toList ++ ("? ESCAPE '\\'".toList ++ []) =
      ' ' :: Operator.runText .notContains := by decide
    exact kind ▸ (fixed _ _).trans (congrArg _ tail)
  case isEmpty =>
    have tail : " IS NULL".toList ++ [] = ' ' :: Operator.runText .isEmpty := by decide
    exact kind ▸ (fixed _ _).trans (congrArg _ tail)
  case isNotEmpty =>
    have tail : " IS NOT NULL".toList ++ [] = ' ' :: Operator.runText .isNotEmpty := by decide
    exact kind ▸ (fixed _ _).trans (congrArg _ tail)
  case like =>
    have tail : " LIKE ".toList ++ ("?".toList ++ []) = ' ' :: Operator.runText .like := by decide
    exact kind ▸ (fixed _ _).trans (congrArg _ tail)

/-! ### The text of a statement -/

/-- The text of the condition of a statement, behind its word. -/
def Statement.filterText (filter : Option Condition) : List Char :=
  match filter with
  | none => []
  | some condition => ' ' :: ("WHERE".toList ++ ' ' :: Piece.runText condition.pieces)

/-- The text of the order of a statement. -/
def Statement.orderText (column : Column) (order : SortOrder) : List Char :=
  ' ' :: ("ORDER".toList ++ ' ' :: ("BY".toList ++ ' ' ::
    (column.name.toList ++ ' ' :: order.word.toList)))

/-- The text of a number of rows behind its word, if there is one. -/
def Statement.countText (word : String) (count : Option Int) : List Char :=
  match count with
  | none => []
  | some _ => ' ' :: word.toList ++ [' ', '?']

/-- The text of a statement in its parts. Of a number of rows it shows only whether there is one. -/
theorem Statement.toList_text_eq (s : Statement) :
    s.text.toList = Statement.head.toList ++ (Statement.filterText s.filter ++
      (Statement.orderText s.sortColumn s.sortOrder ++
        (Statement.countText "LIMIT" s.limit ++ Statement.countText "OFFSET" s.offset))) := by
  have filtered : Piece.runText (Statement.filterPieces s.filter) =
      Statement.filterText s.filter := by
    cases s.filter with
    | none => rfl
    | some condition =>
      have word : " WHERE ".toList = ' ' :: ("WHERE".toList ++ [' ']) := by decide
      rw [filterPieces, Piece.runText_fixed, filterText, word]
      simp only [List.append_assoc, List.cons_append, List.nil_append]
  have counted (word : String) (count : Option Int) :
      Piece.runText (Statement.countPieces word count) = Statement.countText word count := by
    cases count with
    | none => rfl
    | some count =>
      rw [countPieces, countText, Piece.runText_fixed, Piece.runText_operand,
        String.toList_append, String.toList_append, Text.toList_blank, List.singleton_append,
        List.append_assoc]
      show _ ++ ([' '] ++ ("?".toList ++ [])) = _
      rfl
  have apart (a b c d : String) :
      (a ++ b ++ c ++ d).toList = a.toList ++ b.toList ++ (c.toList ++ d.toList) := by
    rw [String.toList_append, String.toList_append, String.toList_append, List.append_assoc]
  have words : " ORDER BY ".toList =
      ' ' :: ("ORDER".toList ++ ' ' :: ("BY".toList ++ [' '])) := by decide
  have ordered : (" ORDER BY " ++ s.sortColumn.name ++ " " ++ s.sortOrder.word).toList =
      Statement.orderText s.sortColumn s.sortOrder := by
    rw [apart " ORDER BY " s.sortColumn.name " " s.sortOrder.word]
    refine (congrArg (· ++ _ ++ _) words).trans ?_
    simp only [List.append_assoc, List.cons_append, List.nil_append, Text.toList_blank, orderText]
  rw [toList_text, pieces]
  simp only [List.cons_append, List.append_assoc, Piece.runText_fixed, Piece.runText_append,
    filtered, counted, ordered]

end ApplicationLedger
