/-
This file says which value is bound to which placeholder of the text that is run. Each predicate
with an operand has a place: the words of the predicate, which stand in front of the placeholder,
and the value that is bound to it; so have the numbers of rows. The places of a query follow from
its walk. The text and the values are made in one recursion that drops groups without predicates;
still, the placeholders stand at the places, one by one, and the values are bound in the same order.
-/

import Mathlib.Data.List.Basic
import ApplicationLedger.Proofs.Query.Literal

namespace ApplicationLedger

open Sql (IsPlain)

/-! ### Places -/

/-- The words in front of a placeholder, and the value bound to it. -/
structure Place where
  words : String
  parameter : Parameter
  deriving DecidableEq, Repr

/-- The place of a predicate. A predicate that asks for a missing value has none, whatever its value
is; a value that is a number is bound as one where it is compared with, and else as a text. -/
def Predicate.place? (p : Predicate) : Option Place :=
  match p.operator with
  | .isEmpty | .isNotEmpty => none
  | .contains => some ⟨p.field ++ " LIKE ", .text (Text.containing p.valueText)⟩
  | .notContains => some ⟨p.field ++ " NOT LIKE ", .text (Text.containing p.valueText)⟩
  | .like => some ⟨p.field ++ " LIKE ", .text p.valueText⟩
  | .compare comparison =>
    some ⟨p.field ++ " " ++ comparison.sign ++ " ",
      match Numeric.ofValue? p.valueText with
      | some number => .number number
      | none => .text p.valueText⟩

/-- The places of the numbers of rows: that of a page, and that of the rows before it. -/
def Query.countPlaces (q : Query) : List Place :=
  if 0 < q.limit then
    ⟨"LIMIT ", .number (.integer q.limit)⟩ ::
      if 0 < q.page then
        [⟨"OFFSET ", .number (.integer (min ((q.page - 1) * q.limit) (Int.pow 2 63 - 1)))⟩]
      else []
  else []

/-- The places of a query: those of its predicates in the order of a walk, then those of the numbers
of rows. -/
def Query.places (q : Query) : List Place :=
  q.walk.filterMap Predicate.place? ++ q.countPlaces

/-! ### Texts with placeholders -/

/-- Whether a text ends with a sign behind which a word begins. -/
def Place.Opens (front : List Char) : Prop :=
  front.getLast? = some ' ' ∨ front.getLast? = some '('

theorem Place.Opens.append {front : List Char} (opens : Opens front) (text : List Char) :
    Opens (text ++ front) := by
  rcases opens with last | last
  · exact .inl (by rw [List.getLast?_append, last, Option.some_or])
  · exact .inr (by rw [List.getLast?_append, last, Option.some_or])

/-- Whether the placeholders of a text stand at some places, one by one. The words of a place begin
behind a sign that opens them; those of the first one may begin the text, if it is bare. -/
structure Place.StandIn (bare : Prop) (places : List Place) (text : List Char) : Prop where
  count : text.count '?' = places.length
  words : ∀ before after, text = before ++ '?' :: after →
    ∃ place front, places[before.count '?']? = some place ∧
      before = front ++ place.words.toList ∧ (Place.Opens front ∨ bare ∧ front = [])

namespace Place.StandIn

variable {bare : Prop} {places further : List Place} {text rest : List Char}

theorem of_not_mem (absent : '?' ∉ text) : StandIn bare [] text where
  count := List.count_eq_zero.mpr absent
  words _ _ split := absurd (split ▸ List.mem_append_right _ List.mem_cons_self) absent

/-- A placeholder behind words, with something behind it that has none. -/
theorem of_words {words : String} (absent : '?' ∉ words.toList) (absent' : '?' ∉ rest)
    (parameter : Parameter) :
    StandIn True [⟨words, parameter⟩] (words.toList ++ '?' :: rest) where
  count := by
    rw [List.count_append, List.count_cons_self, List.count_eq_zero.mpr absent,
      List.count_eq_zero.mpr absent']
    rfl
  words before after split := by
    obtain ⟨rfl, -, rfl⟩ := (List.append_cons_inj_of_notMem absent absent').mp split
    refine ⟨⟨words, parameter⟩, [], ?_, rfl, .inr ⟨trivial, rfl⟩⟩
    rw [List.count_eq_zero.mpr absent]
    rfl

theorem toBare (stand : StandIn False places text) : StandIn True places text where
  count := stand.count
  words before after split := by
    obtain ⟨place, front, found, same, begins⟩ := stand.words before after split
    exact ⟨place, front, found, same, begins.imp_right fun ⟨impossible, _⟩ => impossible.elim⟩

/-- A placeholder stands in one of two texts. -/
theorem split_cases {before after : List Char} (split : text ++ rest = before ++ '?' :: after) :
    (∃ between, text = before ++ '?' :: between) ∨
      ∃ between, before = text ++ between ∧ rest = between ++ '?' :: after := by
  rcases List.append_eq_append_iff.mp split with ⟨between, same, inRest⟩ | ⟨between, inText, tail⟩
  · exact .inr ⟨between, same, inRest⟩
  · cases between with
    | nil => exact .inr ⟨[], by rw [inText, List.append_nil, List.append_nil], tail.symm⟩
    | cons mark between =>
      obtain ⟨rfl, -⟩ := List.cons.inj tail
      exact .inl ⟨between, inText⟩

/-- Behind a sign that opens it, a text is no longer bare. -/
theorem opened (opens : Opens text) (absent : '?' ∉ text) (stand : StandIn True places rest) :
    StandIn False places (text ++ rest) where
  count := by rw [List.count_append, List.count_eq_zero.mpr absent, Nat.zero_add, stand.count]
  words before after split := by
    rcases split_cases split with ⟨between, inText⟩ | ⟨between, rfl, inRest⟩
    · exact absurd (inText ▸ List.mem_append_right _ List.mem_cons_self) absent
    · obtain ⟨place, front, found, rfl, begins⟩ := stand.words between after inRest
      refine ⟨place, text ++ front, ?_, (List.append_assoc ..).symm, .inl ?_⟩
      · rw [List.count_append, List.count_eq_zero.mpr absent, Nat.zero_add, found]
      · rcases begins with opens' | ⟨-, rfl⟩
        · exact opens'.append text
        · rwa [List.append_nil]

theorem append (first : StandIn bare places text) (second : StandIn False further rest) :
    StandIn bare (places ++ further) (text ++ rest) where
  count := by rw [List.count_append, List.length_append, first.count, second.count]
  words before after split := by
    rcases split_cases split with ⟨between, inText⟩ | ⟨between, rfl, inRest⟩
    · obtain ⟨place, front, found, same, begins⟩ := first.words before between inText
      have inFirst := (List.getElem?_eq_some_iff.mp found).1
      exact ⟨place, front, (List.getElem?_append_left inFirst).trans found, same, begins⟩
    · obtain ⟨place, front, found, rfl, begins⟩ := second.words between after inRest
      refine ⟨place, text ++ front, ?_, (List.append_assoc ..).symm, .inl ?_⟩
      · rw [List.count_append, first.count, List.getElem?_append_right (Nat.le_add_right _ _),
          Nat.add_sub_cancel_left, found]
      · rcases begins with opens | ⟨impossible, -⟩
        · exact opens.append text
        · exact impossible.elim

end Place.StandIn

/-! ### Pieces -/

namespace Piece

/-- The values bound to the placeholders of some pieces. -/
def parameters (pieces : List Piece) : List Parameter :=
  (pieces.filterMap operand?).map Operand.parameter

/-- A text that holds no operand holds no placeholder. -/
theorem mark_not_mem {text : List Char} (plain : IsPlain text) : '?' ∉ text :=
  fun member => absurd (plain '?' member) (by decide)

/-- Whether some pieces fill some places: their placeholders stand there, and bind the values. -/
structure Fill (bare : Prop) (places : List Place) (pieces : List Piece) : Prop where
  standIn : Place.StandIn bare places (runText pieces)
  parameters : parameters pieces = places.map Place.parameter

namespace Fill

variable {bare : Prop} {places further : List Place} {pieces others : List Piece}

theorem nil : Fill bare [] [] := ⟨.of_not_mem List.not_mem_nil, rfl⟩

theorem fixed {text : String} (plain : IsPlain text.toList) : Fill bare [] [.fixed text] where
  standIn := by
    rw [runText_fixed, runText, List.flatMap_nil, List.append_nil]
    exact .of_not_mem (mark_not_mem plain)
  parameters := rfl

theorem append (first : Fill bare places pieces) (second : Fill False further others) :
    Fill bare (places ++ further) (pieces ++ others) where
  standIn := by
    rw [runText_append]
    exact first.standIn.append second.standIn
  parameters := by
    rw [List.map_append, ← first.parameters, ← second.parameters, Piece.parameters,
      List.filterMap_append, List.map_append]
    rfl

theorem toBare (fill : Fill False places pieces) : Fill True places pieces :=
  ⟨fill.standIn.toBare, fill.parameters⟩

theorem opened {text : String} (opens : Place.Opens text.toList) (plain : IsPlain text.toList)
    (fill : Fill True places pieces) : Fill False places (.fixed text :: pieces) :=
  ⟨fill.standIn.opened opens (mark_not_mem plain), fill.parameters⟩

/-- An operand behind its words fills the place of these. -/
theorem operand {words : String} (plain : IsPlain words.toList) (operand : Operand) :
    Fill True [⟨words, operand.parameter⟩] [.fixed words, .operand operand] where
  standIn := by
    obtain ⟨clause, placeholder, absent⟩ :
        ∃ clause, operand.placeholder.toList = '?' :: clause ∧ '?' ∉ clause := by
      cases operand with
      | part value =>
        have mark : "? ESCAPE '\\'".toList = '?' :: " ESCAPE '\\'".toList := rfl
        exact ⟨_, mark, by decide⟩
      | text | number | count =>
        have mark : "?".toList = ['?'] := rfl
        exact ⟨_, mark, List.not_mem_nil⟩
    rw [runText_fixed, runText_operand, placeholder, runText, List.flatMap_nil, List.append_nil]
    exact .of_words (mark_not_mem plain) absent _
  parameters := rfl

end Fill

end Piece

namespace Condition

open Piece (Fill)

/-- The parts of a group fill, one behind the other, the places that each of them fills. -/
theorem fill_joined (combinator : Combinator) {parts : List Condition} {lists : List (List Place)}
    (each : List.Forall₂ (fun part places => Fill True places part.nested) parts lists) :
    Fill True lists.flatten (joined combinator parts) := by
  have opens : Place.Opens (" " ++ combinator.word ++ " ").toList := by
    cases combinator <;> exact .inl (by decide)
  cases each with
  | nil => exact .nil
  | cons first others =>
    rw [joined_cons, List.flatten_cons]
    refine first.append ?_
    clear first
    induction others with
    | nil => exact .nil
    | cons next _ inductionHypothesis =>
      rw [List.flatMap_cons, List.flatten_cons]
      exact (next.opened opens (isPlain_between combinator).1).append inductionHypothesis

/-- Whether conditions, each as a part of a group, fill the places of some predicates. -/
def FillPlaces (conditions : List Condition) (predicates : List Predicate) : Prop :=
  ∃ lists, List.Forall₂ (fun part places => Fill True places part.nested) conditions lists ∧
    lists.flatten = predicates.filterMap Predicate.place?

theorem FillPlaces.append {conditions others : List Condition} {predicates further : List Predicate}
    (fill : FillPlaces conditions predicates) (fill' : FillPlaces others further) :
    FillPlaces (conditions ++ others) (predicates ++ further) := by
  obtain ⟨lists, each, places⟩ := fill
  obtain ⟨lists', each', places'⟩ := fill'
  refine ⟨lists ++ lists', List.rel_append each each', ?_⟩
  rw [List.flatten_append, places, places', List.filterMap_append]

/-- A group inside a group fills the places of its parts, between its parentheses. -/
theorem FillPlaces.ofParts {parts : List Condition} {predicates : List Predicate}
    (combinator : Combinator) (fill : FillPlaces parts predicates) :
    FillPlaces (ofParts combinator parts).toList predicates := by
  obtain ⟨lists, each, places⟩ := fill
  cases parts with
  | nil => exact ⟨lists, each, places⟩
  | cons part rest =>
    have opened : Fill False lists.flatten (.fixed "(" :: joined combinator (part :: rest)) :=
      (fill_joined combinator each).opened (.inr rfl) (by decide)
    have closed : Fill False [] [.fixed ")"] := .fixed (by decide)
    refine ⟨[lists.flatten ++ []], .cons ?_ .nil, ?_⟩
    · rw [nested]
      exact (opened.append closed).toBare
    · rw [List.append_nil, List.flatten_singleton, places]

/-- What a predicate becomes fills its place, if it has one. -/
theorem fillPlaces_of_compile {p : Predicate} {condition : Condition}
    (compiled : p.compile = .ok condition) : FillPlaces [condition] [p] := by
  have one (fill : Fill True p.place?.toList condition.nested) : FillPlaces [condition] [p] := by
    refine ⟨[p.place?.toList], .cons fill .nil, ?_⟩
    rw [List.flatten_singleton, List.filterMap_cons, List.filterMap_nil]
    cases p.place? <;> rfl
  obtain ⟨column, valid, rest⟩ := bind_eq_ok.mp compiled
  have named := Predicate.name_column valid
  have behind {words : String} (plain : IsPlain words.toList) :
      IsPlain (column.name ++ words).toList := by
    rw [String.toList_append]
    exact column.isPlain_name.append plain
  rw [Predicate.place?] at one
  cases operator : p.operator <;> simp only [operator] at rest one
  case compare comparison =>
    have sign : IsPlain (" " ++ (comparison.sign ++ " ")).toList := by
      cases comparison <;> decide
    have words := behind sign
    rw [← String.append_assoc, ← String.append_assoc] at words
    rw [← named] at one
    split at rest <;> rename_i found <;> cases rest <;> rw [found] at one
    · exact one (.operand words (.text _))
    · exact one (.operand words (.number _ _))
  case like =>
    split at rest <;> cases rest
    exact one (named ▸ .operand (behind (by decide)) (.text _))
  all_goals cases rest
  case contains => exact one (named ▸ .operand (behind (by decide)) (.part _))
  case notContains => exact one (named ▸ .operand (behind (by decide)) (.part _))
  case isEmpty => exact one (.fixed (behind (by decide)))
  case isNotEmpty => exact one (.fixed (behind (by decide)))

theorem isPartwise_fillPlaces : IsPartwise FillPlaces :=
  ⟨⟨[], .nil, rfl⟩, fun fill => fill.append, fillPlaces_of_compile,
    fun combinator fill => fill.ofParts combinator⟩

end Condition

/-! ### Statements -/

namespace Statement

open Piece (Fill)

/-- The conditions of a query fill the places of its walk. -/
theorem fill_filterPieces {q : Query} {filter : Option Condition}
    (conditioned : q.condition = .ok filter) :
    Fill False (q.walk.filterMap Predicate.place?) (filterPieces filter) := by
  unfold Query.condition at conditioned
  unfold Query.walk
  cases filtered : q.filter with
  | none =>
    rw [filtered] at conditioned
    cases conditioned
    exact .nil
  | some group =>
    rw [filtered] at conditioned
    obtain ⟨parts, rfl, lists, each, places⟩ :=
      Condition.isPartwise_fillPlaces.of_group group filter conditioned
    rw [← places]
    cases parts with
    | nil =>
      cases each
      exact .nil
    | cons part rest => exact (Condition.fill_joined _ each).opened (.inl rfl) (by decide)

/-- A number of rows fills the place behind its word. -/
theorem fill_countPieces (word : String) (plain : IsPlain (word ++ " ").toList)
    (count : Option Int) :
    Fill False (count.toList.map fun count => ⟨word ++ " ", .number (.integer count)⟩)
      (countPieces word count) := by
  cases count with
  | none => exact .nil
  | some count =>
    have behind : Fill False _ (.fixed " " :: [.fixed (word ++ " "), .operand (.count count)]) :=
      (Fill.operand plain (.count count)).opened (.inl rfl) (by decide)
    have same : Piece.runText (countPieces word (some count)) =
        Piece.runText (.fixed " " :: [.fixed (word ++ " "), .operand (.count count)]) := by
      rw [countPieces, String.append_assoc, Piece.runText_fixed, Piece.runText_fixed,
        Piece.runText_fixed, String.toList_append, List.append_assoc]
    exact ⟨same ▸ behind.standIn, behind.parameters⟩

end Statement

namespace Query

theorem countPlaces_eq (q : Query) :
    q.countPlaces =
      q.rowLimit.toList.map (fun count => ⟨"LIMIT" ++ " ", .number (.integer count)⟩) ++
        q.rowOffset.toList.map fun count => ⟨"OFFSET" ++ " ", .number (.integer count)⟩ := by
  unfold countPlaces rowLimit rowOffset
  by_cases limited : 0 < q.limit
  · by_cases paged : 0 < q.page
    · rw [if_pos limited, if_pos paged, if_pos limited, if_pos ⟨limited, paged⟩]
      rfl
    · rw [if_pos limited, if_neg paged, if_pos limited, if_neg fun both => paged both.2]
      rfl
  · rw [if_neg limited, if_neg limited, if_neg fun both => limited both.1]
    rfl

/-- The pieces of a compiled query fill its places. -/
theorem fill_of_compile {q : Query} {statement : Statement} (compiled : q.compile = .ok statement) :
    Piece.Fill False q.places statement.pieces := by
  obtain ⟨column, order, filter, _, conditioned, rfl⟩ := Query.compile_eq_ok compiled
  have head : Piece.Fill False [] [.fixed Statement.head] := .fixed Statement.isPlain_head
  have ordered : Piece.Fill False [] [.fixed (" ORDER BY " ++ column.name ++ " " ++ order.word)] :=
    .fixed (Statement.isPlain_order column order).1
  have limit := Statement.fill_countPieces "LIMIT" (by decide) q.rowLimit
  have offset := Statement.fill_countPieces "OFFSET" (by decide) q.rowOffset
  rw [places, countPlaces_eq]
  have whole := head.append ((Statement.fill_filterPieces conditioned).append
    (ordered.append (limit.append offset)))
  simpa only [Statement.pieces, List.nil_append, List.cons_append, List.append_assoc] using whole

/-- The text of a compiled query has as many placeholders as there are values to bind, and these are
those of its places: that of each predicate with an operand, in the order of a walk, then those of
the numbers of rows. Each placeholder stands right behind the words of the place whose value it is
bound to, and these begin a word. -/
theorem parameters_fill_places {q : Query} {statement : Statement}
    (compiled : q.compile = .ok statement) :
    statement.text.toList.count '?' = statement.parameters.length ∧
      statement.parameters = q.places.map Place.parameter ∧
      ∀ before after, statement.text.toList = before ++ '?' :: after →
        ∃ place front, q.places[before.count '?']? = some place ∧
          statement.parameters[before.count '?']? = some place.parameter ∧
          before = front ++ place.words.toList ∧ Place.Opens front := by
  have fill := fill_of_compile compiled
  have parameters : statement.parameters = q.places.map Place.parameter := fill.parameters
  have standIn := fill.standIn
  rw [← Statement.toList_text] at standIn
  refine ⟨?_, parameters, fun before after split => ?_⟩
  · rw [standIn.count, parameters, List.length_map]
  · obtain ⟨place, front, found, same, opens | ⟨impossible, -⟩⟩ :=
      standIn.words before after split
    · refine ⟨place, front, found, ?_, same, opens⟩
      rw [parameters, List.getElem?_map, found]
      rfl
    · exact impossible.elim

/-- A pattern, a missing value that is asked for with a value, a group without predicates, a part
with a sign in it and a number, on the third page. -/
theorem parameters_fill_places_nested :
    let q : Query := ⟨some (.mk
      [⟨"title", .like, some "Senior%"⟩, ⟨"files", .isEmpty, some "a.pdf"⟩]
      [.mk [] [] .and, .mk [⟨"company", .contains, some "50%"⟩,
        ⟨"id", .compare .greater, some "7"⟩] [] .or] .and), none, none, 10, 3⟩
    ∃ statement, q.compile = .ok statement ∧
      q.places = [⟨"title LIKE ", .text "Senior%"⟩, ⟨"company LIKE ", .text "%50\\%%"⟩,
        ⟨"id > ", .number (.integer 7)⟩, ⟨"LIMIT ", .number (.integer 10)⟩,
        ⟨"OFFSET ", .number (.integer 20)⟩] ∧
      statement.text.toList.count '?' = statement.parameters.length ∧
      statement.parameters = q.places.map Place.parameter := by
  intro q
  obtain ⟨statement, compiled⟩ : ∃ statement, q.compile = .ok statement := ⟨_, rfl⟩
  obtain ⟨count, parameters, _⟩ := parameters_fill_places compiled
  exact ⟨statement, compiled, by decide, count, parameters⟩

end Query

end ApplicationLedger
