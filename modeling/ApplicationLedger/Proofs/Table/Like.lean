/-
This file says which values match a pattern. The matches of a pattern are given by rules, one for
each kind of character in it; the matcher, which tries the runs of a text one by one, decides them.
A part that is escaped character by character matches nothing but itself in either case, whatever
marks it holds, so between two marks for any run it matches the texts that it occurs in. That is
what a predicate on a part of a value asks of a row, and what a predicate on a missing part denies.
-/

import Mathlib.Data.List.Infix
import Mathlib.Data.List.TakeWhile
import ApplicationLedger.Proofs.Query.Compile
import ApplicationLedger.Table.Selection

namespace ApplicationLedger

namespace Text

/-! ### Matches by rules -/

/-- Whether a text matches a pattern: a mark for any run matches any run of characters, a mark for
any one character matches one, the escape character makes the next one match itself, and so does
every other character. Letters of ASCII match in either case. -/
inductive Matches (escape : Option Char) : List Char → List Char → Prop
  | nil : Matches escape [] []
  | anyRun {pattern text : List Char} (unescaped : some '%' ≠ escape) (run : List Char)
      (rest : Matches escape pattern text) : Matches escape ('%' :: pattern) (run ++ text)
  | anyOne {pattern text : List Char} (unescaped : some '_' ≠ escape) (c : Char)
      (rest : Matches escape pattern text) : Matches escape ('_' :: pattern) (c :: text)
  | escaped {pattern text : List Char} {mark c d : Char} (escapes : some mark = escape)
      (same : foldCase c = foldCase d) (rest : Matches escape pattern text) :
      Matches escape (mark :: c :: pattern) (d :: text)
  | literal {pattern text : List Char} {c d : Char} (unescaped : some c ≠ escape)
      (notRun : c ≠ '%') (notOne : c ≠ '_') (same : foldCase c = foldCase d)
      (rest : Matches escape pattern text) : Matches escape (c :: pattern) (d :: text)

/-- Whether a part occurs in a text, with letters of ASCII in either case. -/
def Occurs (part text : String) : Prop :=
  part.toList.map foldCase <:+: text.toList.map foldCase

instance (part text : String) : Decidable (Occurs part text) :=
  inferInstanceAs (Decidable (_ <:+: _))

/-! ### The matcher -/

theorem someRest_eq_true_iff {holds : List Char → Bool} {text : List Char} :
    someRest holds text = true ↔ ∃ run rest, text = run ++ rest ∧ holds rest = true := by
  induction text with
  | nil =>
    constructor
    · exact fun matched => ⟨[], [], rfl, matched⟩
    · rintro ⟨run, rest, split, matched⟩
      obtain ⟨-, rfl⟩ := List.append_eq_nil_iff.mp split.symm
      exact matched
  | cons c text inductionHypothesis =>
    rw [someRest, Bool.or_eq_true, inductionHypothesis]
    constructor
    · rintro (matched | ⟨run, rest, rfl, matched⟩)
      · exact ⟨[], c :: text, rfl, matched⟩
      · exact ⟨c :: run, rest, rfl, matched⟩
    · rintro ⟨run, rest, split, matched⟩
      cases run with
      | nil =>
        cases split
        exact .inl matched
      | cons _ run =>
        cases split
        exact .inr ⟨run, rest, rfl, matched⟩

variable {escape : Option Char}

theorem patternItems_escaped {mark : Char} (escapes : some mark = escape) (c : Char)
    (rest : List Char) :
    patternItems escape (mark :: c :: rest) = (patternItems escape rest).map (.literal c :: ·) := by
  rw [patternItems, if_pos escapes]

theorem patternItems_unescaped {c : Char} (unescaped : some c ≠ escape) (rest : List Char) :
    patternItems escape (c :: rest) = (patternItems escape rest).map
      ((if c = '%' then .anyRun else if c = '_' then .anyOne else .literal c) :: ·) := by
  rw [patternItems.eq_def]
  dsimp only
  rw [if_neg unescaped]
  split
  · rfl
  · split <;> rfl

theorem matchesItems_of_matches {pattern text : List Char} (matched : Matches escape pattern text) :
    ∃ items, patternItems escape pattern = some items ∧ matchesItems items text = true := by
  induction matched with
  | nil => exact ⟨[], by rw [patternItems], rfl⟩
  | anyRun unescaped run _ inductionHypothesis =>
    obtain ⟨items, read, matched⟩ := inductionHypothesis
    refine ⟨.anyRun :: items, ?_, someRest_eq_true_iff.mpr ⟨run, _, rfl, matched⟩⟩
    rw [patternItems_unescaped unescaped, read]
    rfl
  | anyOne unescaped c _ inductionHypothesis =>
    obtain ⟨items, read, matched⟩ := inductionHypothesis
    refine ⟨.anyOne :: items, ?_, matched⟩
    rw [patternItems_unescaped unescaped, read]
    rfl
  | @escaped _ _ _ c _ escapes same _ inductionHypothesis =>
    obtain ⟨items, read, matched⟩ := inductionHypothesis
    refine ⟨.literal c :: items, ?_, ?_⟩
    · rw [patternItems_escaped escapes, read]
      rfl
    · rw [matchesItems, same, matched, beq_self_eq_true]
      rfl
  | @literal _ _ c _ unescaped notRun notOne same _ inductionHypothesis =>
    obtain ⟨items, read, matched⟩ := inductionHypothesis
    refine ⟨.literal c :: items, ?_, ?_⟩
    · rw [patternItems_unescaped unescaped, if_neg notRun, if_neg notOne, read]
      rfl
    · rw [matchesItems, same, matched, beq_self_eq_true]
      rfl

/-- The items of a pattern are read from its characters one by one. -/
theorem matches_of_matchesItems {pattern text : List Char} {items : List PatternItem}
    (read : patternItems escape pattern = some items) (matched : matchesItems items text = true) :
    Matches escape pattern text := by
  have literal {c : Char} {items : List PatternItem} {text : List Char}
      (matched : matchesItems (.literal c :: items) text = true) :
      ∃ d rest, text = d :: rest ∧ foldCase c = foldCase d ∧ matchesItems items rest = true := by
    cases text with
    | nil => cases matched
    | cons d rest =>
      rw [matchesItems, Bool.and_eq_true, beq_iff_eq] at matched
      exact ⟨d, rest, rfl, matched⟩
  induction pattern using patternItems.induct escape generalizing items text with
  | case1 =>
    rw [patternItems] at read
    cases read
    cases List.isEmpty_iff.mp matched
    exact .nil
  | case2 c escapes =>
    rw [patternItems, if_pos escapes] at read
    cases read
  | case3 c escapes next rest inductionHypothesis =>
    rw [patternItems_escaped escapes] at read
    obtain ⟨others, remaining, rfl⟩ := Option.map_eq_some_iff.mp read
    obtain ⟨d, text, rfl, same, matched⟩ := literal matched
    exact .escaped escapes same (inductionHypothesis remaining matched)
  | case4 rest unescaped inductionHypothesis =>
    rw [patternItems_unescaped unescaped, if_pos rfl] at read
    obtain ⟨others, remaining, rfl⟩ := Option.map_eq_some_iff.mp read
    obtain ⟨run, text, rfl, rest⟩ := someRest_eq_true_iff.mp matched
    exact .anyRun unescaped run (inductionHypothesis remaining rest)
  | case5 rest unescaped notRun inductionHypothesis =>
    rw [patternItems_unescaped unescaped, if_neg notRun, if_pos rfl] at read
    obtain ⟨others, remaining, rfl⟩ := Option.map_eq_some_iff.mp read
    cases text with
    | nil => cases matched
    | cons c text => exact .anyOne unescaped c (inductionHypothesis remaining matched)
  | case6 c rest unescaped notRun notOne inductionHypothesis =>
    rw [patternItems_unescaped unescaped, if_neg notRun, if_neg notOne] at read
    obtain ⟨others, remaining, rfl⟩ := Option.map_eq_some_iff.mp read
    obtain ⟨d, text, rfl, same, matched⟩ := literal matched
    exact .literal unescaped notRun notOne same (inductionHypothesis remaining matched)

theorem beforeNul_eq {text : String} (absent : '\x00' ∉ text.toList) :
    beforeNul text = text.toList := by
  refine List.takeWhile_eq_self_iff.mpr fun c member => ?_
  rw [bne_iff_ne]
  exact fun same => absent (same ▸ member)

/-- The matcher decides the matches of a pattern, up to the first NUL of each. -/
theorem isLike_iff {pattern text : String} :
    isLike escape pattern text = true ↔ Matches escape (beforeNul pattern) (beforeNul text) := by
  rw [isLike]
  constructor
  · intro matched
    split at matched
    · cases matched
    · rename_i items read
      exact matches_of_matchesItems read matched
  · intro matched
    obtain ⟨items, read, matched⟩ := matchesItems_of_matches matched
    rw [read]
    exact matched

/-! ### Parts -/

theorem matches_anyRun_iff {pattern text : List Char} (unescaped : some '%' ≠ escape) :
    Matches escape ('%' :: pattern) text ↔
      ∃ run rest, text = run ++ rest ∧ Matches escape pattern rest := by
  constructor
  · intro matched
    cases matched with
    | anyRun _ run rest => exact ⟨run, _, rfl, rest⟩
    | escaped escapes => exact absurd escapes unescaped
    | literal _ notRun => exact absurd rfl notRun
  · rintro ⟨run, rest, rfl, matched⟩
    exact .anyRun unescaped run matched

/-- An escaped character matches itself, whether it means something in a pattern or not. -/
theorem matches_escapeLike_singleton_iff {c : Char} {pattern text : List Char} :
    Matches (some '\\') (escapeLike [c] ++ pattern) text ↔
      ∃ d rest, text = d :: rest ∧ foldCase c = foldCase d ∧
        Matches (some '\\') pattern rest := by
  rw [escapeLike, List.flatMap_singleton]
  by_cases means : c = '%' ∨ c = '_' ∨ c = '\\'
  · rw [if_pos means]
    constructor
    · intro matched
      cases matched with
      | escaped _ same rest => exact ⟨_, _, rfl, same, rest⟩
      | literal unescaped => exact absurd rfl unescaped
    · rintro ⟨d, rest, rfl, same, matched⟩
      exact .escaped rfl same matched
  · rw [if_neg means]
    obtain ⟨notRun, notOne, notMark⟩ : c ≠ '%' ∧ c ≠ '_' ∧ c ≠ '\\' := by
      simpa only [not_or] using means
    constructor
    · intro matched
      cases matched with
      | anyRun => exact absurd rfl notRun
      | anyOne => exact absurd rfl notOne
      | escaped escapes => exact absurd (Option.some.inj escapes) notMark
      | literal _ _ _ same rest => exact ⟨_, _, rfl, same, rest⟩
    · rintro ⟨d, rest, rfl, same, matched⟩
      exact .literal (fun same => notMark (Option.some.inj same)) notRun notOne same matched

/-- An escaped part matches itself in either case, and what is behind it matches the rest. -/
theorem matches_escapeLike_iff {part pattern text : List Char} :
    Matches (some '\\') (escapeLike part ++ pattern) text ↔
      ∃ found rest, text = found ++ rest ∧ found.map foldCase = part.map foldCase ∧
        Matches (some '\\') pattern rest := by
  induction part generalizing text with
  | nil =>
    constructor
    · exact fun matched => ⟨[], text, rfl, rfl, matched⟩
    · rintro ⟨found, rest, rfl, same, matched⟩
      cases List.map_eq_nil_iff.mp same
      exact matched
  | cons c part inductionHypothesis =>
    have first : escapeLike (c :: part) ++ pattern =
        escapeLike [c] ++ (escapeLike part ++ pattern) := by
      rw [escapeLike, escapeLike, escapeLike, List.flatMap_singleton, List.flatMap_cons,
        List.append_assoc]
    rw [first, matches_escapeLike_singleton_iff]
    constructor
    · rintro ⟨d, text, rfl, same, matched⟩
      obtain ⟨found, rest, rfl, others, matched⟩ := inductionHypothesis.mp matched
      exact ⟨d :: found, rest, rfl, by rw [List.map_cons, List.map_cons, same, others], matched⟩
    · rintro ⟨found, rest, rfl, same, matched⟩
      obtain ⟨d, found, rfl, first, others⟩ := List.map_eq_cons_iff.mp same
      exact ⟨d, found ++ rest, rfl, first.symm,
        inductionHypothesis.mpr ⟨found, rest, rfl, others, matched⟩⟩

theorem occurs_iff {part text : String} :
    Occurs part text ↔ ∃ before found after, text.toList = before ++ (found ++ after) ∧
      found.map foldCase = part.toList.map foldCase := by
  constructor
  · rintro ⟨before, after, split⟩
    obtain ⟨front, after', same, split, -⟩ := List.map_eq_append_iff.mp split.symm
    obtain ⟨before', found, rfl, -, folded⟩ := List.map_eq_append_iff.mp split
    exact ⟨before', found, after', by rw [same, List.append_assoc], folded⟩
  · rintro ⟨before, found, after, split, same⟩
    refine ⟨before.map foldCase, after.map foldCase, ?_⟩
    rw [split, List.map_append, List.map_append, same, List.append_assoc]

theorem toList_containing (part : String) :
    (containing part).toList = '%' :: (escapeLike part.toList ++ ['%']) := by
  have mark : "%" = String.ofList ['%'] := rfl
  simp only [containing, mark, String.toList_append, String.toList_ofList, List.cons_append,
    List.nil_append]

/-- The pattern of a part matches exactly the texts that the part occurs in. -/
theorem matches_containing_iff (part text : String) :
    Matches (some '\\') (containing part).toList text.toList ↔ Occurs part text := by
  have unescaped : some '%' ≠ some '\\' := by decide
  rw [toList_containing, matches_anyRun_iff unescaped, occurs_iff]
  constructor
  · rintro ⟨before, text', split, matched⟩
    obtain ⟨found, after, rfl, same, _⟩ := matches_escapeLike_iff.mp matched
    exact ⟨before, found, after, split, same⟩
  · rintro ⟨before, found, after, split, same⟩
    have anything : Matches (some '\\') ['%'] after :=
      (matches_anyRun_iff unescaped).mpr ⟨after, [], (List.append_nil after).symm, .nil⟩
    exact ⟨before, found ++ after, split,
      matches_escapeLike_iff.mpr ⟨found, after, rfl, same, anything⟩⟩

/-- So does the matcher, if there is no NUL in either text. -/
theorem isLike_containing {part text : String} (absent : '\x00' ∉ part.toList)
    (absent' : '\x00' ∉ text.toList) :
    isLike (some '\\') (containing part) text = decide (Occurs part text) := by
  have escaped : '\x00' ∉ escapeLike part.toList := by
    intro member
    obtain ⟨c, inPart, member⟩ := List.mem_flatMap.mp member
    have same : '\x00' = c := by
      split at member
      · rcases List.mem_pair.mp member with mark | same
        · cases mark
        · exact same
      · exact List.mem_singleton.mp member
    exact absent (same ▸ inPart)
  have pattern : '\x00' ∉ (containing part).toList := by
    rw [toList_containing, List.mem_cons, List.mem_append, List.mem_singleton]
    rintro (mark | member | mark)
    · cases mark
    · exact escaped member
    · cases mark
  rw [Bool.eq_iff_iff, decide_eq_true_iff, isLike_iff, beforeNul_eq pattern,
    beforeNul_eq absent', matches_containing_iff]

end Text

/-! ### Rows -/

namespace Predicate

/-- A predicate on a part becomes a test with that part, and binds its pattern. -/
theorem compile_of_part (column : Column) (part : String) :
    (Predicate.mk column.name .contains (some part)).compile =
        .ok (.test column (.contains part)) ∧
      (Predicate.mk column.name .notContains (some part)).compile =
        .ok (.test column (.lacks part)) :=
  ⟨compile_of_name column rfl nofun, compile_of_name column rfl nofun⟩

open Text (Matches Occurs) in
/-- A predicate on a part binds one pattern, in which a backslash escapes. By the rules of patterns
it matches exactly the texts that the part occurs in. So the predicate holds of a row if the part
occurs in the text of its column, and the predicate on a missing part if it does not; without a
value in the column, neither of them is true or false. -/
theorem holds_iff_occurs (column : Column) (part text : String) :
    ∃ contains lacks,
      (Predicate.mk column.name .contains (some part)).compile = .ok contains ∧
      (Predicate.mk column.name .notContains (some part)).compile = .ok lacks ∧
      (∀ condition ∈ [contains, lacks],
        condition.nested.filterMap Piece.operand? = [.part part]) ∧
      (Operand.part part).placeholder = "? ESCAPE '\\'" ∧
      (Operand.part part).parameter = .text (Text.containing part) ∧
      (Matches (some '\\') (Text.containing part).toList text.toList ↔ Occurs part text) ∧
      ('\x00' ∉ part.toList → '\x00' ∉ text.toList → ∀ row : Row,
        (row column).matchedText? = some text →
          contains.holds row = some (decide (Occurs part text)) ∧
          lacks.holds row = some (!decide (Occurs part text))) ∧
      ∀ row : Row, row column = .null → contains.holds row = none ∧ lacks.holds row = none := by
  obtain ⟨contains, lacks⟩ := compile_of_part column part
  refine ⟨_, _, contains, lacks, ?_, rfl, rfl, Text.matches_containing_iff part text, ?_, ?_⟩
  · intro condition member
    rcases List.mem_pair.mp member with rfl | rfl <;> rfl
  · intro absent absent' row found
    have matched := Text.isLike_containing absent absent'
    simp only [Condition.holds, Test.holds, Test.isLike, found, Option.map_some, matched,
      and_self]
  · intro row missing
    simp only [Condition.holds, Test.holds, Test.isLike, missing, Cell.matchedText?,
      Option.map_none, and_self]

/-- A part made of signs that mean something in a pattern, in a row of the table. -/
theorem holds_iff_occurs_signs :
    let row : Row := fun column => if column = .title then .text "100\\%_Remote" else .null
    ∃ contains lacks,
      (Predicate.mk "title" .contains (some "\\%_rEMO")).compile = .ok contains ∧
      (Predicate.mk "title" .notContains (some "\\%_rEMO")).compile = .ok lacks ∧
      contains.holds row = some true ∧ lacks.holds row = some false := by
  intro row
  obtain ⟨contains, lacks, compiled, compiled', _, _, _, _, holds, _⟩ :=
    holds_iff_occurs .title "\\%_rEMO" "100\\%_Remote"
  obtain ⟨found, missing⟩ := holds (by decide) (by decide) row rfl
  exact ⟨contains, lacks, compiled, compiled', found, missing⟩

end Predicate

end ApplicationLedger
