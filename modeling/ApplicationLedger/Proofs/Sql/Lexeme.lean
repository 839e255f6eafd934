/-
This file cuts a statement into lexemes without dropping any of it: blanks and signs stand for
themselves, and words, numbers, placeholders and texts between quotes are one lexeme each. So two
statements with the same lexemes differ at most in how they quote a text. A text between quotes ends
at the first quote that is not followed by another.
-/

import ApplicationLedger.Proofs.Sql.Numeral
import ApplicationLedger.Proofs.Sql.Token

namespace ApplicationLedger.Sql

/-! ### Lexemes -/

/-- A lexeme of a statement. -/
inductive Lexeme where
  /-- A blank or a sign. -/
  | mark (c : Char)
  | word (letters : List Char)
  /-- A text between quotes, where two quotes are written for one. -/
  | literal (content : List Char)
  | number (written : List Char)
  | placeholder
  /-- A text behind a quote that does not end. -/
  | broken
  deriving DecidableEq, Repr

/-- The text up to the quote that ends it, and what is behind that. -/
def literal? : List Char → Option (List Char × List Char)
  | [] => none
  | '\'' :: '\'' :: rest => (literal? rest).map fun (content, behind) => ('\'' :: content, behind)
  | '\'' :: rest => some ([], rest)
  | c :: rest => (literal? rest).map fun (content, behind) => (c :: content, behind)

/-- Whether a character can begin a word. -/
def isWordStart (c : Char) : Bool := c.isAlpha || c == '_'

/-- The lexeme that begins with a character, and what is behind it. -/
def lexeme (c : Char) (rest : List Char) : Lexeme × List Char :=
  if c = '\'' then
    match literal? rest with
    | some (content, behind) => (.literal content, behind)
    | none => (.broken, [])
  else if c = '?' then (.placeholder, rest)
  else if isWordStart c then
    (.word (c :: rest.takeWhile isWordCharacter), rest.dropWhile isWordCharacter)
  else
    match number? (c :: rest) with
    | some (written, behind) => (.number written, behind)
    | none => (.mark c, rest)

/-- What is behind a text between quotes is shorter than the text. -/
theorem length_of_literal? {text content behind : List Char}
    (read : literal? text = some (content, behind)) : behind.length ≤ text.length := by
  induction text using literal?.induct generalizing content with
  | case1 => cases read
  | case2 rest inductionHypothesis =>
    rw [literal?] at read
    obtain ⟨⟨_, _⟩, inner, equal⟩ := Option.map_eq_some_iff.mp read
    cases equal
    have shorter := inductionHypothesis inner
    simp only [List.length_cons]
    omega
  | case3 rest single =>
    rw [literal? ] at read
    · cases read
      exact Nat.le_succ _
    · exact single
  | case4 c rest notDouble notQuote inductionHypothesis =>
    rw [literal?] at read
    · obtain ⟨⟨_, _⟩, inner, equal⟩ := Option.map_eq_some_iff.mp read
      cases equal
      exact Nat.le_succ_of_le (inductionHypothesis inner)
    · exact notDouble
    · exact notQuote

theorem length_lexeme (c : Char) (rest : List Char) : (lexeme c rest).2.length ≤ rest.length := by
  unfold lexeme
  split
  · split
    · rename_i read
      exact length_of_literal? read
    · exact Nat.zero_le _
  · split
    · exact Nat.le_refl _
    · split
      · exact (List.dropWhile_suffix _).length_le
      · split
        · rename_i read
          obtain ⟨whole, nonempty⟩ := number?_spec read
          have lengths := congrArg List.length whole
          have positive := List.length_pos_iff.mpr nonempty
          rw [List.length_append, List.length_cons] at lengths
          dsimp only
          omega
        · exact Nat.le_refl _

/-- The lexemes of a text. -/
def lexemes : List Char → List Lexeme
  | [] => []
  | c :: rest => (lexeme c rest).1 :: lexemes (lexeme c rest).2
termination_by text => text.length
decreasing_by exact Nat.lt_succ_of_le (length_lexeme c rest)

theorem lexemes_cons (c : Char) (rest : List Char) :
    lexemes (c :: rest) = (lexeme c rest).1 :: lexemes (lexeme c rest).2 := by
  rw [lexemes]

/-! ### Fixed texts -/

/-- The signs of fixed texts. -/
def plainMarks : List Char := [' ', ',', '(', ')', '=', '<', '>', '!']

/-- Whether a text consists of words without digits and of signs that begin neither an operand nor a
number. -/
def IsPlain (text : List Char) : Prop := ∀ c ∈ text, isWordStart c = true ∨ c ∈ plainMarks

instance (text : List Char) : Decidable (IsPlain text) := List.decidableBAll _ _

theorem IsPlain.append {first second : List Char} (plain : IsPlain first)
    (plain' : IsPlain second) : IsPlain (first ++ second) := by
  intro c member
  rcases List.mem_append.mp member with member | member
  · exact plain c member
  · exact plain' c member

/-- Whether no word crosses from a text into the next one. -/
def Apart (first second : List Char) : Prop :=
  ∀ c ∈ first.getLast?, ∀ d ∈ second.head?, isWordCharacter c = true → isWordCharacter d = false

theorem number?_eq_none {c : Char} {rest : List Char} (digit : c.isDigit = false) (minus : c ≠ '-')
    (plus : c ≠ '+') (point : c ≠ '.') : number? (c :: rest) = none := by
  have unsigned : signPart (c :: rest) = ([], c :: rest) := by
    rw [signPart, if_neg]
    exact not_or.mpr ⟨minus, plus⟩
  have run : (c :: rest).takeWhile Char.isDigit = [] := by
    simp only [List.takeWhile_cons, digit, Bool.false_eq_true, if_false]
  have behind : (c :: rest).dropWhile Char.isDigit = c :: rest := by
    simp only [List.dropWhile_cons, digit, Bool.false_eq_true, if_false]
  simp only [number?, unsigned, run, behind, fractionPart, if_neg point, List.isEmpty_nil,
    List.tail_nil, Bool.and_self, if_true]

theorem lexeme_plainMark {c : Char} (mark : c ∈ plainMarks) (rest : List Char) :
    lexeme c rest = (.mark c, rest) := by
  have other : c ≠ '\'' ∧ c ≠ '?' ∧ isWordStart c = false ∧ c.isDigit = false ∧ c ≠ '-' ∧
      c ≠ '+' ∧ c ≠ '.' := by
    simp only [plainMarks, List.mem_cons, List.not_mem_nil, or_false] at mark
    rcases mark with rfl | rfl | rfl | rfl | rfl | rfl | rfl | rfl <;> decide
  obtain ⟨quote, question, start, digit, minus, plus, point⟩ := other
  simp only [lexeme, if_neg quote, if_neg question, start, Bool.false_eq_true, if_false,
    number?_eq_none digit minus plus point]

theorem lexeme_wordStart {c : Char} (start : isWordStart c = true) (rest : List Char) :
    lexeme c rest =
      (.word (c :: rest.takeWhile isWordCharacter), rest.dropWhile isWordCharacter) := by
  have quote : c ≠ '\'' := by
    rintro rfl
    cases start
  have question : c ≠ '?' := by
    rintro rfl
    cases start
  rw [lexeme, if_neg quote, if_neg question, if_pos start]

theorem isDigit_of_wordStart {c : Char} (start : isWordStart c = true) : c.isDigit = false := by
  rw [isWordStart, Bool.or_eq_true, beq_iff_eq] at start
  rw [Bool.eq_false_iff]
  intro digit
  rcases start with letter | rfl
  · have range := Char.isDigit_iff_toNat.mp digit
    have upper : 57 < c.toNat := by
      rcases Bool.or_eq_true_iff.mp letter with big | small
      · have least : 65 ≤ c.val := (of_decide_eq_true big).1
        exact Nat.lt_of_lt_of_le (by decide) (UInt32.le_iff_toNat_le.mp least)
      · have small : (decide (97 ≤ c.val) && decide (c.val ≤ 122)) = true := small
        have least : 97 ≤ c.val := of_decide_eq_true (Bool.and_eq_true_iff.mp small).1
        exact Nat.lt_of_lt_of_le (by decide) (UInt32.le_iff_toNat_le.mp least)
    exact absurd range.2 (Nat.not_le.mpr upper)
  · cases digit

theorem isWordCharacter_of_start {c : Char} (start : isWordStart c = true) :
    isWordCharacter c = true := by
  rw [isWordStart, Bool.or_eq_true] at start
  rw [isWordCharacter, Char.isAlphanum, Bool.or_eq_true, Bool.or_eq_true]
  exact start.imp_left .inl

/-- A word ends where the next text begins with something else. -/
theorem wordRun_append {first second : List Char}
    (ends : (∀ c ∈ first, isWordCharacter c = true) →
      ∀ d ∈ second.head?, isWordCharacter d = false) :
    (first ++ second).takeWhile isWordCharacter = first.takeWhile isWordCharacter ∧
      (first ++ second).dropWhile isWordCharacter =
        first.dropWhile isWordCharacter ++ second := by
  induction first with
  | nil =>
    cases second with
    | nil => exact ⟨rfl, rfl⟩
    | cons d rest =>
      have other := ends (fun _ member => nomatch member) d rfl
      simp only [List.nil_append, List.takeWhile_cons, List.dropWhile_cons, other,
        Bool.false_eq_true, if_false, List.takeWhile_nil, List.dropWhile_nil, and_self]
  | cons c rest inductionHypothesis =>
    simp only [List.cons_append, List.takeWhile_cons, List.dropWhile_cons]
    split
    · rename_i wordCharacter
      obtain ⟨run, behind⟩ := inductionHypothesis fun all =>
        ends (List.forall_mem_cons.mpr ⟨wordCharacter, all⟩)
      exact ⟨congrArg (c :: ·) run, behind⟩
    · exact ⟨rfl, rfl⟩

/-- Behind a plain text the lexemes begin anew, if no word crosses over. -/
theorem lexemes_append {first second : List Char} (plain : IsPlain first)
    (apart : Apart first second) : lexemes (first ++ second) = lexemes first ++ lexemes second := by
  induction first using lexemes.induct with
  | case1 => rw [lexemes, List.nil_append, List.nil_append]
  | case2 c rest inductionHypothesis =>
    have plainRest : IsPlain rest := fun d member => plain d (List.mem_cons_of_mem c member)
    rw [List.cons_append, lexemes_cons, lexemes_cons, List.cons_append]
    rcases plain c List.mem_cons_self with start | mark
    · rw [lexeme_wordStart start] at inductionHypothesis ⊢
      have ends (all : ∀ d ∈ rest, isWordCharacter d = true) :
          ∀ d ∈ second.head?, isWordCharacter d = false := by
        have last := List.getLast_mem (List.cons_ne_nil c rest)
        intro d member
        refine apart _ (List.getLast?_eq_some_getLast (List.cons_ne_nil c rest)) d member ?_
        rcases List.mem_cons.mp last with same | inRest
        · rw [same]
          exact isWordCharacter_of_start start
        · exact all _ inRest
      obtain ⟨run, behind⟩ := wordRun_append ends
      rw [lexeme_wordStart start, run, behind]
      refine congrArg (_ :: ·) (inductionHypothesis ?_ ?_)
      · exact fun d member => plainRest d ((List.dropWhile_suffix _).subset member)
      · intro d last
        refine apart d ?_
        obtain ⟨front, equal⟩ := List.dropWhile_suffix (l := rest) isWordCharacter
        rw [← equal, ← List.cons_append, List.getLast?_append, Option.mem_def.mp last]
        rfl
    · rw [lexeme_plainMark mark] at inductionHypothesis ⊢
      rw [lexeme_plainMark mark]
      refine congrArg (_ :: ·) (inductionHypothesis plainRest fun d last => apart d ?_)
      cases rest with
      | nil => cases last
      | cons e rest => rwa [List.getLast?_cons_cons]

/-- The lexemes of a plain text are words and signs. -/
def Lexeme.IsFixed : Lexeme → Prop
  | mark _ => True
  | word _ => True
  | _ => False

theorem isFixed_of_mem_lexemes {text : List Char} (plain : IsPlain text) :
    ∀ found ∈ lexemes text, found.IsFixed := by
  induction text using lexemes.induct with
  | case1 =>
    rw [lexemes]
    exact fun _ member => nomatch member
  | case2 c rest inductionHypothesis =>
    have plainRest : IsPlain rest := fun d member => plain d (List.mem_cons_of_mem c member)
    rw [lexemes_cons, List.forall_mem_cons]
    rcases plain c List.mem_cons_self with start | mark
    · rw [lexeme_wordStart start] at inductionHypothesis ⊢
      exact ⟨trivial, inductionHypothesis fun d member =>
        plainRest d ((List.dropWhile_suffix _).subset member)⟩
    · rw [lexeme_plainMark mark] at inductionHypothesis ⊢
      exact ⟨trivial, inductionHypothesis plainRest⟩

/-! ### Operands -/

theorem lexemes_placeholder (rest : List Char) :
    lexemes ('?' :: rest) = .placeholder :: lexemes rest := by
  rw [lexemes_cons]
  rfl

/-- A text between quotes, each of its own quotes written twice, is read up to the quote that ends
it. -/
theorem literal?_doubled (content : List Char) {rest : List Char} (ends : EndsOperand rest) :
    literal? (content.flatMap (fun c => if c = '\'' then ['\'', '\''] else [c]) ++ '\'' :: rest) =
      some (content, rest) := by
  induction content with
  | nil =>
    cases rest with
    | nil => rfl
    | cons c rest => rcases ends c rfl with rfl | rfl <;> rfl
  | cons c content inductionHypothesis =>
    rw [List.flatMap_cons, List.append_assoc]
    by_cases quote : c = '\''
    · subst quote
      simp only [if_true, List.cons_append, List.nil_append, literal?, inductionHypothesis,
        Option.map_some]
    · rw [if_neg quote, List.singleton_append, literal?, inductionHypothesis]
      · rfl
      · rintro _ rfl
        exact absurd rfl quote
      · exact quote

theorem lexemes_quoted (content : String) {rest : List Char} (ends : EndsOperand rest) :
    lexemes ((Operand.quoted content).toList ++ rest) =
      .literal content.toList :: lexemes rest := by
  have text : (Operand.quoted content).toList ++ rest = '\'' ::
      (content.toList.flatMap (fun c => if c = '\'' then ['\'', '\''] else [c]) ++
        '\'' :: rest) := by
    simp only [Operand.quoted, String.toList_append, String.toList_ofList, List.append_assoc]
    rfl
  rw [text, lexemes_cons]
  simp only [lexeme, if_true, literal?_doubled content.toList ends]

theorem lexemes_number {written rest : List Char} (isNumber : number? written = some (written, []))
    (ends : EndsOperand rest) : lexemes (written ++ rest) = .number written :: lexemes rest := by
  cases written with
  | nil => cases isNumber
  | cons c digits =>
    have read := number?_append ends isNumber
    -- What begins a number begins nothing else.
    have quote : c ≠ '\'' := by
      rintro rfl
      rw [number?_eq_none rfl (by decide) (by decide) (by decide)] at isNumber
      cases isNumber
    have question : c ≠ '?' := by
      rintro rfl
      rw [number?_eq_none rfl (by decide) (by decide) (by decide)] at isNumber
      cases isNumber
    have start : isWordStart c = false := by
      rw [Bool.eq_false_iff]
      intro start
      rw [number?_eq_none] at isNumber
      · cases isNumber
      · exact isDigit_of_wordStart start
      · rintro rfl
        cases start
      · rintro rfl
        cases start
      · rintro rfl
        cases start
    rw [List.cons_append] at read ⊢
    rw [lexemes_cons]
    simp only [lexeme, if_neg quote, if_neg question, start, Bool.false_eq_true, if_false, read,
      List.nil_append]

/-- The lexemes of the clause behind a placeholder that takes a pattern. -/
def escapeClause : List Lexeme :=
  [.mark ' ', .word "ESCAPE".toList, .mark ' ', .literal ['\\']]

theorem lexemes_escaped {rest : List Char} (ends : EndsOperand rest) :
    lexemes ("? ESCAPE '\\'".toList ++ rest) =
      .placeholder :: (escapeClause ++ lexemes rest) := by
  have clause := lexemes_quoted "\\" ends
  have apart : Apart " ESCAPE ".toList ((Operand.quoted "\\").toList ++ rest) := by
    intro c last
    cases last
    exact fun _ _ word => nomatch word
  have fixed := lexemes_append (by decide : IsPlain " ESCAPE ".toList) apart
  have words : lexemes " ESCAPE ".toList = [.mark ' ', .word "ESCAPE".toList, .mark ' '] := by
    decide +kernel
  rw [words, clause] at fixed
  exact (lexemes_placeholder _).trans (congrArg (_ :: ·) fixed)

/-! ### Filling placeholders -/

/-- The lexemes without the clause of a placeholder, if they begin with it. -/
def withoutClause (row : List Lexeme) : List Lexeme :=
  if escapeClause.isPrefixOf row then row.drop escapeClause.length else row

/-- The lexemes with operands in place of the placeholders and their clauses. There has to be one
operand for each placeholder. -/
def fill : List Lexeme → List Lexeme → Option (List Lexeme)
  | [], [] => some []
  | [], _ :: _ => none
  | .placeholder :: _, [] => none
  | .placeholder :: rest, operand :: operands =>
    (fill (withoutClause rest) operands).map (operand :: ·)
  | other :: rest, operands => (fill rest operands).map (other :: ·)
termination_by row => row.length
decreasing_by
  · unfold withoutClause
    split
    · exact Nat.lt_succ_of_le (List.drop_suffix _ _).length_le
    · exact Nat.lt_succ_self _
  · exact Nat.lt_succ_self _

theorem withoutClause_append (row : List Lexeme) : withoutClause (escapeClause ++ row) = row := by
  rw [withoutClause, if_pos (List.isPrefixOf_iff_prefix.mpr (List.prefix_append _ _)),
    List.drop_left]

/-- Fixed lexemes stay where they are. -/
theorem fill_append {fixed rest operands filled : List Lexeme}
    (isFixed : ∀ found ∈ fixed, found.IsFixed) (behind : fill rest operands = some filled) :
    fill (fixed ++ rest) operands = some (fixed ++ filled) := by
  induction fixed with
  | nil => exact behind
  | cons found fixed inductionHypothesis =>
    have first := isFixed found List.mem_cons_self
    have others := inductionHypothesis fun other member =>
      isFixed other (List.mem_cons_of_mem found member)
    have other : found ≠ .placeholder := by
      rintro rfl
      exact first
    rw [List.cons_append, fill, others]
    · rfl
    · exact fun _ => other
    · exact fun _ _ _ => other

/-- Whether a text begins with the end of a group, or with a blank and what is not the clause of a
placeholder. -/
def beginsApart : List Char → Bool
  | ')' :: _ => true
  | ' ' :: c :: _ => c != 'E'
  | _ => false

theorem EndsOperand.of_beginsApart {text : List Char} (apart : beginsApart text = true)
    (rest : List Char) : EndsOperand (text ++ rest) := by
  unfold beginsApart at apart
  split at apart
  · rintro _ ⟨⟩
    exact .inr rfl
  · rintro _ ⟨⟩
    exact .inl rfl
  · cases apart

/-- What stands behind an operand is not taken for its clause. -/
theorem withoutClause_of_beginsApart {text : List Char} (apart : beginsApart text = true)
    (plain : IsPlain text) (row : List Lexeme) :
    withoutClause (lexemes text ++ row) = lexemes text ++ row := by
  rw [withoutClause, if_neg]
  intro isClause
  unfold beginsApart at apart
  split at apart
  · rw [lexemes_cons, lexeme_plainMark (by decide)] at isClause
    cases isClause
  · rename_i c rest
    rw [lexemes_cons, lexeme_plainMark (by decide), lexemes_cons] at isClause
    obtain ⟨row', equal⟩ := List.isPrefixOf_iff_prefix.mp isClause
    have second := (List.cons.inj (List.cons.inj equal).2).1
    rcases plain c (List.mem_cons_of_mem _ List.mem_cons_self) with start | mark
    · rw [lexeme_wordStart start] at second
      have letters : "ESCAPE".toList = c :: rest.takeWhile isWordCharacter :=
        Lexeme.word.inj second
      rw [← (List.cons.inj letters).1] at apart
      cases apart
    · rw [lexeme_plainMark mark] at second
      cases second
  · cases apart

end ApplicationLedger.Sql
