/-
This file reads tokens as a statement that selects rows, by the grammar of the database. A condition
is made of alternatives joined by `OR`, an alternative of factors joined by `AND`, and a factor is a
test on a column or a condition in parentheses; so parentheses bind first, then `AND`, then `OR`,
and what is joined without parentheses is joined from the left. The value of a condition follows
from the values of its tests, in the order in which they are written.
-/

import Mathlib.Data.List.Forall2
import ApplicationLedger.Proofs.Sql.Token
import ApplicationLedger.Table.Selection

namespace ApplicationLedger.Sql

/-! ### Conditions -/

/-- A test on a column, with placeholders for its operands. -/
inductive Atom where
  | compare (column sign : String)
  | like (column : String) (negated : Bool) (escape : Option String)
  | isNull (column : String) (negated : Bool)
  deriving DecidableEq, Repr

/-- A condition, as it is read. -/
inductive Expression where
  | atom (atom : Atom)
  | join (combinator : Combinator) (left right : Expression)
  deriving DecidableEq, Repr

namespace Expression

/-- The tests of a condition, from left to right. -/
def atoms : Expression → List Atom
  | atom a => [a]
  | join _ left right => left.atoms ++ right.atoms

/-- The value of a condition, where its tests are numbered from left to right, beginning with
`first`, and each has the value that is assigned to its number. -/
def truth (assignment : Nat → Truth) (first : Nat) : Expression → Truth
  | atom _ => assignment first
  | join combinator left right =>
    Truth.join combinator (left.truth assignment first)
      (right.truth assignment (first + left.atoms.length))

end Expression

/-! ### The grammar of conditions -/

/-- The signs that compare. -/
def comparisonSigns : List String := ["=", "==", "!=", "<>", "<", ">", "<=", ">="]

/-- The escape character behind a pattern, if there is one, with what follows it. -/
def escape? : List Token → Option String × List Token
  | .word "ESCAPE" :: .literal content :: rest => (some content, rest)
  | rest => (none, rest)

/-- A test behind the name of its column, with what follows it. -/
def asked? (column : String) : List Token → Option (Atom × List Token)
  | .word "IS" :: .word "NULL" :: rest => some (.isNull column false, rest)
  | .word "IS" :: .word "NOT" :: .word "NULL" :: rest => some (.isNull column true, rest)
  | .word "LIKE" :: .sign "?" :: rest =>
    let (escape, rest) := escape? rest
    some (.like column false escape, rest)
  | .word "NOT" :: .word "LIKE" :: .sign "?" :: rest =>
    let (escape, rest) := escape? rest
    some (.like column true escape, rest)
  | .sign sign :: .sign "?" :: rest =>
    if comparisonSigns.contains sign then some (.compare column sign, rest) else none
  | _ => none

/-- The test at the start of some tokens, with what follows it. -/
def atom? : List Token → Option (Atom × List Token)
  | .word column :: rest => asked? column rest
  | _ => none

mutual

/-- The condition at the start of some tokens, with what follows it. The first argument bounds the
nesting of calls. -/
def condition? : Nat → List Token → Option (Expression × List Token)
  | 0, _ => none
  | fuel + 1, tokens => do
    let (first, rest) ← alternative? fuel tokens
    alternatives? fuel first rest

/-- The condition that has begun with some alternatives. -/
def alternatives? : Nat → Expression → List Token → Option (Expression × List Token)
  | fuel + 1, left, .word "OR" :: rest => do
    let (right, rest) ← alternative? fuel rest
    alternatives? fuel (.join .or left right) rest
  | _, left, rest => some (left, rest)

/-- The alternative at the start of some tokens, with what follows it. -/
def alternative? : Nat → List Token → Option (Expression × List Token)
  | 0, _ => none
  | fuel + 1, tokens => do
    let (first, rest) ← factor? fuel tokens
    factors? fuel first rest

/-- The alternative that has begun with some factors. -/
def factors? : Nat → Expression → List Token → Option (Expression × List Token)
  | fuel + 1, left, .word "AND" :: rest => do
    let (right, rest) ← factor? fuel rest
    factors? fuel (.join .and left right) rest
  | _, left, rest => some (left, rest)

/-- The factor at the start of some tokens, with what follows it. -/
def factor? : Nat → List Token → Option (Expression × List Token)
  | fuel + 1, .sign "(" :: rest => do
    match ← condition? fuel rest with
    | (inner, .sign ")" :: rest) => some (inner, rest)
    | _ => none
  | _, tokens => (atom? tokens).map fun (atom, rest) => (.atom atom, rest)

end

/-! ### What is read of joined parts -/

/-- Tokens that are read as one factor, whatever follows them but an escape character. The bound on
the nesting of calls grows with the number of tokens. -/
def IsFactor (tokens : List Token) (e : Expression) : Prop :=
  ∀ fuel rest, 3 * tokens.length ≤ fuel → rest.head? ≠ some (.word "ESCAPE") →
    factor? fuel (tokens ++ rest) = some (e, rest)

/-- Whether a condition ends before some tokens. -/
def EndsCondition (rest : List Token) : Prop :=
  rest.head? ≠ some (.word "AND") ∧ rest.head? ≠ some (.word "OR") ∧
    rest.head? ≠ some (.word "ESCAPE")

/-- Tokens that are read as one condition. -/
def IsCondition (tokens : List Token) (e : Expression) : Prop :=
  ∀ fuel rest, 3 * tokens.length + 2 ≤ fuel → EndsCondition rest →
    condition? fuel (tokens ++ rest) = some (e, rest)

/-- The tokens of further parts, each behind the word of its combinator. -/
def furtherTokens (combinator : Combinator) (parts : List (List Token)) : List Token :=
  parts.flatMap fun part => .word combinator.word :: part

theorem factors?_of_head (fuel : Nat) (left : Expression) (rest : List Token)
    (other : rest.head? ≠ some (.word "AND")) : factors? fuel left rest = some (left, rest) := by
  unfold factors?
  split
  · exact absurd rfl other
  · rfl

theorem alternatives?_of_head (fuel : Nat) (left : Expression) (rest : List Token)
    (other : rest.head? ≠ some (.word "OR")) :
    alternatives? fuel left rest = some (left, rest) := by
  unfold alternatives?
  split
  · exact absurd rfl other
  · rfl

/-- Behind a part stands the word of a combinator, or what follows all parts. -/
theorem head_furtherTokens_ne (combinator : Combinator) (parts : List (List Token))
    (rest : List Token) (token : Token) (notWord : .word combinator.word ≠ token)
    (notRest : rest.head? ≠ some token) :
    (furtherTokens combinator parts ++ rest).head? ≠ some token := by
  cases parts with
  | nil => exact notRest
  | cons part others =>
    rw [furtherTokens, List.flatMap_cons, List.append_assoc, List.cons_append, List.head?_cons]
    exact fun same => notWord (Option.some_inj.mp same)

theorem alternative?_factor {tokens : List Token} {e : Expression} (factor : IsFactor tokens e)
    (fuel : Nat) (rest : List Token) (enough : 3 * tokens.length + 1 ≤ fuel)
    (notAnd : rest.head? ≠ some (.word "AND")) (notEscape : rest.head? ≠ some (.word "ESCAPE")) :
    alternative? fuel (tokens ++ rest) = some (e, rest) := by
  obtain ⟨fuel, rfl⟩ : ∃ less, fuel = less + 1 := ⟨fuel - 1, by omega⟩
  rw [alternative?, factor fuel rest (by omega) notEscape]
  exact factors?_of_head fuel e rest notAnd

/-- Factors joined by `AND` are read from the left. -/
theorem factors?_further {parts : List (List Token)} {es : List Expression}
    (factors : List.Forall₂ IsFactor parts es) (fuel : Nat) (left : Expression)
    (rest : List Token) (enough : 3 * (furtherTokens .and parts).length ≤ fuel)
    (ends : EndsCondition rest) :
    factors? fuel left (furtherTokens .and parts ++ rest) =
      some (es.foldl (.join .and) left, rest) := by
  induction factors generalizing fuel left with
  | nil => exact factors?_of_head fuel left rest ends.1
  | @cons part e parts es factor others inductionHypothesis =>
    have split : furtherTokens .and (part :: parts) =
        .word "AND" :: part ++ furtherTokens .and parts := rfl
    rw [split, List.length_append, List.length_cons] at enough
    obtain ⟨fuel, rfl⟩ : ∃ less, fuel = less + 1 := ⟨fuel - 1, by omega⟩
    have next := factor fuel (furtherTokens .and parts ++ rest) (by omega)
      (head_furtherTokens_ne _ _ _ _ (by decide) ends.2.2)
    rw [split, List.append_assoc, List.cons_append, factors?, next]
    exact inductionHypothesis fuel (.join .and left e) (by omega)

/-- Factors joined by `OR` are read from the left. -/
theorem alternatives?_further {parts : List (List Token)} {es : List Expression}
    (factors : List.Forall₂ IsFactor parts es) (fuel : Nat) (left : Expression)
    (rest : List Token) (enough : 3 * (furtherTokens .or parts).length ≤ fuel)
    (ends : EndsCondition rest) :
    alternatives? fuel left (furtherTokens .or parts ++ rest) =
      some (es.foldl (.join .or) left, rest) := by
  induction factors generalizing fuel left with
  | nil => exact alternatives?_of_head fuel left rest ends.2.1
  | @cons part e parts es factor others inductionHypothesis =>
    have split : furtherTokens .or (part :: parts) =
        .word "OR" :: part ++ furtherTokens .or parts := rfl
    rw [split, List.length_append, List.length_cons] at enough
    obtain ⟨fuel, rfl⟩ : ∃ less, fuel = less + 1 := ⟨fuel - 1, by omega⟩
    have next := alternative?_factor factor fuel (furtherTokens .or parts ++ rest) (by omega)
      (head_furtherTokens_ne _ _ _ _ (by decide) ends.1)
      (head_furtherTokens_ne _ _ _ _ (by decide) ends.2.2)
    rw [split, List.append_assoc, List.cons_append, alternatives?, next]
    exact inductionHypothesis fuel (.join .or left e) (by omega)

/-- Factors joined by one combinator are read as one condition, joined from the left. -/
theorem isCondition_joined (combinator : Combinator) {part : List Token} {e : Expression}
    {parts : List (List Token)} {es : List Expression} (factor : IsFactor part e)
    (factors : List.Forall₂ IsFactor parts es) :
    IsCondition (part ++ furtherTokens combinator parts) (es.foldl (.join combinator) e) := by
  intro fuel rest enough ends
  rw [List.length_append] at enough
  obtain ⟨fuel, rfl⟩ : ∃ less, fuel = less + 2 := ⟨fuel - 2, by omega⟩
  rw [List.append_assoc]
  cases combinator with
  | and =>
    have first := factor fuel (furtherTokens .and parts ++ rest) (by omega)
      (head_furtherTokens_ne _ _ _ _ (by decide) ends.2.2)
    have others := factors?_further factors fuel e rest (by omega) ends
    rw [condition?, alternative?, first]
    simp only [Option.bind_eq_bind, Option.bind_some, others]
    exact alternatives?_of_head _ _ _ ends.2.1
  | or =>
    have first := alternative?_factor factor (fuel + 1) (furtherTokens .or parts ++ rest) (by omega)
      (head_furtherTokens_ne _ _ _ _ (by decide) ends.1)
      (head_furtherTokens_ne _ _ _ _ (by decide) ends.2.2)
    rw [condition?, first]
    exact alternatives?_further factors (fuel + 1) e rest (by omega) ends

/-- A condition in parentheses is read as one factor. -/
theorem isFactor_parenthesized {tokens : List Token} {e : Expression}
    (condition : IsCondition tokens e) : IsFactor (.sign "(" :: tokens ++ [.sign ")"]) e := by
  intro fuel rest enough _
  rw [List.length_append, List.length_cons] at enough
  obtain ⟨fuel, rfl⟩ : ∃ less, fuel = less + 1 := ⟨fuel - 1, by omega⟩
  have inner := condition fuel (.sign ")" :: rest) (by omega)
    (by simp only [EndsCondition, List.head?_cons]; decide)
  rw [List.append_assoc, List.cons_append, List.singleton_append, factor?, inner]
  rfl

example :
    condition? 20 [.word "a", .sign "=", .sign "?", .word "OR", .sign "(", .word "b", .sign "=",
      .sign "?", .word "OR", .word "c", .word "IS", .word "NULL", .sign ")", .word "AND", .word "d",
      .sign "<", .sign "?"] =
    some (.join .or (.atom (.compare "a" "="))
      (.join .and (.join .or (.atom (.compare "b" "=")) (.atom (.isNull "c" false)))
        (.atom (.compare "d" "<"))), []) := by
  rfl

/-! ### The grammar of statements -/

/-- A statement that selects rows, as it is read. -/
structure Select where
  columns : List String
  table : String
  filter : Option Expression
  sortColumn : String
  sortOrder : String
  isLimited : Bool
  hasOffset : Bool
  deriving DecidableEq, Repr

/-- Names with commas between them, with what follows them. -/
def names? : List Token → Option (List String × List Token)
  | .word name :: .sign "," :: rest => (names? rest).map fun (names, rest) => (name :: names, rest)
  | .word name :: rest => some ([name], rest)
  | _ => none

/-- The condition behind `WHERE`, if there is one, with what follows it. Every token takes part in
three calls at most. -/
def filter? : List Token → Option (Option Expression × List Token)
  | .word "WHERE" :: rest =>
    (condition? (3 * rest.length + 2) rest).map fun (filter, rest) => (some filter, rest)
  | rest => some (none, rest)

/-- Whether a number of rows follows a word, with what follows that. -/
def count? (word : String) : List Token → Bool × List Token
  | .word first :: .sign "?" :: rest =>
    if first = word then (true, rest) else (false, .word first :: .sign "?" :: rest)
  | rest => (false, rest)

/-- The statement that some tokens make up. -/
def select? : List Token → Option Select
  | .word "SELECT" :: rest => do
    match ← names? rest with
    | (columns, .word "FROM" :: .word table :: rest) =>
      match ← filter? rest with
      | (filter, .word "ORDER" :: .word "BY" :: .word sortColumn :: .word sortOrder :: rest) =>
        let (isLimited, rest) := count? "LIMIT" rest
        let (hasOffset, rest) := count? "OFFSET" rest
        if rest.isEmpty then
          some ⟨columns, table, filter, sortColumn, sortOrder, isLimited, hasOffset⟩
        else none
      | _ => none
    | _ => none
  | _ => none

/-- The statement that a text writes. -/
def Select.ofText? (text : String) : Option Select := select? (tokens text.toList)

end ApplicationLedger.Sql
