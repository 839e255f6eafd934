/-
This file reads the text of a statement as the database does: as a row of tokens, each as long as it
can be. Words are names and keywords, signs are operators and punctuation, and a literal stands
between single quotes, where two quotes in a row mean one. The reader goes through the text one
character at a time and remembers the token it is in the middle of, so what it makes of a text is
what it makes of the parts, as long as no token crosses from one part to the next.
-/

import ApplicationLedger.Query.Statement

namespace ApplicationLedger.Sql

/-! ### Tokens -/

/-- A token of a statement. -/
inductive Token where
  | word (letters : String)
  | sign (characters : String)
  | literal (content : String)
  /-- A literal that does not end. -/
  | broken
  deriving DecidableEq, Repr

/-- A token that has begun and may go on. -/
inductive Begun where
  | nothing
  | word (letters : List Char)
  | sign (characters : List Char)
  | literal (content : List Char)
  /-- A literal up to a quote, which ends it unless another quote follows. -/
  | quote (content : List Char)

/-- Whether a character can stand in a word. -/
def isWordCharacter (c : Char) : Bool := c.isAlphanum || c == '_'

/-- Whether a character makes a longer sign of those before it. -/
def continuesSign : List Char → Char → Bool
  | ['!'], c => c == '='
  | ['='], c => c == '='
  | ['<'], c => c == '=' || c == '>'
  | ['>'], c => c == '='
  | _, _ => false

namespace Begun

/-- What a character begins. -/
def start (c : Char) : Begun :=
  if c == ' ' then nothing
  else if c.isAlpha || c == '_' then word [c]
  else if c == '\'' then literal []
  else sign [c]

/-- The token with one more character, if that belongs to it. -/
def extend? : Begun → Char → Option Begun
  | nothing, _ => none
  | word letters, c => if isWordCharacter c then some (word (letters ++ [c])) else none
  | sign characters, c =>
    if continuesSign characters c then some (sign (characters ++ [c])) else none
  | literal content, c =>
    if c == '\'' then some (quote content) else some (literal (content ++ [c]))
  | quote content, c => if c == '\'' then some (literal (content ++ [c])) else none

/-- The token, if nothing more belongs to it. -/
def finish : Begun → List Token
  | nothing => []
  | word letters => [.word (String.ofList letters)]
  | sign characters => [.sign (String.ofList characters)]
  | literal _ => [.broken]
  | quote content => [.literal (String.ofList content)]

end Begun

/-- The tokens of a text in the middle of a token. -/
def tokensFrom : Begun → List Char → List Token
  | begun, [] => begun.finish
  | begun, c :: rest =>
    match begun.extend? c with
    | some longer => tokensFrom longer rest
    | none => begun.finish ++ tokensFrom (.start c) rest

/-- The tokens of a text. -/
def tokens (text : List Char) : List Token := tokensFrom .nothing text

/-! ### Where tokens end -/

/-- Whether the token before a text ends there: nothing follows, or a character that continues
neither a word nor a placeholder nor a literal. -/
def Separated (text : List Char) : Prop :=
  ∀ c ∈ text.head?, c = ' ' ∨ c = ',' ∨ c = ')'

theorem separated_nil : Separated [] := by
  simp [Separated]

theorem separated_cons (c : Char) (text : List Char) (separates : c = ' ' ∨ c = ',' ∨ c = ')') :
    Separated (c :: text) := by
  intro d member
  rw [List.head?_cons, Option.mem_some_iff] at member
  exact member ▸ separates

/-- A token ends before a text whose first character does not continue it. -/
theorem tokensFrom_of_ends (begun : Begun) (text : List Char)
    (ends : ∀ c ∈ text.head?, begun.extend? c = none) :
    tokensFrom begun text = begun.finish ++ tokens text := by
  cases text with
  | nil => exact (List.append_nil _).symm
  | cons c rest =>
    rw [tokensFrom, ends c rfl]
    rfl

/-- Characters of words go into the word that has begun. -/
theorem tokensFrom_word_append (begun letters text : List Char)
    (all : letters.all isWordCharacter = true) :
    tokensFrom (.word begun) (letters ++ text) = tokensFrom (.word (begun ++ letters)) text := by
  induction letters generalizing begun with
  | nil => rw [List.nil_append, List.append_nil]
  | cons c rest inductionHypothesis =>
    rw [List.all_cons, Bool.and_eq_true] at all
    have longer := inductionHypothesis (begun ++ [c]) all.2
    simp only [List.cons_append, tokensFrom, Begun.extend?, all.1, if_true]
    rw [longer, List.append_assoc, List.singleton_append]

/-! ### Reading words and signs -/

/-- Whether a text is a word. -/
def isWord : List Char → Bool
  | [] => false
  | c :: rest => (c.isAlpha || c == '_') && (c :: rest).all isWordCharacter

/-- A word is read as one token. -/
theorem tokens_word_append (letters text : List Char) (word : isWord letters = true)
    (separated : Separated text) :
    tokens (letters ++ text) = .word (String.ofList letters) :: tokens text := by
  cases letters with
  | nil => cases word
  | cons c rest =>
    rw [isWord, Bool.and_eq_true, List.all_cons, Bool.and_eq_true] at word
    obtain ⟨first, _, others⟩ := word
    have notBlank : (c == ' ') = false := by
      rw [beq_eq_false_iff_ne]
      rintro rfl
      cases first
    have begins : Begun.start c = .word [c] := by
      rw [Begun.start, notBlank, if_neg Bool.false_ne_true, if_pos first]
    have ends : ∀ d ∈ text.head?, (Begun.word (c :: rest)).extend? d = none := by
      intro d member
      rcases separated d member with rfl | rfl | rfl <;> rfl
    rw [tokens, List.cons_append, tokensFrom]
    show tokensFrom (Begun.start c) (rest ++ text) = _
    rw [begins, tokensFrom_word_append _ _ _ others, List.singleton_append,
      tokensFrom_of_ends _ _ ends]
    rfl

theorem tokens_blank (text : List Char) : tokens (' ' :: text) = tokens text := rfl

theorem tokens_word_blank (letters : String) (text : List Char)
    (word : isWord letters.toList = true) :
    tokens (letters.toList ++ ' ' :: text) = .word letters :: tokens text := by
  rw [tokens_word_append _ _ word (separated_cons ' ' _ (.inl rfl)), String.ofList_toList,
    tokens_blank]

/-- A sign that no character continues is read as one token. -/
theorem tokens_sign (c : Char) (text : List Char) (begins : Begun.start c = .sign [c])
    (single : ∀ d, continuesSign [c] d = false) :
    tokens (c :: text) = .sign (String.singleton c) :: tokens text := by
  have ends : ∀ d ∈ text.head?, (Begun.sign [c]).extend? d = none := by
    intro d _
    rw [Begun.extend?, single d, if_neg Bool.false_ne_true]
  show tokensFrom (Begun.start c) text = _
  rw [begins, tokensFrom_of_ends _ _ ends]
  rfl

theorem tokens_open (text : List Char) : tokens ('(' :: text) = .sign "(" :: tokens text :=
  tokens_sign '(' text rfl fun _ => rfl

theorem tokens_close (text : List Char) : tokens (')' :: text) = .sign ")" :: tokens text :=
  tokens_sign ')' text rfl fun _ => rfl

theorem tokens_comma (text : List Char) : tokens (',' :: text) = .sign "," :: tokens text :=
  tokens_sign ',' text rfl fun _ => rfl

theorem tokens_placeholder (text : List Char) : tokens ('?' :: text) = .sign "?" :: tokens text :=
  tokens_sign '?' text rfl fun _ => rfl

end ApplicationLedger.Sql
