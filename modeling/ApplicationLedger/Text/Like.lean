/-
This file says when a text matches a pattern. In a pattern, `%` stands for any run of characters,
`_` for any one character, and an escape character, if there is one, makes the next character stand
for itself. Letters of ASCII match in either case; all other characters match only themselves.
Patterns that look for a part of a text escape the part first.
-/

namespace ApplicationLedger.Text

/-- The character with an ASCII capital made small. -/
def foldCase (c : Char) : Char := c.toLower

/-- One element of a pattern. -/
inductive PatternItem where
  | literal (c : Char)
  | anyOne
  | anyRun
  deriving DecidableEq, Repr

/-- The elements of a pattern. An escape character at the end leaves a pattern that nothing
matches. -/
def patternItems (escape : Option Char) : List Char → Option (List PatternItem)
  | [] => some []
  | c :: rest =>
    if some c = escape then
      match rest with
      | [] => none
      | next :: rest => (patternItems escape rest).map (.literal next :: ·)
    else if c = '%' then (patternItems escape rest).map (.anyRun :: ·)
    else if c = '_' then (patternItems escape rest).map (.anyOne :: ·)
    else (patternItems escape rest).map (.literal c :: ·)

/-- Whether a predicate holds for some rest of a list, the whole list and the empty one included. -/
def someRest (holds : List Char → Bool) : List Char → Bool
  | [] => holds []
  | c :: rest => holds (c :: rest) || someRest holds rest

/-- Whether a text matches the elements of a pattern. -/
def matchesItems : List PatternItem → List Char → Bool
  | [], text => text.isEmpty
  | .literal c :: items, text =>
    match text with
    | [] => false
    | d :: rest => foldCase c == foldCase d && matchesItems items rest
  | .anyOne :: items, text =>
    match text with
    | [] => false
    | _ :: rest => matchesItems items rest
  | .anyRun :: items, text => someRest (matchesItems items) text

/-- The characters before the first NUL, where matching ends. -/
def beforeNul (text : String) : List Char :=
  text.toList.takeWhile (· != '\x00')

/-- Whether a text matches a pattern. -/
def isLike (escape : Option Char) (pattern text : String) : Bool :=
  match patternItems escape (beforeNul pattern) with
  | none => false
  | some items => matchesItems items (beforeNul text)

/-- The text with a backslash before each character that means something in a pattern. -/
def escapeLike (text : List Char) : List Char :=
  text.flatMap fun c => if c = '%' ∨ c = '_' ∨ c = '\\' then ['\\', c] else [c]

/-- The pattern of the texts that have a given part. -/
def containing (part : String) : String :=
  "%" ++ String.ofList (escapeLike part.toList) ++ "%"

end ApplicationLedger.Text
