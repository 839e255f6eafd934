/-
This file reads TOML documents. A document is a sequence of statements, one a line: headers that
open tables, and names with their values. They are carried out one after the other on the tables so
far, and any of them can be refused.
-/

import ApplicationLedger.Toml.Scalar

namespace ApplicationLedger.Toml

/-! ### Between statements and items -/

/-- The text without the blanks, ends of lines and comments at its start. -/
def skipSpace (inComment : Bool) : List Char → List Char
  | [] => []
  | c :: rest =>
    if c = '\n' then skipSpace false rest
    else if inComment then (if isVisible c then skipSpace true rest else c :: rest)
    else if isBlank c then skipSpace false rest
    else if c = '#' then skipSpace true rest
    else c :: rest

/-- Whether nothing but a comment follows on the line. -/
def isLineEnd (text : List Char) : Bool :=
  match skipBlanks text with
  | [] => true
  | c :: _ => c == '\n' || c == '#'

/-! ### Values -/

/-- How deep arrays and inline tables may nest. -/
def greatestNesting : Nat := 79

/-- How many names a dotted name may have. -/
def greatestPath : Nat := 79

/-- A reader of values. -/
abbrev ValueScan := List Char → Option (Toml × List Char)

/-- The items of an array from the next one or the closing bracket on. Every item takes at least one
character, which bounds the calls. -/
def scanItems (scanValue : ValueScan) : Nat → List Char → Option (List Toml × List Char)
  | 0, _ => none
  | fuel + 1, text =>
    match skipSpace false text with
    | ']' :: rest => some ([], rest)
    | text => do
      let (item, rest) ← scanValue text
      match skipSpace false rest with
      | ']' :: rest => some ([item], rest)
      | ',' :: rest => do
        let (items, rest) ← scanItems scanValue fuel rest
        some (item :: items, rest)
      | _ => none

/-- A dotted name and its value, blanks around each of them. -/
def scanAssignment (scanValue : ValueScan) (text : List Char) :
    Option (List String × Toml × List Char) := do
  let (path, rest) ← scanPath greatestPath text
  let (value, rest) ← scanValue (skipBlanks (← Instant.expect '=' rest))
  some (path, value, skipBlanks rest)

/-- The members of an inline table from the next one on, given those before. All of them stand on
one line. -/
def scanMembers (scanValue : ValueScan) : Nat → Members → List Char → Option (Toml × List Char)
  | 0, _, _ => none
  | fuel + 1, members, text => do
    let (path, value, rest) ← scanAssignment scanValue text
    let members ← members.assign value true path
    match rest with
    | '}' :: rest => some (.table (finishedMembers members), rest)
    | ',' :: rest => scanMembers scanValue fuel members rest
    | _ => none

/-- The value at the start of a text, with at most so many levels of arrays and inline tables. -/
def scanValue : Nat → ValueScan
  | levels, text =>
    match text with
    | 't' :: 'r' :: 'u' :: 'e' :: rest => some (.boolean true, rest)
    | 'f' :: 'a' :: 'l' :: 's' :: 'e' :: rest => some (.boolean false, rest)
    | '[' :: rest =>
      match levels with
      | 0 => none
      | levels + 1 => do
        let (items, rest) ← scanItems (scanValue levels) text.length rest
        some (.array items, rest)
    | '{' :: rest =>
      match levels with
      | 0 => none
      | levels + 1 =>
        match skipBlanks rest with
        | '}' :: rest => some (.table [], rest)
        | rest => scanMembers (scanValue levels) text.length [] rest
    | text =>
      match scanAnyString text with
      | some (value, rest) => some (.string value, rest)
      | none => (scanMoment text).or (scanNumber text)

/-! ### Documents -/

/-- A line of a document. -/
inductive Statement where
  | openTable (path : List String)
  | openItem (path : List String)
  | assign (path : List String) (value : Toml)

/-- The statement at the start of a text. -/
def scanStatement : List Char → Option (Statement × List Char)
  | '[' :: '[' :: text => do
    match ← scanPath greatestPath text with
    | (path, ']' :: ']' :: rest) => some (.openItem path, rest)
    | _ => none
  | '[' :: text => do
    match ← scanPath greatestPath text with
    | (path, ']' :: rest) => some (.openTable path, rest)
    | _ => none
  | text => do
    let (path, value, rest) ← scanAssignment (scanValue greatestNesting) text
    some (.assign path value, rest)

/-- The statements of a text. Every statement takes at least one character, which bounds the
calls. -/
def scanStatements : Nat → List Char → Option (List Statement)
  | 0, _ => none
  | fuel + 1, text =>
    match skipSpace false text with
    | [] => some []
    | text => do
      let (statement, rest) ← scanStatement text
      if isLineEnd rest then do some (statement :: (← scanStatements fuel rest)) else none

/-- Carries out statements below the header that was opened last. -/
def carryOut (members : Members) (header : List String) : List Statement → Option Members
  | [] => some members
  | .openTable path :: rest => do carryOut (← members.openTable path) path rest
  | .openItem path :: rest => do carryOut (← members.openItem path) path rest
  | .assign path value :: rest => do
    carryOut (← members.assignBelow header path value) header rest

/-- The text with a line feed alone at the end of every line. -/
def withLineFeeds : List Char → List Char
  | [] => []
  | '\r' :: '\n' :: rest => '\n' :: withLineFeeds rest
  | c :: rest => c :: withLineFeeds rest

/-- The text without a byte order mark in front. -/
def withoutMark : List Char → List Char
  | '\ufeff' :: rest => rest
  | text => text

/-- The members of the document that makes up all of a text. -/
def ofText? (text : String) : Option (List (String × Toml)) := do
  let statements ← scanStatements (text.length + 1) (withLineFeeds (withoutMark text.toList))
  let members ← carryOut [] [] statements
  some (finishedMembers members)

end ApplicationLedger.Toml
