/-
This file writes JSON values: compactly for messages and cells, and over several lines for the
terminal. In strings the quote, the backslash and the controls are escaped, all else stands as it
is.
-/

import ApplicationLedger.Json.Basic
import ApplicationLedger.Number.Digits

namespace ApplicationLedger.Json

/-- One character of a string. -/
def escapedChar (c : Char) : List Char :=
  if c = '"' then ['\\', '"']
  else if c = '\\' then ['\\', '\\']
  else if c = '\n' then ['\\', 'n']
  else if c = '\r' then ['\\', 'r']
  else if c = '\t' then ['\\', 't']
  else if c = '\x08' then ['\\', 'b']
  else if c = '\x0c' then ['\\', 'f']
  else if c.toNat < 0x20 then
    ['\\', 'u', '0', '0', Nat.digitChar (c.toNat / 16), Nat.digitChar (c.toNat % 16)]
  else [c]

/-- Whether a character of a string has to be escaped. -/
def needsEscape (c : Char) : Bool :=
  c = '"' || c = '\\' || c.toNat < 0x20

/-- A string between quotes. Most strings have nothing to escape. -/
def stringText (value : String) : String :=
  if value.any needsEscape then
    "\"" ++ String.ofList (value.toList.flatMap escapedChar) ++ "\""
  else "\"" ++ value ++ "\""

/-- A number. -/
def numberText : JsonNumber → String
  | .integer value => toString value
  | .real value => value.messageText

mutual

/-- The value as a compact text. What a broken text has in place of a value is written as `null`. -/
def compact : Json → String
  | .null => "null"
  | .boolean true => "true"
  | .boolean false => "false"
  | .number value => numberText value
  | .string value => stringText value
  | .array items => "[" ++ compactItems items ++ "]"
  | .object members => "\x7b" ++ compactMembers members ++ "\x7d"
  | .unreadable => "null"
  | .broken => "null"

/-- The items with commas between them. -/
def compactItems : List Json → String
  | [] => ""
  | [item] => compact item
  | item :: next :: rest => compact item ++ "," ++ compactItems (next :: rest)

/-- The members with commas between them. -/
def compactMembers : List (String × Json) → String
  | [] => ""
  | [(name, value)] => stringText name ++ ":" ++ compact value
  | (name, value) :: next :: rest =>
    stringText name ++ ":" ++ compact value ++ "," ++ compactMembers (next :: rest)

end

/-- The start of a line at a level, two blanks for each. -/
def indentation (level : Nat) : String :=
  "\n" ++ String.ofList (List.replicate (2 * level) ' ')

mutual

/-- The value over several lines, from a level on. -/
def prettyAt (level : Nat) : Json → String
  | .array [] => "[]"
  | .array (item :: rest) =>
    "[" ++ prettyItems (level + 1) (item :: rest) ++ indentation level ++ "]"
  | .object [] => "\x7b\x7d"
  | .object (member :: rest) =>
    "\x7b" ++ prettyMembers (level + 1) (member :: rest) ++ indentation level ++ "\x7d"
  | value => compact value

/-- The items, each on a line of its own. -/
def prettyItems (level : Nat) : List Json → String
  | [] => ""
  | [item] => indentation level ++ prettyAt level item
  | item :: next :: rest =>
    indentation level ++ prettyAt level item ++ "," ++ prettyItems level (next :: rest)

/-- The members, each on a line of its own. -/
def prettyMembers (level : Nat) : List (String × Json) → String
  | [] => ""
  | [(name, value)] => indentation level ++ stringText name ++ ": " ++ prettyAt level value
  | (name, value) :: next :: rest =>
    indentation level ++ stringText name ++ ": " ++ prettyAt level value ++ "," ++
      prettyMembers level (next :: rest)

end

/-- The value over several lines. -/
def pretty (value : Json) : String := prettyAt 0 value

end ApplicationLedger.Json
