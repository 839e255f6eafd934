/-
This file writes a text between double quotes, the way it stands in messages: the quote, the
backslash and the common controls are escaped by a letter, and every other character without a
visible form of its own by its code point. It also writes a list of texts between brackets.
-/

import ApplicationLedger.Text.Unprintable

namespace ApplicationLedger.Text

/-- One character inside quotes. -/
def quotedChar (c : Char) : List Char :=
  if c == '\x00' then ['\\', '0']
  else if c == '\t' then ['\\', 't']
  else if c == '\r' then ['\\', 'r']
  else if c == '\n' then ['\\', 'n']
  else if c == '"' || c == '\\' then ['\\', c]
  else if isUnprintable c then ['\\', 'u', '{'] ++ Nat.toDigits 16 c.toNat ++ ['}']
  else [c]

/-- The text between double quotes. -/
def quoted (text : String) : String :=
  "\"" ++ String.ofList (text.toList.flatMap quotedChar) ++ "\""

/-- The path between double quotes; a single quote is escaped in it too. -/
def quotedPath (path : String) : String :=
  "\"" ++ String.ofList (path.toList.flatMap fun c =>
    if c == '\x27' then ['\\', c] else quotedChar c) ++ "\""

/-- The texts, each quoted, between brackets. -/
def quotedList (texts : List String) : String :=
  "[" ++ ", ".intercalate (texts.map quoted) ++ "]"

end ApplicationLedger.Text
