/-
This file reads the parts of a TOML text that hold no others: names, strings, numbers and moments.
Every reader here takes what it reads from the start of a text and gives back the rest. Lines end in
a line feed alone; `Toml.ofText?` sees to that.
-/

import ApplicationLedger.Instant.Reader
import ApplicationLedger.Json.Reader
import ApplicationLedger.Toml.Basic

namespace ApplicationLedger.Toml

/-- A blank inside a line. -/
def isBlank (c : Char) : Bool := c == ' ' || c == '\t'

/-- The text without the blanks at its start. -/
def skipBlanks (text : List Char) : List Char := text.dropWhile isBlank

/-- A character that comments and strings may hold inside a line. -/
def isVisible (c : Char) : Bool := c == '\t' || (0x20 ≤ c.toNat && c.toNat != 0x7f)

/-! ### Strings -/

/-- The character of an escape by letter. -/
def letterEscape? (c : Char) : Option Char :=
  if c = '"' ∨ c = '\\' then some c
  else if c = 'b' then some '\x08'
  else if c = 'f' then some '\x0c'
  else if c = 'n' then some '\n'
  else if c = 'r' then some '\r'
  else if c = 't' then some '\t'
  else none

/-- The character with these hexadecimal digits, if there is one. -/
def scalar? (digits : List Char) : Option Char := do
  let values ← digits.mapM Json.hexValue?
  let code := values.foldl (fun code value => code * 16 + value) 0
  if code.isValidChar then some (Char.ofNat code) else none

/-- The rest of a string behind its quote, with the characters so far, the last one first. -/
def scanString (reversed : List Char) : List Char → Option (String × List Char)
  | [] => none
  | '"' :: rest => some (String.ofList reversed.reverse, rest)
  | '\\' :: 'u' :: a :: b :: c :: d :: rest => do
    scanString ((← scalar? [a, b, c, d]) :: reversed) rest
  | '\\' :: 'U' :: a :: b :: c :: d :: e :: f :: g :: h :: rest => do
    scanString ((← scalar? [a, b, c, d, e, f, g, h]) :: reversed) rest
  | '\\' :: letter :: rest => do scanString ((← letterEscape? letter) :: reversed) rest
  | c :: rest => if isVisible c && c != '\\' then scanString (c :: reversed) rest else none

/-- The end of a string of several lines, behind three closing quotes. Up to two more belong to the
string, in front of the closing ones. -/
def closeLong (quote : Char) (reversed : List Char) (text : List Char) : String × List Char :=
  let extra := (text.takeWhile (· == quote)).take 2
  (String.ofList (reversed.reverse ++ extra), text.drop extra.length)

/-- Whether the line has nothing but blanks from here on, and another line follows. -/
def endsLine (text : List Char) : Bool := (skipBlanks text).head? == some '\n'

/-- The rest of a string of several lines behind its quotes. While `skipping`, blanks and ends of
lines do not count: a backslash was the last character of its line. -/
def scanLongString (reversed : List Char) (skipping : Bool) :
    List Char → Option (String × List Char)
  | [] => none
  | '"' :: '"' :: '"' :: rest => some (closeLong '"' reversed rest)
  | '\\' :: 'u' :: a :: b :: c :: d :: rest => do
    scanLongString ((← scalar? [a, b, c, d]) :: reversed) false rest
  | '\\' :: 'U' :: a :: b :: c :: d :: e :: f :: g :: h :: rest => do
    scanLongString ((← scalar? [a, b, c, d, e, f, g, h]) :: reversed) false rest
  | '\\' :: rest =>
    if endsLine rest then scanLongString reversed true rest
    else
      match rest with
      | [] => none
      | letter :: rest => do scanLongString ((← letterEscape? letter) :: reversed) false rest
  | c :: rest =>
    if skipping && (isBlank c || c == '\n') then scanLongString reversed true rest
    else if isVisible c || c == '\n' then scanLongString (c :: reversed) false rest
    else none

/-- The rest of a literal string behind its quote. -/
def scanLiteral (text : List Char) : Option (String × List Char) :=
  let content := text.takeWhile fun c => isVisible c && c != '\x27'
  match text.drop content.length with
  | '\x27' :: rest => some (String.ofList content, rest)
  | _ => none

/-- The rest of a literal string of several lines behind its quotes. -/
def scanLongLiteral (reversed : List Char) : List Char → Option (String × List Char)
  | [] => none
  | '\x27' :: '\x27' :: '\x27' :: rest => some (closeLong '\x27' reversed rest)
  | c :: rest =>
    if isVisible c || c == '\n' then scanLongLiteral (c :: reversed) rest else none

/-- A string of several lines does not hold the end of the line of its opening quotes. -/
def behindOpening : List Char → List Char
  | '\n' :: rest => rest
  | text => text

/-- A string of any form; nothing if there is none. -/
def scanAnyString : List Char → Option (String × List Char)
  | '"' :: '"' :: '"' :: rest => scanLongString [] false (behindOpening rest)
  | '"' :: rest => scanString [] rest
  | '\x27' :: '\x27' :: '\x27' :: rest => scanLongLiteral [] (behindOpening rest)
  | '\x27' :: rest => scanLiteral rest
  | _ => none

/-! ### Names -/

/-- A character of a name without quotes. -/
def isNameChar (c : Char) : Bool := c.isAlphanum || c == '_' || c == '-'

/-- One name. -/
def scanName : List Char → Option (String × List Char)
  | '"' :: rest => scanString [] rest
  | '\x27' :: rest => scanLiteral rest
  | text =>
    let name := text.takeWhile isNameChar
    if name.isEmpty then none else some (String.ofList name, text.drop name.length)

/-- Names with dots between them and blanks around them; as many as the first argument at most. -/
def scanPath : Nat → List Char → Option (List String × List Char)
  | 0, _ => none
  | most + 1, text => do
    let (name, rest) ← scanName (skipBlanks text)
    match skipBlanks rest with
    | '.' :: rest => do
      let (path, rest) ← scanPath most rest
      some (name :: path, rest)
    | rest => some ([name], rest)

/-! ### Numbers -/

/-- Digits, a single underscore allowed between two of them. -/
def scanDigits (isDigit : Char → Bool) : List Char → List Char × List Char
  | [] => ([], [])
  | c :: rest =>
    if isDigit c then
      match rest with
      | '_' :: d :: behind =>
        if isDigit d then
          let (digits, rest) := scanDigits isDigit (d :: behind)
          (c :: digits, rest)
        else ([c], rest)
      | rest =>
        let (digits, rest) := scanDigits isDigit rest
        (c :: digits, rest)
    else ([], c :: rest)

/-- The least and the greatest whole number. -/
def integerRange : Int × Int := (-Int.pow 2 63, Int.pow 2 63 - 1)

/-- A whole number, if it is in range. -/
def integer? (value : Int) : Option Toml :=
  if integerRange.1 ≤ value ∧ value ≤ integerRange.2 then some (.integer value) else none

/-- A whole number in a base of 2, 8 or 16 behind its mark. -/
def scanBased (base : Nat) (text : List Char) : Option (Toml × List Char) := do
  let (digits, rest) := scanDigits (fun c => (Json.hexValue? c).any (· < base)) text
  if digits.isEmpty then none
  let values ← digits.mapM Json.hexValue?
  let value := values.foldl (fun number value => number * base + value) 0
  some (← integer? (Int.ofNat value), rest)

/-- The exponent at the start of a text, if there is one; nothing when it has no digits. -/
def scanExponent : List Char → Option (Option Int × List Char)
  | [] => some (none, [])
  | e :: rest =>
    if e = 'e' ∨ e = 'E' then
      let (negative, rest) := Decimal.sign rest
      let (digits, rest) := scanDigits Char.isDigit rest
      if digits.isEmpty then none
      else
        let power := Int.ofNat (digitsValue digits)
        some (some (if negative then -power else power), rest)
    else some (none, e :: rest)

/-- The fraction digits behind the point at the start of a text, if there is one; nothing when none
follow it. -/
def scanFraction : List Char → Option (Option (List Char) × List Char)
  | '.' :: rest =>
    let (digits, rest) := scanDigits Char.isDigit rest
    if digits.isEmpty then none else some (some digits, rest)
  | text => some (none, text)

/-- A floating point number. It may be too small for one, but not too large. -/
def real? (value : Binary64) : Option Toml :=
  if value = .infinite false then none else some (.real value)

/-- A number in decimal notation behind its sign. A leading zero stands alone. -/
def scanDecimal (negative : Bool) (text : List Char) : Option (Toml × List Char) := do
  let (whole, rest) :=
    match text with
    | '0' :: rest => (['0'], rest)
    | text => scanDigits Char.isDigit text
  if whole.isEmpty then none
  let (fraction, rest) ← scanFraction rest
  let (exponent, rest) ← scanExponent rest
  if fraction.isNone && exponent.isNone then
    let value := Int.ofNat (digitsValue whole)
    some (← integer? (if negative then -value else value), rest)
  else
    let fraction := fraction.getD []
    let value := Binary64.ofDecimal negative (digitsValue (whole ++ fraction))
      (exponent.getD 0 - Int.ofNat fraction.length)
    some (← real? value, rest)

/-- A number of any form. -/
def scanNumber : List Char → Option (Toml × List Char)
  | '0' :: 'x' :: rest => scanBased 16 rest
  | '0' :: 'o' :: rest => scanBased 8 rest
  | '0' :: 'b' :: rest => scanBased 2 rest
  | text =>
    let (negative, unsigned) := Decimal.sign text
    match unsigned with
    | 'i' :: 'n' :: 'f' :: rest => some (.real (.infinite negative), rest)
    | 'n' :: 'a' :: 'n' :: rest => some (.notANumber, rest)
    | unsigned => scanDecimal negative unsigned

/-! ### Moments -/

open Instant (expect number fractionPart)

/-- A number of two digits, up to a greatest one. -/
def twoDigits (least greatest : Nat) (text : List Char) : Option (Nat × List Char) := do
  let (value, rest) ← number 2 (some 2) text
  if least ≤ value ∧ value ≤ greatest then some (value, rest) else none

/-- What follows a date at the start of a text. -/
def skipDate (text : List Char) : Option (List Char) := do
  let (year, text) ← number 4 (some 4) text
  let (month, text) ← twoDigits 1 12 (← expect '-' text)
  let (_, text) ← twoDigits 1 (Date.monthLength year month) (← expect '-' text)
  some text

/-- What follows a time of day at the start of a text. -/
def skipTime (text : List Char) : Option (List Char) := do
  let (_, text) ← twoDigits 0 23 text
  let (_, text) ← twoDigits 0 59 (← expect ':' text)
  let (_, text) ← twoDigits 0 60 (← expect ':' text)
  let (_, text) ← fractionPart text
  some text

/-- What follows an offset from universal time at the start of a text, if there is one. -/
def skipOffset : List Char → Option (List Char)
  | 'Z' :: rest => some rest
  | 'z' :: rest => some rest
  | sign :: rest =>
    if sign = '+' ∨ sign = '-' then do
      let (_, text) ← twoDigits 0 23 rest
      let (_, text) ← twoDigits 0 59 (← expect ':' text)
      some text
    else some (sign :: rest)
  | [] => some []

/-- What follows a moment at the start of a text: a date, with or without a time of day and an
offset, or a time of day. -/
def skipMoment (text : List Char) : Option (List Char) :=
  match skipDate text with
  | none => skipTime text
  | some rest =>
    match rest with
    | mark :: behind =>
      if mark = 'T' ∨ mark = 't' then skipTime behind >>= skipOffset
      else if mark = ' ' then
        match skipTime behind with
        | some behind => skipOffset behind
        | none => some rest
      else some rest
    | [] => some []

/-- A moment as written. -/
def scanMoment (text : List Char) : Option (Toml × List Char) := do
  let rest ← skipMoment text
  some (.moment (String.ofList (text.take (text.length - rest.length))), rest)

end ApplicationLedger.Toml
