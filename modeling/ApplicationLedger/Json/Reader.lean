/-
This file reads JSON texts. The reader takes as much of a text as is JSON: where the text breaks off
or goes wrong, the innermost array or object ends with a broken value, and so do those around it. A
string with half a surrogate pair and a number out of range stay behind as unreadable values, and
reading goes on.
-/

import ApplicationLedger.Json.Basic
import ApplicationLedger.Number.Decimal

namespace ApplicationLedger.Json

/-- What follows the value just read, or nothing when the text broke. -/
abbrev Rest := Option (List Char)

/-- The blanks of JSON. -/
def isBlank (c : Char) : Bool := c == ' ' || c == '\n' || c == '\t' || c == '\r'

/-- The text without the blanks at its start. -/
def skipBlanks (text : List Char) : List Char := text.dropWhile isBlank

/-! ### Numbers -/

/-- The parts of a number: its sign, the digits before the point, those behind it and the exponent
with its sign. -/
structure Numeral where
  negative : Bool
  whole : List Char
  fraction : List Char
  exponent : Option (Bool × List Char)

/-- The greatest number of 64 bits. -/
def greatestWord : Nat := Nat.pow 2 64 - 1

/-- Digits taken into a word from the left until the next one would not fit, with the digits that
are left. -/
def takeDigits (word : Nat) : List Char → Nat × List Char
  | [] => (word, [])
  | c :: rest =>
    if word * 10 + digitValue c > greatestWord then (word, c :: rest)
    else takeDigits (word * 10 + digitValue c) rest

/-- `word · 10 ^ power` in floating point steps: one product or quotient by a power of ten up to
308, and quotients by the 308th before that. Nothing is left of a number beyond the range. -/
def scaleWord (word : Nat) (power : Int) : Option Binary64 :=
  let start := Binary64.round false word 1
  if 0 ≤ power then
    if power > 308 then (if word = 0 then some start else none)
    else
      let product := start.mul (.ofDecimal false 1 power)
      if product.isFinite then some product else none
  else
    let rec steps (value : Binary64) (power : Nat) : Nat → Binary64
      | 0 => value
      | left + 1 =>
        if power ≤ 308 then value.div (.ofDecimal false 1 power)
        else steps (value.div (.ofDecimal false 1 308)) (power - 308) left
    if word = 0 then some start else some (steps start power.natAbs 10)

/-- The floating point number of a numeral whose first digits made a word. Whole digits that did not
fit raise the power of ten, fraction digits that did not fit are dropped. An exponent of more than
31 bits makes the number zero or takes it out of range. -/
def Numeral.real? (n : Numeral) (word : Nat) (power : Int) : Option Binary64 :=
  let magnitude : Option Binary64 :=
    match n.exponent with
    | none => scaleWord word power
    | some (negative, digits) =>
      let exponent := digitsValue digits
      if exponent > Nat.pow 2 31 - 1 then
        if word = 0 ∨ negative then some (.zero false) else none
      else scaleWord word (power + if negative then -Int.ofNat exponent else Int.ofNat exponent)
  magnitude.map fun value => if n.negative then value.neg else value

/-- The number of a numeral. Without point and exponent it is whole if it fits; zero with a minus is
not whole. -/
def Numeral.value? (n : Numeral) : Option JsonNumber :=
  let (word, left) := takeDigits 0 n.whole
  if left.isEmpty && n.fraction.isEmpty && n.exponent.isNone then
    if !n.negative then some (.integer word)
    else if word = 0 ∨ word > Nat.pow 2 63 then some (.real (Binary64.round true word 1))
    else some (.integer (-Int.ofNat word))
  else if left.isEmpty then
    let (word, dropped) := takeDigits word n.fraction
    (n.real? word (Int.ofNat dropped.length - Int.ofNat n.fraction.length)).map .real
  else
    let (word, dropped) := takeDigits word n.fraction
    (n.real? word (left.length + dropped.length - n.fraction.length)).map .real

/-- The exponent at the start of a text, if there is one; nothing when it has no digits. -/
def scanExponent (text : List Char) : Option (Option (Bool × List Char) × List Char) :=
  match text with
  | [] => some (none, [])
  | e :: rest =>
    if e = 'e' ∨ e = 'E' then
      let (negative, digits) := Decimal.sign rest
      let run := digits.takeWhile Char.isDigit
      if run.isEmpty then none else some (some (negative, run), digits.dropWhile Char.isDigit)
    else some (none, text)

/-- The number at the start of a text. -/
def scanNumber (text : List Char) : Json × Rest :=
  let (negative, text) := match text with
    | '-' :: rest => (true, rest)
    | text => (false, text)
  let whole := text.takeWhile Char.isDigit
  let text := text.dropWhile Char.isDigit
  if whole.isEmpty || (whole.head? == some '0' && whole.length > 1) then (.broken, none)
  else
    let (fraction, pointed, text) := match text with
      | '.' :: rest => (rest.takeWhile Char.isDigit, true, rest.dropWhile Char.isDigit)
      | text => ([], false, text)
    if pointed && fraction.isEmpty then (.broken, none)
    else
      match scanExponent text with
      | none => (.broken, none)
      | some (exponent, text) =>
        match Numeral.value? ⟨negative, whole, fraction, exponent⟩ with
        | none => (.unreadable, some text)
        | some value => (.number value, some text)

/-! ### Strings -/

/-- The value of a hexadecimal digit. -/
def hexValue? (c : Char) : Option Nat :=
  if '0' ≤ c ∧ c ≤ '9' then some (c.toNat - 48)
  else if 'a' ≤ c ∧ c ≤ 'f' then some (c.toNat - 87)
  else if 'A' ≤ c ∧ c ≤ 'F' then some (c.toNat - 55)
  else none

/-- The value of four hexadecimal digits. -/
def hexUnit? (a b c d : Char) : Option Nat := do
  some ((((← hexValue? a) * 16 + (← hexValue? b)) * 16 + (← hexValue? c)) * 16 + (← hexValue? d))

/-- The character of an escape by letter. -/
def letterEscape? (c : Char) : Option Char :=
  if c = '"' ∨ c = '\\' ∨ c = '/' then some c
  else if c = 'b' then some '\x08'
  else if c = 'f' then some '\x0c'
  else if c = 'n' then some '\n'
  else if c = 'r' then some '\r'
  else if c = 't' then some '\t'
  else none

/-- A string read so far. -/
structure StringScan where
  /-- The characters, the last one first. -/
  reversed : List Char
  /-- The first half of a surrogate pair just before. -/
  lead : Option Nat
  /-- Whether every half of a pair so far has its other half. -/
  isReadable : Bool

/-- The string with one more character. A half of a pair before it stays alone. -/
def StringScan.push (s : StringScan) (c : Char) : StringScan :=
  ⟨c :: s.reversed, none, s.isReadable && s.lead.isNone⟩

/-- The string with one more unit of sixteen bits. -/
def StringScan.pushUnit (s : StringScan) (unit : Nat) : StringScan :=
  if 0xd800 ≤ unit ∧ unit < 0xdc00 then
    ⟨s.reversed, some unit, s.isReadable && s.lead.isNone⟩
  else if 0xdc00 ≤ unit ∧ unit < 0xe000 then
    match s.lead with
    | some lead =>
      ⟨Char.ofNat (0x10000 + (lead - 0xd800) * 0x400 + (unit - 0xdc00)) :: s.reversed, none,
        s.isReadable⟩
    | none => ⟨s.reversed, none, false⟩
  else s.push (Char.ofNat unit)

/-- The string, if every half of a pair has its other half. -/
def StringScan.value? (s : StringScan) : Option String :=
  if s.isReadable && s.lead.isNone then some (String.ofList s.reversed.reverse) else none

/-- The rest of a string behind its opening quote: the string, if it is readable, and what follows
the closing quote. Nothing when the text breaks off or goes wrong before it. -/
def scanString (s : StringScan) : List Char → Option (Option String × List Char)
  | [] => none
  | '"' :: rest => some (s.value?, rest)
  | '\\' :: 'u' :: a :: b :: c :: d :: rest =>
    match hexUnit? a b c d with
    | some unit => scanString (s.pushUnit unit) rest
    | none => none
  | '\\' :: letter :: rest =>
    match letterEscape? letter with
    | some c => scanString (s.push c) rest
    | none => none
  | c :: rest => if c.toNat < 0x20 ∨ c = '\\' then none else scanString (s.push c) rest

/-- The string with nothing read yet. -/
def StringScan.empty : StringScan := ⟨[], none, true⟩

/-! ### Values -/

mutual

/-- The value at the start of a text and what follows it. The first argument bounds the nesting of
calls. -/
def scanValue : Nat → List Char → Json × Rest
  | 0, _ => (.broken, none)
  | fuel + 1, text =>
    match skipBlanks text with
    | 'n' :: 'u' :: 'l' :: 'l' :: rest => (.null, some rest)
    | 't' :: 'r' :: 'u' :: 'e' :: rest => (.boolean true, some rest)
    | 'f' :: 'a' :: 'l' :: 's' :: 'e' :: rest => (.boolean false, some rest)
    | '"' :: rest =>
      match scanString .empty rest with
      | none => (.broken, none)
      | some (none, rest) => (.unreadable, some rest)
      | some (some value, rest) => (.string value, some rest)
    | '[' :: rest =>
      match skipBlanks rest with
      | ']' :: rest => (.array [], some rest)
      | rest =>
        let (items, rest) := scanItems fuel rest
        (.array items, rest)
    | '{' :: rest =>
      match skipBlanks rest with
      | '}' :: rest => (.object [], some rest)
      | rest =>
        let (members, rest) := scanMembers fuel rest
        (.object members, rest)
    | text => scanNumber text

/-- The items of an array from the next one on, up to the closing bracket. -/
def scanItems : Nat → List Char → List Json × Rest
  | 0, _ => ([.broken], none)
  | fuel + 1, text =>
    match scanValue fuel text with
    | (item, none) => ([item], none)
    | (item, some rest) =>
      match skipBlanks rest with
      | ']' :: rest => ([item], some rest)
      | ',' :: rest =>
        let (items, rest) := scanItems fuel rest
        (item :: items, rest)
      | _ => ([item, .broken], none)

/-- The members of an object from the next one on, up to the closing brace. A member whose name
cannot be read stands under the empty name. -/
def scanMembers : Nat → List Char → List (String × Json) × Rest
  | 0, _ => ([("", .broken)], none)
  | fuel + 1, text =>
    match skipBlanks text with
    | '"' :: rest =>
      match scanString .empty rest with
      | some (some name, rest) =>
        match skipBlanks rest with
        | ':' :: rest =>
          match scanValue fuel rest with
          | (value, none) => ([(name, value)], none)
          | (value, some rest) =>
            match skipBlanks rest with
            | '}' :: rest => ([(name, value)], some rest)
            | ',' :: rest =>
              let (members, rest) := scanMembers fuel rest
              ((name, value) :: members, rest)
            | _ => ([(name, value), ("", .broken)], none)
        | _ => ([(name, .broken)], none)
      | _ => ([("", .broken)], none)
    | _ => ([("", .broken)], none)

end

/-- A text as far as it is JSON. -/
structure Reading where
  value : Json
  /-- Whether only blanks follow the value. -/
  isWhole : Bool

/-- Reads a text. Every two calls take at least one character, so the bound is never reached. -/
def read (text : String) : Reading :=
  match scanValue (2 * text.length + 2) text.toList with
  | (value, none) => ⟨value, false⟩
  | (value, some rest) => ⟨value, (skipBlanks rest).isEmpty⟩

/-- The greatest number of levels that arrays and objects of a message may nest. -/
def nestingLimit : Nat := 127

/-- The plain value that makes up all of a text, nested within the limit. -/
def ofText? (text : String) : Option Json :=
  let reading := read text
  if reading.isWhole && reading.value.fits (nestingLimit + 1) then some reading.value else none

end ApplicationLedger.Json
