/-
This file makes and reads the keys under which files are stored. A key holds the client's name for
the file, the time it was stored and the id of its record, so clients can read the id back out of
it. Two files of one record never share a key: a name that is taken gets a number.
-/

import ApplicationLedger.Fault
import ApplicationLedger.Instant.Basic
import ApplicationLedger.Text.Split

namespace ApplicationLedger

namespace BlobKey

open Text (splitLast?)

/-! ### Making keys -/

/-- A file name split at its last dot. The dot belongs to the extension; without one there is none.
-/
def splitExtension (name : List Char) : List Char × List Char :=
  match splitLast? (· == '.') name with
  | some (stem, extension) => (stem, '.' :: extension)
  | none => (name, [])

/-- The last part of a client's path, whatever separates its parts. -/
def baseName (path : List Char) : List Char :=
  match splitLast? (fun c => c == '/' || c == '\\') path with
  | some (_, name) => name
  | none => path

/-- The time in a key: hour and minute, then day, month and the last two digits of the year. -/
def stamp (time : Instant) : List Char :=
  Instant.padded 2 time.hour ++ Instant.padded 2 time.minute ++ '-' ::
    Instant.padded 2 time.date.day ++ Instant.padded 2 time.date.month ++
    Instant.padded 2 (time.date.year % 100).toNat

/-- The key with a given stem and extension. -/
def format (stem extension : List Char) (id : String) (time : Instant) : String :=
  String.ofList (stem ++ '-' :: stamp time ++ '_' :: id.toList ++ extension)

/-- The stem with its number; the first one has none. -/
def numberedStem (stem : List Char) (number : Nat) : List Char :=
  if number ≤ 1 then stem else stem ++ ' ' :: '(' :: Nat.toDigits 10 number ++ [')']

/-- The first key of a family, from a number on, that is not taken. As many numbers are tried as the
first argument says; the last one is not compared. -/
def firstFree (key : Nat → String) (taken : List String) : Nat → Nat → String
  | 0, number => key number
  | left + 1, number =>
    if taken.contains (key number) then firstFree key taken left (number + 1) else key number

/-- The key for a file of a record. There are fewer keys taken than numbers to try. -/
def make (name id : String) (time : Instant) (taken : List String) : String :=
  let (stem, extension) := splitExtension (baseName name.toList)
  firstFree (fun number => format (numberedStem stem number) extension id time) taken
    taken.length 1

/-! ### Reading keys -/

/-- The id of the record in a key: what stands between the last underscore and the extension. -/
def recordId? (key : String) : Option String :=
  match splitLast? (· == '_') key.toList with
  | some (_, tail) => some (String.ofList (splitExtension tail).1)
  | none => none

/-- Whether a key names one file directly in the bucket. -/
def isValid (key : String) : Bool :=
  !key.isEmpty && !key.toList.any (fun c => c == '/' || c == '\\' || c == '\x00') &&
    key != "." && key != ".."

/-- Fails if a key could lead out of the bucket. -/
def check (key : String) : Except Fault Unit :=
  if isValid key then .ok () else .error (.validation ("invalid file key: " ++ Text.quoted key))

end BlobKey

/-! ### Headers -/

/-- What a link says about the file it leads to. -/
structure ContentHeaders where
  contentType : String
  disposition : String
  deriving DecidableEq, Repr

/-- The headers for a key: portable documents as such, all else as text. -/
def ContentHeaders.ofKey (key : String) : ContentHeaders :=
  ⟨if key.endsWith ".pdf" then "application/pdf" else "text/plain", "inline"⟩

end ApplicationLedger
