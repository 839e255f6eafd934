/-
This file holds job applications: the fields that clients submit and change, and the stored record
with its id and the keys of its files. It reads them from messages and writes them into messages,
where a record shows its fields beside its id and its files.
-/

import ApplicationLedger.Json.Choice
import ApplicationLedger.Json.Writer

namespace ApplicationLedger

/-- What is known of a job application. -/
structure ApplicationFields where
  title : String
  company : String
  description : String
  location : String
  /-- When the job was posted, as the posting says it. -/
  datePosted : String
  url : String
  internalId : String
  source : String
  reposted : Bool
  dateApplied : Instant
  deriving DecidableEq, Repr

/-- A stored job application. -/
structure ApplicationRecord where
  id : String
  fields : ApplicationFields
  /-- The keys of its files, in the order they were submitted. -/
  files : List String
  deriving DecidableEq, Repr

namespace ApplicationFields

/-- The fields with their defaults: all but the title and the date applied may be missing. -/
def layout :
    Layout [String, String, String, String, String, String, String, String, Bool, Instant] :=
  .field "title" Decoder.text none <|
  .field "company" Decoder.text (some "") <|
  .field "description" Decoder.text (some "") <|
  .field "location" Decoder.text (some "") <|
  .field "date_posted" Decoder.text (some "") <|
  .field "url" Decoder.text (some "") <|
  .field "internal_id" Decoder.text (some "") <|
  .field "source" Decoder.text (some "") <|
  .field "reposted" Decoder.boolean (some false) <|
  .field "date_applied" Decoder.instant none .done

/-- The fields from their values in order. -/
def ofValues :
    Values [String, String, String, String, String, String, String, String, Bool, Instant] →
      ApplicationFields
  | (title, company, description, location, datePosted, url, internalId, source, reposted,
      dateApplied, ()) =>
    ⟨title, company, description, location, datePosted, url, internalId, source, reposted,
      dateApplied⟩

/-- Reads the fields. -/
def decode : Decoder ApplicationFields := fun medium value =>
  (layout.decode "struct ApplicationFields" medium value).map ofValues

/-- The fields as members of an object. -/
def members (f : ApplicationFields) : List (String × Json) :=
  [("title", .string f.title), ("company", .string f.company),
    ("description", .string f.description), ("location", .string f.location),
    ("date_posted", .string f.datePosted), ("url", .string f.url),
    ("internal_id", .string f.internalId), ("source", .string f.source),
    ("reposted", .boolean f.reposted), ("date_applied", .string f.dateApplied.text)]

/-- The fields in a message. -/
def toJson (f : ApplicationFields) : Json := .object f.members

end ApplicationFields

namespace ApplicationRecord

/-- What a record has beside its fields. -/
def ownLayout : Layout [String, List String] :=
  .field "id" Decoder.text none <|
  .field "files" (Decoder.list Decoder.text) (some []) .done

/-- Splits members into the record's own ones, decoded, and the others, kept for the fields. -/
def split (medium : Medium) :
    List (String × Json) → Draft [String, List String] →
      Except DecodeFault (Draft [String, List String] × List (String × Json))
  | [], draft => .ok (draft, [])
  | (name, value) :: rest, draft =>
    match ownLayout.take? medium name value draft with
    | some taken => do split medium rest (← taken)
    | none =>
      if medium.keeps value then do
        let (draft, others) ← split medium rest draft
        .ok (draft, (name, value) :: others)
      else .error .malformed

/-- Reads a record, from an object only. -/
def decode : Decoder ApplicationRecord
  | medium, .object members => do
    let (draft, others) ← split (← medium.enter) members ownLayout.start
    let (id, files, ()) ← ownLayout.finish draft
    let values ← ApplicationFields.layout.ofMembers .buffer others
    .ok ⟨id, .ofValues values, files⟩
  | _, value => .error (value.mismatch "struct ApplicationRecord")

/-- A record in a message. -/
def toJson (r : ApplicationRecord) : Json :=
  .object (("id", .string r.id) :: r.fields.members ++ [("files", .array (r.files.map .string))])

end ApplicationRecord

end ApplicationLedger
