/-
This file holds the messages between clients and the service, and reads and writes them as JSON. The
member `kind` tells requests and responses apart.
-/

import ApplicationLedger.Bytes.Base64
import ApplicationLedger.Ingest.Plan
import ApplicationLedger.Query.Message

namespace ApplicationLedger

/-! ### Files -/

/-- A file in a message, its content in base 64. -/
structure WireFile where
  name : String
  content : String
  deriving DecidableEq, Repr

namespace WireFile

/-- A file as messages hold it. -/
def ofBytes (name : String) (content : Bytes) : WireFile :=
  ⟨name, Base64.encode Base64.standard content⟩

/-- The file in a message, if its content is in base 64. -/
def file (f : WireFile) : Except Fault SubmittedFile :=
  match Base64.decode? f.content with
  | some content => .ok ⟨f.name, content⟩
  | none => .error (.validation ("file " ++ f.name ++ " is not valid base64: <base64>"))

/-- The fields of a file. -/
def layout : Layout [String, String] :=
  .field "name" Decoder.text none <| .field "content" Decoder.text none .done

/-- Reads a file. -/
def decode : Decoder WireFile := fun medium value => do
  let (name, content, ()) ← layout.decode "struct WireFile" medium value
  .ok ⟨name, content⟩

/-- A file as JSON. -/
def toJson (f : WireFile) : Json :=
  .object [("name", .string f.name), ("content", .string f.content)]

end WireFile

/-! ### Requests -/

/-- What a client asks the service to do. -/
inductive Request where
  | upload (application : ApplicationFields) (files : List WireFile)
  | query (asked : Query)
  | update (id : String) (application : ApplicationFields)
  | fileLink (id fileName : String)
  deriving Repr

namespace Request

/-- The kinds of requests. -/
inductive Kind where
  | upload
  | query
  | update
  | fileLink
  deriving DecidableEq, Repr

/-- The names of the kinds. -/
def kinds : List (Spelling Kind) :=
  [⟨"upload", .upload⟩, ⟨"query", .query⟩, ⟨"update", .update⟩, ⟨"file_link", .fileLink⟩]

/-- The fields of an upload. -/
def uploadLayout : Layout [ApplicationFields, List WireFile] :=
  .field "application" ApplicationFields.decode none <|
  .field "files" (Decoder.list WireFile.decode) (some []) .done

/-- The fields of a query. -/
def queryLayout : Layout [Query] :=
  .field "query" Query.decode (some .everything) .done

/-- The fields of an update. -/
def updateLayout : Layout [String, ApplicationFields] :=
  .field "id" Decoder.text none <|
  .field "application" ApplicationFields.decode none .done

/-- The fields of a request for a link. -/
def fileLinkLayout : Layout [String, String] :=
  .field "id" Decoder.text none <| .field "file_name" Decoder.text none .done

/-- Reads a request. -/
def decode : Decoder Request := fun medium value => do
  let (kind, content) ← TaggedContent.decode kinds "internally tagged enum Request" medium value
  match kind with
  | .upload =>
    let (application, files, ()) ← content.fields uploadLayout "struct variant Request::Upload"
    .ok (.upload application files)
  | .query =>
    let (asked, ()) ← content.fields queryLayout "struct variant Request::Query"
    .ok (.query asked)
  | .update =>
    let (id, application, ()) ← content.fields updateLayout "struct variant Request::Update"
    .ok (.update id application)
  | .fileLink =>
    let (id, fileName, ()) ← content.fields fileLinkLayout "struct variant Request::FileLink"
    .ok (.fileLink id fileName)

/-- A request as JSON. -/
def toJson : Request → Json
  | upload application files =>
    .object [("kind", .string "upload"), ("application", application.toJson),
      ("files", .array (files.map WireFile.toJson))]
  | .query asked => .object [("kind", .string "query"), ("query", asked.toJson)]
  | update id application =>
    .object [("kind", .string "update"), ("id", .string id), ("application", application.toJson)]
  | fileLink id fileName =>
    .object [("kind", .string "file_link"), ("id", .string id), ("file_name", .string fileName)]

end Request

/-! ### Responses -/

/-- What the service answers. -/
inductive Response where
  | uploaded (message : String) (application : ApplicationRecord) (fileCount : Nat)
  | results (records : List ApplicationRecord)
  | updated (message : String) (application : ApplicationFields)
  | fileLink (url : String) (expiresAt : Instant)
  | error (status : Nat) (code : FaultCategory) (reason : String)
  deriving Repr

namespace Response

/-- The kinds of responses. -/
inductive Kind where
  | uploaded
  | results
  | updated
  | fileLink
  | error
  deriving DecidableEq, Repr

/-- The names of the kinds. -/
def kinds : List (Spelling Kind) :=
  [⟨"uploaded", .uploaded⟩, ⟨"results", .results⟩, ⟨"updated", .updated⟩,
    ⟨"file_link", .fileLink⟩, ⟨"error", .error⟩]

/-- The fields of the answer to an upload. -/
def uploadedLayout : Layout [String, ApplicationRecord, Nat] :=
  .field "message" Decoder.text none <|
  .field "application" ApplicationRecord.decode none <|
  .field "num_files" Decoder.count none .done

/-- The fields of the answer to a query. -/
def resultsLayout : Layout [List ApplicationRecord] :=
  .field "results" (Decoder.list ApplicationRecord.decode) none .done

/-- The fields of the answer to an update. -/
def updatedLayout : Layout [String, ApplicationFields] :=
  .field "message" Decoder.text none <|
  .field "application" ApplicationFields.decode none .done

/-- The fields of the answer to a request for a link. -/
def fileLinkLayout : Layout [String, Instant] :=
  .field "url" Decoder.text none <| .field "expires_at" Decoder.instant none .done

/-- The fields of the answer to a request that failed. -/
def errorLayout : Layout [Nat, FaultCategory, String] :=
  .field "status" Decoder.word16 none <|
  .field "code" FaultCategory.decode none <|
  .field "error" Decoder.text none .done

/-- Reads a response. -/
def decode : Decoder Response := fun medium value => do
  let (kind, content) ← TaggedContent.decode kinds "internally tagged enum Response" medium value
  match kind with
  | .uploaded =>
    let (message, application, count, ()) ←
      content.fields uploadedLayout "struct variant Response::Uploaded"
    .ok (.uploaded message application count)
  | .results =>
    let (records, ()) ← content.fields resultsLayout "struct variant Response::Results"
    .ok (.results records)
  | .updated =>
    let (message, application, ()) ←
      content.fields updatedLayout "struct variant Response::Updated"
    .ok (.updated message application)
  | .fileLink =>
    let (url, expiresAt, ()) ← content.fields fileLinkLayout "struct variant Response::FileLink"
    .ok (.fileLink url expiresAt)
  | .error =>
    let (status, code, reason, ()) ← content.fields errorLayout "struct variant Response::Error"
    .ok (.error status code reason)

/-- A response as JSON. -/
def toJson : Response → Json
  | uploaded message application count =>
    .object [("kind", .string "uploaded"), ("message", .string message),
      ("application", application.toJson), ("num_files", .integer count)]
  | .results records =>
    .object [("kind", .string "results"),
      ("results", .array (records.map ApplicationRecord.toJson))]
  | updated message application =>
    .object [("kind", .string "updated"), ("message", .string message),
      ("application", application.toJson)]
  | fileLink url expiresAt =>
    .object [("kind", .string "file_link"), ("url", .string url),
      ("expires_at", .string expiresAt.text)]
  | .error status code reason =>
    .object [("kind", .string "error"), ("status", .integer status), ("code", .string code.name),
      ("error", .string reason)]

/-- The answer to a request that ended in a fault. -/
def ofFault (fault : Fault) : Response := .error fault.status fault.category fault.message

end Response

end ApplicationLedger
