/-
This file holds the faults that a request can end with, their wording, and the categories and
status codes that clients are told. A fault that follows from another one carries it as its cause.
-/

import ApplicationLedger.Json.Choice
import ApplicationLedger.Text.Quoted

namespace ApplicationLedger

/-! ### Categories -/

/-- What kind of fault a client is told about. -/
inductive FaultCategory where
  | validation
  | compiler
  | notFound
  | conflict
  | store
  | blob
  | uploadFailed
  | storeFailed
  | orphanedFiles
  | internal
  deriving DecidableEq, Repr

namespace FaultCategory

/-- The name of a category in messages. -/
def name : FaultCategory → String
  | validation => "validation"
  | compiler => "compiler"
  | notFound => "not_found"
  | conflict => "conflict"
  | store => "store"
  | blob => "blob"
  | uploadFailed => "upload_failed"
  | storeFailed => "store_failed"
  | orphanedFiles => "orphaned_files"
  | internal => "internal"

/-- The name of a category in what the client says. -/
def title : FaultCategory → String
  | validation => "Validation"
  | compiler => "Compiler"
  | notFound => "NotFound"
  | conflict => "Conflict"
  | store => "Store"
  | blob => "Blob"
  | uploadFailed => "UploadFailed"
  | storeFailed => "StoreFailed"
  | orphanedFiles => "OrphanedFiles"
  | internal => "Internal"

/-- All categories. -/
def all : List FaultCategory :=
  [validation, compiler, notFound, conflict, store, blob, uploadFailed, storeFailed, orphanedFiles,
    internal]

/-- A category, by its name. -/
def decode : Decoder FaultCategory :=
  Spelling.decode (all.map fun category => ⟨category.name, category⟩)

/-- The status code that goes with a category: the client's fault, a record that is not there, or
the service's fault. -/
def status : FaultCategory → Nat
  | validation => 400
  | compiler => 400
  | notFound => 404
  | _ => 500

end FaultCategory

/-! ### Faults -/

/-- Why a request ended without its result. -/
inductive Fault where
  /-- The request itself is wrong. -/
  | validation (reason : String)
  /-- A filter that has no form in the query language. -/
  | compiler (reason : String)
  /-- What was asked for does not exist. -/
  | notFound (what : String)
  /-- Another writer was faster; trying again may help. -/
  | conflict (reason : String)
  /-- Every attempt ended in a conflict, the last one in this. -/
  | exhausted (attempts : Nat) (last : Fault)
  /-- The record database failed. -/
  | database (reason : String)
  /-- The file store failed. -/
  | blob (reason : String)
  /-- A file could not be stored; the files before it were. -/
  | uploadFailed (file : String) (uploaded : List String) (reason : String)
  /-- The record could not be stored; its files were removed again. -/
  | persistFailed (removed : Nat) (cause : Fault)
  /-- The record could not be stored, and some of its files are left. -/
  | orphaned (keys : List String) (cause : Fault)
  /-- The settings are wrong. -/
  | config (reason : String)
  /-- A message could not be sent or received. -/
  | ipc (reason : String)
  /-- The operating system refused something. -/
  | io (reason : String)
  deriving DecidableEq, Inhabited, Repr

namespace Fault

/-- The fault in words. -/
def message : Fault → String
  | validation reason => "Validation error: " ++ reason
  | compiler reason => "Query compiler error: " ++ reason
  | notFound what => "Not found: " ++ what
  | conflict reason => "Transaction conflict: " ++ reason
  | exhausted attempts last =>
    "Transaction failed after " ++ toString attempts ++ " attempts: " ++ last.message
  | database reason => "Database error: " ++ reason
  | blob reason => "Blob store error: " ++ reason
  | uploadFailed file _ reason => "Failed to upload file " ++ file ++ ": " ++ reason
  | persistFailed removed cause =>
    "Failed to store application (" ++ toString removed ++ " uploaded files removed): " ++
      cause.message
  | orphaned keys cause =>
    "Failed to delete uploaded files after failing to store application, orphaned: " ++
      Text.quotedList keys ++ ": " ++ cause.message
  | config reason => "Configuration error: " ++ reason
  | ipc reason => "IPC error: " ++ reason
  | io reason => "I/O error: " ++ reason

/-- The category that clients are told. -/
def category : Fault → FaultCategory
  | validation _ => .validation
  | compiler _ => .compiler
  | notFound _ => .notFound
  | conflict _ => .conflict
  | exhausted _ _ => .store
  | database _ => .store
  | blob _ => .blob
  | uploadFailed _ _ _ => .uploadFailed
  | persistFailed _ _ => .storeFailed
  | orphaned _ _ => .orphanedFiles
  | config _ => .internal
  | ipc _ => .internal
  | io _ => .internal

/-- The status code that clients are told. -/
def status (fault : Fault) : Nat := fault.category.status

/-- Whether the failed transaction may be tried again. -/
def isTransient : Fault → Bool
  | conflict _ => true
  | _ => false

/-- What the fault follows from, in words. -/
def cause? : Fault → Option String
  | exhausted _ last => some last.message
  | persistFailed _ cause => some cause.message
  | orphaned _ cause => some cause.message
  | io reason => some reason
  | _ => none

end Fault

end ApplicationLedger
