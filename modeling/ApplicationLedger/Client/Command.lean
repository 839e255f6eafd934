/-
This file holds the commands of the client, and reads them from a command line.
-/

import ApplicationLedger.Client.Arguments

namespace ApplicationLedger

/-- What the client is told to do. -/
inductive Command where
  /-- Store an application with its files. -/
  | upload (application : String) (files : List String)
  /-- Ask for applications. -/
  | query (filter sortBy : Option String) (descending : Bool) (limit page : Int)
  /-- Replace the fields of an application. -/
  | update (id application : String)
  /-- Ask for a link to a file. -/
  | link (id fileName : String)
  deriving DecidableEq, Repr

/-- A command, with the address of the service if it is given. -/
structure Invocation where
  address : Option String
  command : Command
  deriving DecidableEq, Repr

namespace Command

/-- The files that a command names. -/
def paths : Command → List String
  | upload application files => application :: files
  | query _ _ _ _ _ => []
  | update _ application => [application]
  | link _ _ => []

/-- Anything. -/
def anyText (_ : String) : Bool := true

/-- A path, which is not empty. -/
def isPath (text : String) : Bool := !text.isEmpty

/-- A whole number. -/
def isNumber (text : String) : Bool := (Arguments.int64? text).isSome

/-- The arguments of an upload. -/
def uploadForm : ArgumentForm := ⟨[], [], [isPath], some isPath⟩

/-- The arguments of a query. -/
def queryForm : ArgumentForm where
  valued :=
    [("--where", anyText), ("--sort-by", anyText), ("--limit", isNumber), ("--page", isNumber)]
  flags := ["--desc"]
  leading := []
  trailing := none

/-- The arguments of an update. -/
def updateForm : ArgumentForm := ⟨[], [], [anyText, isPath], none⟩

/-- The arguments of a request for a link. -/
def linkForm : ArgumentForm := ⟨[], [], [anyText, anyText], none⟩

/-- The number that an option gives, zero if it is not given. -/
def numberOf (a : Arguments) (name : String) : Int :=
  ((a.value? name).bind Arguments.int64?).getD 0

/-- The names of the commands. -/
def names : List String := ["upload", "query", "update", "link", "help"]

/-- The command of a name with its arguments. -/
def ofArguments (name : String) (rest : List String) : Except Refusal Command := do
  match name with
  | "upload" =>
    match (← Arguments.ofList uploadForm rest).positions with
    | application :: files => .ok (.upload application files)
    | [] => .error .misuse
  | "query" =>
    let a ← Arguments.ofList queryForm rest
    .ok (.query (a.value? "--where") (a.value? "--sort-by") (a.has "--desc")
      (numberOf a "--limit") (numberOf a "--page"))
  | "update" =>
    match (← Arguments.ofList updateForm rest).positions with
    | [id, application] => .ok (.update id application)
    | _ => .error .misuse
  | "link" =>
    match (← Arguments.ofList linkForm rest).positions with
    | [id, fileName] => .ok (.link id fileName)
    | _ => .error .misuse
  | "help" =>
    match rest with
    | [] => .error .help
    | [about] => .error (if names.contains about then .help else .misuse)
    | _ => .error .misuse
  | _ => .error .misuse

end Command

namespace Invocation

/-- Reads a command line. Options of the client itself stand before the name of the command. -/
def read (address : Option String) : List String → Except Refusal Invocation
  | [] => .error .misuse
  | argument :: rest =>
    if argument = "--addr" then
      match rest with
      | [] => .error .misuse
      | value :: rest =>
        if address.isSome || Arguments.isOption value then .error .misuse
        else read (some value) rest
    else if argument.startsWith "--addr=" then
      if address.isSome then .error .misuse
      else read (Arguments.splitOption argument).2 rest
    else if argument = "--help" || argument = "--version" || argument.startsWith "-h" ||
        argument.startsWith "-V" then .error .help
    else if Arguments.isOption argument then .error .misuse
    else do .ok ⟨address, ← Command.ofArguments argument rest⟩

/-- The command that a command line gives. -/
def ofList (arguments : List String) : Except Refusal Invocation := read none arguments

end Invocation

end ApplicationLedger
