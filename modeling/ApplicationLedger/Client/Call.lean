/-
This file says what the client does: it makes a request of its command and the files that the
command names, and shows the response. Whatever goes wrong on the way, it says so in one line and
ends with a code that is not zero.
-/

import ApplicationLedger.Client.Command
import ApplicationLedger.FileTree
import ApplicationLedger.Message.Frame
import ApplicationLedger.Settings.Load

namespace ApplicationLedger

/-- What the client leaves behind. -/
structure Outcome where
  code : Nat
  output : String
  /-- The line that says what went wrong. -/
  complaint : String
  deriving DecidableEq, Repr

namespace Outcome

/-- Nothing to show, for a line that was not carried out. -/
def ofRefusal : Refusal → Outcome
  | .help => ⟨0, "", ""⟩
  | .misuse => ⟨2, "", ""⟩

/-- The end after something went wrong, with what was shown before. -/
def failure (output reason : String) : Outcome := ⟨1, output, "Error: " ++ reason⟩

end Outcome

/-- A request, and the address it is sent to. -/
structure Call where
  address : String
  request : Request
  deriving Repr

namespace Call

/-! ### Before it is sent -/

/-- What the files at written paths hold. -/
abbrev FileReader := String → Except SystemFault Bytes

/-- The last name of a written path, unless it leads upwards. -/
def fileName? (path : String) : Option String :=
  match (Path.ofText path).filter (· != ".") |>.getLast? with
  | some ".." => none
  | name => name

/-- The application that a file holds. -/
def readFields (read : FileReader) (path : String) : Except String ApplicationFields :=
  match (read path).toOption.bind Bytes.text? with
  | none => .error ("Failed to read " ++ Text.quotedPath path)
  | some text =>
    match ApplicationFields.decode.ofText text with
    | .ok fields => .ok fields
    | .error _ => .error ("Invalid application in " ++ Text.quotedPath path)

/-- A file as it is sent. -/
def readFile (read : FileReader) (path : String) : Except String WireFile :=
  match fileName? path with
  | none => .error ("Invalid file name " ++ Text.quotedPath path)
  | some name =>
    match read path with
    | .error _ => .error ("Failed to read " ++ Text.quotedPath path)
    | .ok content => .ok (.ofBytes name content)

/-- The query of a command. A direction counts only with a column. -/
def readQuery (filter sortBy : Option String) (descending : Bool) (limit page : Int) :
    Except String Query := do
  let filter ←
    match filter with
    | none => .ok none
    | some text =>
      match Group.decode.ofText text with
      | .ok group => .ok (some group)
      | .error _ => .error "Invalid --where filter"
  let order := if descending then SortOrder.descending else SortOrder.ascending
  .ok ⟨filter, sortBy, sortBy.map fun _ => order, limit, page⟩

/-- The request that a command makes, or the line that says why there is none. -/
def readRequest (read : FileReader) : Command → Except String Request
  | .upload application files => do
    let fields ← readFields read application
    .ok (.upload fields (← files.mapM (readFile read)))
  | .query filter sortBy descending limit page => do
    .ok (.query (← readQuery filter sortBy descending limit page))
  | .update id application => do .ok (.update id (← readFields read application))
  | .link id fileName => .ok (.fileLink id fileName)

/-- Where the service is expected if no one says where it is. -/
def usualAddress : String := "127.0.0.1:7878"

/-- The call that a command line asks for, or how the client ends without one. -/
def prepare (env : Environment) (read : FileReader) (arguments : List String) :
    Except Outcome Call :=
  match Invocation.ofList arguments with
  | .error refusal => .error (.ofRefusal refusal)
  | .ok invocation =>
    match readRequest read invocation.command with
    | .error reason => .error (.failure "" reason)
    | .ok request =>
      .ok ⟨(invocation.address.or (env.value? "JOBAPPS_LISTEN")).getD usualAddress, request⟩

/-! ### After it was sent -/

/-- What came of sending the request. -/
inductive Reply where
  /-- There was no connection. -/
  | unreachable (reason : String)
  /-- What came back before the connection was closed. -/
  | received (bytes : Bytes)

/-- The fault of a service that cannot be reached. -/
def unreachable (address reason : String) : Fault :=
  .ipc ("Failed to connect to jobapps service at " ++ address ++ ": " ++ reason ++
    ". Is the service running?")

/-- The response to a call. -/
def response (c : Call) : Reply → Except Fault Response
  | .unreachable reason => .error (unreachable c.address reason)
  | .received bytes =>
    match (Frame.write c.request.toJson .open).2 with
    | .error fault => .error fault
    | .ok () => (Frame.read Response.decode bytes).1

/-- How the client ends. It shows every response, but the response to a request that failed is no
success. -/
def finish (c : Call) (reply : Reply) : Outcome :=
  match c.response reply with
  | .error fault => .failure "" fault.message
  | .ok response =>
    let output := response.toJson.pretty ++ "\n"
    match response with
    | .error status code _ =>
      .failure output
        ("request failed with status " ++ toString status ++ " (" ++ code.title ++ ")")
    | _ => ⟨0, output, ""⟩

end Call

end ApplicationLedger
