/-
This file is the client as a program. It reads the files that its command names, and shows what the
client ends with. It has no sockets of its own, so every call ends as on a machine without a
network.
-/

import ApplicationLedger.Client.Call
import ApplicationLedger.Message.Address

namespace ApplicationLedger.Client

/-- What the file at a path holds. -/
def readFile (path : String) : IO (Except SystemFault Bytes) := do
  try
    return .ok (← IO.FS.readBinFile path).data.toList
  catch _ =>
    return .error .notFound

/-- Reads files, each under its path. -/
def readFiles : List String → IO (List (String × Except SystemFault Bytes))
  | [] => return []
  | path :: rest => do return (path, ← readFile path) :: (← readFiles rest)

/-- What comes of a call. -/
def answer (call : Call) : Outcome :=
  call.finish (.unreachable (Address.unreachable .networkUnreachable call.address))

/-- Carries out the command of a command line, and ends with its code. -/
def run (arguments : List String) : IO UInt32 := do
  let paths := (Invocation.ofList arguments).toOption.elim [] (·.command.paths)
  let files ← readFiles paths
  let listen ← IO.getEnv "JOBAPPS_LISTEN"
  let env : Environment := fun name => if name = "JOBAPPS_LISTEN" then listen else none
  let outcome :=
    match Call.prepare env (fun path => (files.lookup path).getD (.error .notFound)) arguments with
    | .error outcome => outcome
    | .ok call => answer call
  IO.print outcome.output
  unless outcome.complaint.isEmpty do IO.eprintln outcome.complaint
  return UInt32.ofNat outcome.code

end ApplicationLedger.Client

/-- The client. -/
def main (arguments : List String) : IO UInt32 := ApplicationLedger.Client.run arguments
