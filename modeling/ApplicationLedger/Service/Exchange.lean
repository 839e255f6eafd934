/-
This file says how the service answers: each connection brings one request in a frame, and takes one
response back. A request that cannot be read is answered if its frame was whole; else the connection
is closed without an answer.
-/

import ApplicationLedger.Message.Frame
import ApplicationLedger.Service.Basic

namespace ApplicationLedger.Service

/-- What is sent back for a result. -/
def respond {α : Type} (response : α → Response) : Except Fault α → Response
  | .ok value => response value
  | .error fault => .ofFault fault

/-- Carries out a request. The files of an upload are all decoded before the first one is stored. -/
def dispatch (s : Service) (now : Instant) : Request → Service × Response
  | .upload fields files =>
    match files.mapM WireFile.file with
    | .error fault => (s, .ofFault fault)
    | .ok files =>
      let (s, result) := s.upload now fields files
      (s, respond (fun receipt =>
        .uploaded "Job application received" receipt.application receipt.fileCount) result)
  | .query asked =>
    let (s, result) := s.query asked
    (s, respond .results result)
  | .update id fields =>
    let (s, result) := s.update id fields
    (s, respond (.updated "Application updated successfully") result)
  | .fileLink id fileName =>
    (s, respond (fun link => .fileLink link.url link.expiresAt) (s.fileLink now id fileName))

/-- The bytes of a response, unless it is too long to be sent. -/
def frame? (response : Response) : Option Bytes :=
  match Frame.write response.toJson .open with
  | (sink, .ok ()) => some sink.taken
  | (_, .error _) => none

/-- Answers what a connection has brought; nothing when it is closed without an answer. -/
def exchange (s : Service) (now : Instant) (received : Bytes) : Service × Option Bytes :=
  match (Frame.read Request.decode received).1 with
  | .ok request =>
    let (s, response) := s.dispatch now request
    (s, frame? response)
  | .error (.validation reason) => (s, frame? (.ofFault (.validation reason)))
  | .error _ => (s, none)

end ApplicationLedger.Service
