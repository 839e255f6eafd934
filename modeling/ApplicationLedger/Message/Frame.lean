/-
This file puts messages into frames: the length of the message in four bytes, the lowest first, and
then its compact JSON text. Frames follow each other in a stream of bytes. A message that is too
long is refused on both sides before any of it is sent or read.
-/

import ApplicationLedger.Message.Basic

namespace ApplicationLedger.Frame

/-- The greatest number of bytes in a message. -/
def greatestLength : Nat := 16 * 1024 * 1024

/-- Bytes before the message. -/
def headerLength : Nat := 4

/-- The fault of a message that is too long. -/
def tooLarge (length : Nat) : Fault :=
  .ipc ("Message too large: " ++ toString length ++ " bytes (max " ++ toString greatestLength ++
    ")")

/-- A length in four bytes, the lowest first. -/
def header (length : Nat) : Bytes :=
  [UInt8.ofNat length, UInt8.ofNat (length / 256), UInt8.ofNat (length / 65536),
    UInt8.ofNat (length / 16777216)]

/-- The length in some bytes, the lowest first. -/
def lengthOf (header : Bytes) : Nat :=
  header.foldr (fun byte length => byte.toNat + 256 * length) 0

/-! ### Reading -/

/-- The message in the body of a frame. A body that is no JSON text is refused as such, whatever its
start could be decoded to. -/
def decodeBody {α : Type} (decode : Decoder α) (body : Bytes) : Except Fault α :=
  let refused (fault : DecodeFault) : Fault :=
    .validation ("Failed to parse message: " ++ fault.message)
  match Bytes.text? body with
  | none => .error (refused .malformed)
  | some text =>
    if (Json.ofText? text).isNone then .error (refused .malformed)
    else
      match decode.ofText text with
      | .ok message => .ok message
      | .error fault => .error (refused fault)

/-- The fault when a stream ends early. -/
def endsEarly (part : String) : Fault :=
  .ipc ("Failed to read message " ++ part ++ ": early eof")

/-- Reads one message, with what is left of the stream. -/
def read {α : Type} (decode : Decoder α) (stream : Bytes) : Except Fault α × Bytes :=
  if stream.length < headerLength then (.error (endsEarly "length"), [])
  else
    let length := lengthOf (stream.take headerLength)
    let rest := stream.drop headerLength
    if length > greatestLength then (.error (tooLarge length), rest)
    else if rest.length < length then (.error (endsEarly "body"), [])
    else (decodeBody decode (rest.take length), rest.drop length)

/-! ### Writing -/

/-- Something to write to, with the bytes it has taken. -/
structure Sink where
  taken : Bytes
  /-- The bytes it takes before it fails; without it, it takes all. -/
  capacity : Option Nat
  /-- Whether it can be flushed. -/
  flushes : Bool

/-- A sink that takes everything. -/
def Sink.open : Sink := ⟨[], none, true⟩

/-- The sink with some more bytes, and whether it has taken all of them. -/
def Sink.write (sink : Sink) (bytes : Bytes) : Sink × Bool :=
  match sink.capacity with
  | none => ({ sink with taken := sink.taken ++ bytes }, true)
  | some capacity =>
    ({ sink with
        taken := sink.taken ++ bytes.take capacity
        capacity := some (capacity - bytes.length) },
      bytes.length ≤ capacity)

/-- The fault when a sink fails. -/
def writeFailed (part reason : String) : Fault :=
  .ipc ("Failed to " ++ part ++ ": " ++ reason)

/-- Writes a message, and flushes the sink behind it. -/
def write (message : Json) (sink : Sink) : Sink × Except Fault Unit :=
  let text := message.compact
  if text.utf8ByteSize > greatestLength then (sink, .error (tooLarge text.utf8ByteSize))
  else
    let body := Bytes.ofText text
    match sink.write (header body.length) with
    | (sink, false) => (sink, .error (writeFailed "write message length" "sink failed"))
    | (sink, true) =>
      match sink.write body with
      | (sink, false) => (sink, .error (writeFailed "write message body" "sink failed"))
      | (sink, true) =>
        if sink.flushes then (sink, .ok ())
        else (sink, .error (writeFailed "flush message" "flush failed"))

end ApplicationLedger.Frame
