/-
This file proves that messages survive the way through a stream. A frame says how long its body is,
so a reader takes exactly one message, and whatever follows is left for the next. Messages that are
written one after the other, requests and responses in any order, are read back as they were.
-/

import ApplicationLedger.Message.Frame
import ApplicationLedger.Proofs.Message.Tagged

namespace ApplicationLedger

/-! ### Frames -/

namespace Frame

/-- A length below four gigabytes is read back from its four bytes. -/
theorem lengthOf_header {length : Nat} (small : length < 2 ^ 32) :
    lengthOf (header length) = length := by
  simp only [lengthOf, header, List.foldr_cons, List.foldr_nil, UInt8.toNat_ofNat']
  omega

/-- The frame of a message. -/
def ofJson (message : Json) : Bytes :=
  header message.compact.utf8ByteSize ++ Bytes.ofText message.compact

/-- A sink without bounds takes the frame of a message that is not too long. -/
theorem write_eq {message : Json} (short : message.compact.utf8ByteSize ≤ greatestLength)
    (taken : Bytes) :
    write message ⟨taken, none, true⟩ = (⟨taken ++ ofJson message, none, true⟩, .ok ()) := by
  simp only [write, if_neg (Nat.not_lt.mpr short), Sink.write, if_true, List.append_assoc,
    Bytes.length_ofText, ofJson]

/-- The body of a frame is the message in it. -/
theorem decodeBody_ofText {α : Type} {decode : Decoder α} {message : Json} {value : α}
    (exact : message.IsExact) (shallow : message.depth ≤ Json.nestingLimit)
    (decoded : decode (.text (Json.nestingLimit + 1)) message = .ok value) :
    decodeBody decode (Bytes.ofText message.compact) = .ok value := by
  have whole : (Json.ofText? message.compact).isNone = false := by
    rw [Json.ofText?_compact exact shallow]
    rfl
  have read : decode.ofText message.compact = .ok value := by
    rw [Decoder.ofText, Json.read_compact exact]
    exact bind_eq_ok.mpr ⟨value, decoded, rfl⟩
  simp only [decodeBody, Bytes.text?_ofText, whole, Bool.false_eq_true, if_false, read]

/-- Whether four bytes say how long a body is, and the body is not too long. -/
structure IsFrame (header body : Bytes) : Prop where
  width : header.length = headerLength
  length : lengthOf header = body.length
  short : body.length ≤ greatestLength

/-- A message that is not too long is put into a frame. -/
theorem isFrame_header {message : Json}
    (short : message.compact.utf8ByteSize ≤ greatestLength) :
    IsFrame (header message.compact.utf8ByteSize) (Bytes.ofText message.compact) where
  width := rfl
  length := lengthOf_header (Nat.lt_of_le_of_lt short (by decide))
  short := short

/-- The body of a frame is read, and what follows is left. -/
theorem read_of_isFrame {α : Type} (decode : Decoder α) {header body : Bytes}
    (isFrame : IsFrame header body) (rest : Bytes) :
    read decode (header ++ body ++ rest) = (decodeBody decode body, rest) := by
  have width := isFrame.width
  have length := isFrame.length
  have long : ¬(header ++ body ++ rest).length < headerLength := by
    rw [List.length_append, List.length_append]
    omega
  have complete : ¬(body ++ rest).length < body.length := by
    rw [List.length_append]
    omega
  rw [read, if_neg long, List.append_assoc, List.take_left' width, List.drop_left' width, length]
  simp only [if_neg (Nat.not_lt.mpr isFrame.short), if_neg complete, List.take_left,
    List.drop_left]

theorem read_frame {α : Type} (decode : Decoder α) {message : Json}
    (short : message.compact.utf8ByteSize ≤ greatestLength) (rest : Bytes) :
    read decode (ofJson message ++ rest) =
      (decodeBody decode (Bytes.ofText message.compact), rest) :=
  read_of_isFrame decode (isFrame_header short) rest

/-- A message is read from its frame, and what follows is left. -/
theorem read_ofJson {α : Type} {decode : Decoder α} {message : Json} {value : α}
    (exact : message.IsExact) (shallow : message.depth ≤ Json.nestingLimit)
    (short : message.compact.utf8ByteSize ≤ greatestLength)
    (decoded : decode (.text (Json.nestingLimit + 1)) message = .ok value) (rest : Bytes) :
    read decode (ofJson message ++ rest) = (.ok value, rest) := by
  rw [read_frame decode short, decodeBody_ofText exact shallow decoded]

/-! ### Several messages -/

/-- Writes messages one after the other, up to the first that fails. -/
def writeAll : List Json → Sink → Sink × Except Fault Unit
  | [], sink => (sink, .ok ())
  | message :: rest, sink =>
    match write message sink with
    | (sink, .error fault) => (sink, .error fault)
    | (sink, .ok ()) => writeAll rest sink

/-- Reads messages one after the other, up to the first that fails, with what is left of the
stream. -/
def readAll {α : Type} : List (Decoder α) → Bytes → Except Fault (List α) × Bytes
  | [], stream => (.ok [], stream)
  | decode :: decoders, stream =>
    match read decode stream with
    | (.error fault, rest) => (.error fault, rest)
    | (.ok message, rest) =>
      ((readAll decoders rest).1.map (message :: ·), (readAll decoders rest).2)

end Frame

/-- A message on its way. -/
inductive Message where
  | request (asked : Request)
  | response (answer : Response)

namespace Message

/-- Which way a message goes. -/
inductive Direction where
  | toService
  | toClient

/-- The direction of a message. -/
def direction : Message → Direction
  | request _ => .toService
  | response _ => .toClient

/-- Reads a message that goes one way. -/
def decode : Direction → Decoder Message
  | .toService => fun medium value => (Request.decode medium value).map request
  | .toClient => fun medium value => (Response.decode medium value).map response

/-- A message as JSON. -/
def toJson : Message → Json
  | request asked => asked.toJson
  | response answer => answer.toJson

/-- Whether the numbers and the instants of a message are in range. -/
def InRange : Message → Prop
  | request asked => asked.InRange
  | response answer => answer.InRange

/-- Whether a message is one that can be sent: its text is neither too long nor nests too deep. -/
structure IsSendable (m : Message) : Prop where
  inRange : m.InRange
  short : m.toJson.compact.utf8ByteSize ≤ Frame.greatestLength
  shallow : m.toJson.depth ≤ Json.nestingLimit

theorem isExact_toJson {m : Message} (inRange : m.InRange) : m.toJson.IsExact := by
  cases m with
  | request asked => exact Request.isExact_toJson inRange
  | response answer => exact Response.isExact_toJson inRange

/-- A message is decoded from what it is written as. -/
theorem decode_toJson {m : Message} (sendable : m.IsSendable) :
    decode m.direction (.text (Json.nestingLimit + 1)) m.toJson = .ok m := by
  cases m with
  | request asked =>
    exact congrArg (Except.map request)
      (Request.decode_toJson sendable.inRange sendable.shallow)
  | response answer =>
    exact congrArg (Except.map response)
      (Response.decode_toJson sendable.inRange sendable.shallow)

/-- A message is read from its frame. -/
theorem read_ofJson {m : Message} (sendable : m.IsSendable) (rest : Bytes) :
    Frame.read (decode m.direction) (Frame.ofJson m.toJson ++ rest) = (.ok m, rest) :=
  Frame.read_ofJson (isExact_toJson sendable.inRange) sendable.shallow sendable.short
    (decode_toJson sendable) rest

/-- Messages are written as their frames. -/
theorem writeAll_eq {messages : List Message} (sendable : ∀ m ∈ messages, m.IsSendable)
    (taken : Bytes) :
    Frame.writeAll (messages.map toJson) ⟨taken, none, true⟩ =
      (⟨taken ++ messages.flatMap fun m => Frame.ofJson m.toJson, none, true⟩, .ok ()) := by
  induction messages generalizing taken with
  | nil => rw [List.flatMap_nil, List.append_nil]; rfl
  | cons m rest inductionHypothesis =>
    rw [List.map_cons, Frame.writeAll, Frame.write_eq (sendable m List.mem_cons_self).short]
    dsimp only
    rw [inductionHypothesis fun other member => sendable other (List.mem_cons_of_mem m member),
      List.flatMap_cons, List.append_assoc]

/-- Messages are read from their frames, and what follows is left. -/
theorem readAll_eq {messages : List Message} (sendable : ∀ m ∈ messages, m.IsSendable)
    (rest : Bytes) :
    Frame.readAll (messages.map fun m => decode m.direction)
        (messages.flatMap (fun m => Frame.ofJson m.toJson) ++ rest) = (.ok messages, rest) := by
  induction messages with
  | nil => rfl
  | cons m others inductionHypothesis =>
    rw [List.map_cons, List.flatMap_cons, List.append_assoc, Frame.readAll,
      read_ofJson (sendable m List.mem_cons_self)]
    dsimp only
    rw [inductionHypothesis fun other member => sendable other (List.mem_cons_of_mem m member)]
    rfl

/-! ### Two messages -/

/-- A query with a group inside a group and the least and the greatest number. -/
def sampleQuery : Query :=
  ⟨some (.mk [⟨"company", .contains, some "O'Brien \"\\\n"⟩]
      [.mk [⟨"url", .isEmpty, none⟩] [] .or] .and),
    none, some .descending, -9223372036854775808, 9223372036854775807⟩

/-- An application from a leap second with a fraction, in a year with a sign. -/
def sampleRecord : ApplicationRecord :=
  ⟨"7", ⟨"Ingénieur 😀", "", "", "", "", "", "", "", true, ⟨-62198755201, 1250000000⟩⟩,
    ["cv_7.pdf", "note_7"]⟩

theorem isSendable_sampleQuery : (request (.query sampleQuery)).IsSendable := by
  refine ⟨by constructor <;> constructor <;> decide, ?_, by decide⟩
  simp only [toJson, Request.toJson, Query.toJson, sampleQuery, Json.optionalMember, Group.toJson,
    Group.allToJson, Predicate.toJson, Json.compact, Json.compactItems, Json.compactMembers,
    Json.stringText_eq, List.map_cons, List.map_nil, List.cons_append, List.nil_append]
  decide +kernel

theorem isSendable_sampleRecord : (response (.uploaded "stored" sampleRecord 2)).IsSendable := by
  refine ⟨⟨⟨.inr (by decide), by decide⟩, by decide⟩, ?_, by decide⟩
  simp only [toJson, Response.toJson, ApplicationRecord.toJson, ApplicationFields.members,
    sampleRecord, Json.compact, Json.compactItems, Json.compactMembers, Json.stringText_eq,
    List.map_cons, List.map_nil, List.cons_append, List.nil_append]
  decide +kernel

/-- A request and a response. -/
def samples : List Message :=
  [request (.query sampleQuery), response (.uploaded "stored" sampleRecord 2)]

theorem isSendable_samples : ∀ m ∈ samples, m.IsSendable :=
  List.forall_mem_cons.mpr ⟨isSendable_sampleQuery,
    List.forall_mem_cons.mpr ⟨isSendable_sampleRecord, nofun⟩⟩

/-! ### The way through a stream -/

/-- A message that can be sent is written, and read back with what follows it left. Messages that
are written one after the other are read back in order. -/
theorem read_written {messages : List Message} (sendable : ∀ m ∈ messages, m.IsSendable)
    (taken rest : Bytes) :
    (∀ m ∈ messages, ∃ frame,
      Frame.write m.toJson ⟨taken, none, true⟩ = (⟨taken ++ frame, none, true⟩, .ok ()) ∧
        Frame.read (decode m.direction) (frame ++ rest) = (.ok m, rest)) ∧
    ∃ stream,
      Frame.writeAll (messages.map toJson) ⟨taken, none, true⟩ =
        (⟨taken ++ stream, none, true⟩, .ok ()) ∧
      Frame.readAll (messages.map fun m => decode m.direction) (stream ++ rest) =
        (.ok messages, rest) := by
  constructor
  · intro m member
    exact ⟨Frame.ofJson m.toJson, Frame.write_eq (sendable m member).short taken,
      read_ofJson (sendable m member) rest⟩
  · exact ⟨_, writeAll_eq sendable taken, readAll_eq sendable rest⟩

/-- The two messages are written one after the other and read back. -/
theorem read_written_samples :
    (∀ m ∈ samples, m.IsSendable) ∧
    ∃ stream,
      Frame.writeAll (samples.map toJson) ⟨[], none, true⟩ = (⟨stream, none, true⟩, .ok ()) ∧
      Frame.readAll (samples.map fun m => decode m.direction) (stream ++ [0]) =
        (.ok samples, [0]) :=
  ⟨isSendable_samples, (read_written isSendable_samples [] [0]).2⟩

end Message

end ApplicationLedger
