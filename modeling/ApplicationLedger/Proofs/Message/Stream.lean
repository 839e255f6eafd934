/-
This file says what is read from any stream of bytes, whoever sent it. The first four bytes decide
how many belong to the first frame, and nothing behind these is looked at. A message is read only
from a whole frame whose body is its text. A whole frame with another body is refused as wrong, and
what follows it can still be read. A length that is too great is found before the body is waited
for, and a stream that ends before its first frame does holds no message, so half of what was
written is never taken for a message.
-/

import ApplicationLedger.Proofs.Message.Sink

namespace ApplicationLedger.Frame

variable {α : Type} {decode : Decoder α} {header body stream : Bytes} {message : α}

/-! ### The body of a frame -/

/-- Whether a body is the text of a message: the UTF-8 form of one JSON text, from which the message
is decoded. -/
def Carries (decode : Decoder α) (body : Bytes) (message : α) : Prop :=
  ∃ text value, body = Bytes.ofText text ∧ Json.ofText? text = some value ∧
    decode.ofText text = .ok message

theorem decodeBody_of_carries (carried : Carries decode body message) :
    decodeBody decode body = .ok message := by
  obtain ⟨text, value, rfl, parsed, found⟩ := carried
  simp only [decodeBody, Bytes.text?_ofText, parsed, Option.isNone_some, Bool.false_eq_true,
    if_false, found]

/-- A body carries a message, or it is refused as wrong. -/
theorem decodeBody_cases (decode : Decoder α) (body : Bytes) :
    (∃ message, Carries decode body message) ∨
      ∃ reason, decodeBody decode body = .error (.validation reason) := by
  cases read : Bytes.text? body with
  | none =>
    rw [decodeBody, read]
    exact .inr ⟨_, rfl⟩
  | some text =>
    cases parsed : Json.ofText? text with
    | none =>
      simp only [decodeBody, read, parsed, Option.isNone_none, if_true]
      exact .inr ⟨_, rfl⟩
    | some value =>
      cases found : decode.ofText text with
      | ok message =>
        exact .inl ⟨message, text, value, Bytes.text?_eq_some_iff.mp read, parsed, found⟩
      | error fault =>
        simp only [decodeBody, read, parsed, Option.isNone_some, Bool.false_eq_true, if_false,
          found]
        exact .inr ⟨_, rfl⟩

theorem decodeBody_eq_ok_iff :
    decodeBody decode body = .ok message ↔ Carries decode body message := by
  refine ⟨fun decoded => ?_, decodeBody_of_carries⟩
  rcases decodeBody_cases decode body with ⟨_, carried⟩ | ⟨_, refused⟩
  · cases (decodeBody_of_carries carried).symm.trans decoded
    exact carried
  · cases refused.symm.trans decoded

/-- A body that carries no message is refused as wrong. -/
theorem exists_decodeBody_eq_error (empty : ∀ message, ¬Carries decode body message) :
    ∃ reason, decodeBody decode body = .error (.validation reason) :=
  (decodeBody_cases decode body).resolve_left fun ⟨message, carried⟩ => empty message carried

/-! ### The frame of a stream -/

/-- A stream is too short for a header, or its header announces too much, or it ends before the body
does, or it begins with a frame. -/
theorem stream_cases (stream : Bytes) :
    stream.length < headerLength ∨
      ∃ header behind, header.length = headerLength ∧ stream = header ++ behind ∧
        (greatestLength < lengthOf header ∨
          (lengthOf header ≤ greatestLength ∧ behind.length < lengthOf header) ∨
          ∃ body rest, behind = body ++ rest ∧ IsFrame header body) := by
  by_cases little : stream.length < headerLength
  · exact .inl little
  · have width : (stream.take headerLength).length = headerLength := by
      rw [List.length_take]
      omega
    refine .inr ⟨_, _, width, (List.take_append_drop headerLength stream).symm, ?_⟩
    by_cases large : greatestLength < lengthOf (stream.take headerLength)
    · exact .inl large
    · have short := Nat.le_of_not_lt large
      by_cases torn : (stream.drop headerLength).length < lengthOf (stream.take headerLength)
      · exact .inr (.inl ⟨short, torn⟩)
      · have length : ((stream.drop headerLength).take
            (lengthOf (stream.take headerLength))).length =
              lengthOf (stream.take headerLength) := by
          rw [List.length_take]
          omega
        exact .inr (.inr ⟨_, _, (List.take_append_drop _ _).symm, width, length.symm,
          length.symm ▸ short⟩)

theorem read_of_little (little : stream.length < headerLength) :
    read decode stream = (.error (endsEarly "length"), []) := by
  rw [read, if_pos little]

/-- A length that is too great is found when the header has been read. -/
theorem read_of_large (width : header.length = headerLength)
    (large : greatestLength < lengthOf header) (rest : Bytes) :
    read decode (header ++ rest) = (.error (tooLarge (lengthOf header)), rest) := by
  have long : ¬(header ++ rest).length < headerLength := by
    rw [List.length_append]
    omega
  rw [read, if_neg long, List.take_left' width, List.drop_left' width]
  simp only [if_pos large]

theorem read_of_torn (width : header.length = headerLength)
    (short : lengthOf header ≤ greatestLength) {rest : Bytes}
    (torn : rest.length < lengthOf header) :
    read decode (header ++ rest) = (.error (endsEarly "body"), []) := by
  have long : ¬(header ++ rest).length < headerLength := by
    rw [List.length_append]
    omega
  rw [read, if_neg long, List.take_left' width, List.drop_left' width]
  simp only [if_neg (Nat.not_lt.mpr short), if_pos torn]

/-- A message is read from a whole frame whose body carries it, and from nothing else. -/
theorem read_eq_ok_iff {rest : Bytes} :
    read decode stream = (.ok message, rest) ↔
      ∃ header body, IsFrame header body ∧ stream = header ++ body ++ rest ∧
        Carries decode body message := by
  constructor
  · intro received
    rcases stream_cases stream with little | ⟨header, behind, width, rfl, large | torn | framed⟩
    · rw [read_of_little little] at received
      cases received
    · rw [read_of_large width large] at received
      cases received
    · rw [read_of_torn width torn.1 torn.2] at received
      cases received
    · obtain ⟨body, rest', rfl, isFrame⟩ := framed
      rw [← List.append_assoc, read_of_isFrame decode isFrame, Prod.mk.injEq] at received
      obtain ⟨decoded, rfl⟩ := received
      exact ⟨header, body, isFrame, (List.append_assoc _ _ _).symm,
        decodeBody_eq_ok_iff.mp decoded⟩
  · rintro ⟨header, body, isFrame, rfl, carried⟩
    rw [read_of_isFrame decode isFrame, decodeBody_eq_ok_iff.mpr carried]

/-- A stream that ends before its first frame does is refused, and the connection with it. -/
theorem exists_read_eq_ipc
    (early : stream.length < headerLength + lengthOf (stream.take headerLength)) :
    ∃ reason, (read decode stream).1 = .error (.ipc reason) := by
  rcases stream_cases stream with little | ⟨header, behind, width, rfl, large | torn | framed⟩
  · rw [read_of_little little]
    exact ⟨_, rfl⟩
  · rw [read_of_large width large]
    exact ⟨_, rfl⟩
  · rw [read_of_torn width torn.1 torn.2]
    exact ⟨_, rfl⟩
  · obtain ⟨body, rest, rfl, isFrame⟩ := framed
    rw [List.take_left' width, isFrame.length] at early
    simp only [List.length_append, width] at early
    omega

/-- A frame that is cut anywhere is no message. -/
theorem exists_read_eq_ipc_of_prefix (isFrame : IsFrame header body) {part : Bytes}
    (begins : part <+: header ++ body) (cut : part ≠ header ++ body) :
    ∃ reason, (read decode part).1 = .error (.ipc reason) := by
  have width := isFrame.width
  have length := isFrame.length
  have less : part.length < headerLength + body.length := by
    have atMost := begins.length_le
    have apart := mt begins.eq_of_length cut
    rw [List.length_append] at atMost apart
    omega
  apply exists_read_eq_ipc
  by_cases little : part.length < headerLength
  · omega
  · have same : part.take headerLength = header := by
      obtain ⟨rest, joined⟩ := begins
      rw [← List.take_append_of_le_length (Nat.le_of_not_lt little), joined,
        List.take_left' width]
    rwa [same, length]

/-- How a stream is read, for messages of any kind. A message is read if and only if the stream
begins with a frame whose body carries it, and what follows the frame is left. A frame with another
body is refused as wrong, and what follows it is left as well. If the header announces too much,
nothing behind the header is taken. A stream that ends before its header does, or before the body
that is announced, is refused. What is read does not depend on what follows the first frame. And
whatever was written without a fault, no proper part from its beginning is read as a message. -/
theorem read_first_frame (decode : Decoder α) :
    (∀ stream message rest, read decode stream = (.ok message, rest) ↔
      ∃ header body, IsFrame header body ∧ stream = header ++ body ++ rest ∧
        Carries decode body message) ∧
    (∀ header body, IsFrame header body → (∀ message, ¬Carries decode body message) →
      ∃ reason, ∀ rest,
        read decode (header ++ body ++ rest) = (.error (.validation reason), rest)) ∧
    (∀ header, header.length = headerLength → greatestLength < lengthOf header →
      ∃ reason, ∀ rest, read decode (header ++ rest) = (.error (.ipc reason), rest)) ∧
    (∀ stream, stream.length < headerLength + lengthOf (stream.take headerLength) →
      ∃ reason, (read decode stream).1 = .error (.ipc reason)) ∧
    (∀ header body, IsFrame header body →
      ∃ result, ∀ rest, read decode (header ++ body ++ rest) = (result, rest)) ∧
    (∀ written sink sink', write written sink = (sink', .ok ()) →
      ∃ frame, sink'.taken = sink.taken ++ frame ∧ ∀ part, part <+: frame → part ≠ frame →
        ∃ reason, (read decode part).1 = .error (.ipc reason)) := by
  refine ⟨fun _ _ _ => read_eq_ok_iff, ?_, ?_, fun _ => exists_read_eq_ipc, ?_, ?_⟩
  · intro header body isFrame empty
    obtain ⟨reason, refused⟩ := exists_decodeBody_eq_error empty
    exact ⟨reason, fun rest => by rw [read_of_isFrame decode isFrame, refused]⟩
  · intro header width large
    exact ⟨_, fun rest => read_of_large width large rest⟩
  · intro header body isFrame
    exact ⟨_, read_of_isFrame decode isFrame⟩
  · intro written sink sink' done
    obtain ⟨short, taken⟩ := taken_of_write done
    exact ⟨_, taken, fun _ => exists_read_eq_ipc_of_prefix (isFrame_header short)⟩

theorem not_carries_brace (message : α) : ¬Carries decode [123] message := by
  rintro ⟨text, value, same, parsed, -⟩
  obtain rfl : "\x7b" = text := Option.some.inj (Bytes.text?_eq_some_iff.mpr same)
  have broken : Json.ofText? "\x7b" = none := rfl
  rw [broken] at parsed
  cases parsed

/-- A query with a byte behind it, a lone brace, a length beyond the limit, three bytes, and a part
of the frame of `null`. -/
theorem read_first_frame_sample :
    (read Request.decode (ofJson (Request.query Message.sampleQuery).toJson ++ [0]) =
        (.ok (.query Message.sampleQuery), [0])) ∧
    (∃ reason, ∀ rest,
      read Request.decode ([1, 0, 0, 0] ++ [123] ++ rest) = (.error (.validation reason), rest)) ∧
    (∃ reason, ∀ rest,
      read Request.decode ([1, 0, 0, 1] ++ rest) = (.error (.ipc reason), rest)) ∧
    (∃ reason, (read Request.decode [1, 0, 0]).1 = .error (.ipc reason)) ∧
    write .null .open = (⟨[4, 0, 0, 0, 110, 117, 108, 108], none, true⟩, .ok ()) ∧
      ∃ reason, (read Request.decode [4, 0, 0, 0, 110, 117]).1 = .error (.ipc reason) := by
  obtain ⟨accepts, refuses, bounds, waits, -, cut⟩ := read_first_frame Request.decode
  have sendable := Message.isSendable_sampleQuery
  have inRange : (Request.query Message.sampleQuery).InRange := sendable.inRange
  have carried := decodeBody_eq_ok_iff.mp (decodeBody_ofText (Request.isExact_toJson inRange)
    sendable.shallow (Request.decode_toJson inRange sendable.shallow))
  have written : write .null .open =
      (⟨[4, 0, 0, 0, 110, 117, 108, 108], none, true⟩, .ok ()) := rfl
  obtain ⟨_, rfl, parts⟩ := cut _ _ _ written
  exact ⟨(accepts _ _ _).mpr ⟨_, _, isFrame_header sendable.short, rfl, carried⟩,
    refuses _ _ ⟨rfl, rfl, by decide⟩ not_carries_brace, bounds _ rfl (by decide),
    waits _ (by decide), written, parts _ (by decide) (by decide)⟩

end ApplicationLedger.Frame
