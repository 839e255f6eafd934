/-
This file proves that a remote call is as good as a local one. A request that the client writes is
carried out by the service as if it were made there, and the client reads the response as it was
given. There are two limits. A response that is too long is not sent, and the client is left with a
connection that was closed. And what the client writes may nest deeper than the service reads: such
a request is not carried out, and the client is told that it is wrong.
-/

import ApplicationLedger.Client.Delivery
import ApplicationLedger.Proofs.Service.Answers
import ApplicationLedger.Proofs.Service.Records

namespace ApplicationLedger

/-! ### Frames -/

namespace Frame

/-- A sink without bounds refuses a message only if it is too long. -/
theorem write_open_eq_ok_iff {message : Json} :
    (write message .open).2 = .ok () ↔ message.compact.utf8ByteSize ≤ greatestLength := by
  constructor
  · intro accepted
    by_contra long
    rw [write, if_pos (Nat.lt_of_not_le long)] at accepted
    cases accepted
  · intro short
    exact congrArg Prod.snd (write_eq short [])

/-- A body that nests too deep is refused. -/
theorem decodeBody_of_deep {α : Type} (decode : Decoder α) {message : Json}
    (exact : message.IsExact) (deep : Json.nestingLimit < message.depth) :
    decodeBody decode (Bytes.ofText message.compact) =
      .error (.validation ("Failed to parse message: " ++ DecodeFault.malformed.message)) := by
  simp only [decodeBody, Bytes.text?_ofText, Json.ofText?_compact_eq_none exact deep,
    Option.isNone_none, if_true]

end Frame

/-! ### The service -/

namespace Service

variable {s : Service} {now : Instant}

/-- A response is sent if it is not too long. -/
theorem frame?_eq (response : Response) :
    frame? response =
      if response.toJson.compact.utf8ByteSize ≤ Frame.greatestLength then
        some (Frame.ofJson response.toJson)
      else none := by
  unfold frame?
  by_cases short : response.toJson.compact.utf8ByteSize ≤ Frame.greatestLength
  · have written : Frame.write response.toJson .open = _ := Frame.write_eq short []
    rw [written, if_pos short, List.nil_append]
  · rw [Frame.write, if_pos (Nat.lt_of_not_le short), if_neg short]

/-- A request that comes in a frame is carried out. -/
theorem exchange_ofJson {request : Request} (inRange : request.InRange)
    (short : request.toJson.compact.utf8ByteSize ≤ Frame.greatestLength)
    (shallow : request.toJson.depth ≤ Json.nestingLimit) :
    s.exchange now (Frame.ofJson request.toJson) =
      ((s.dispatch now request).1, frame? (s.dispatch now request).2) := by
  have body := Frame.decodeBody_ofText (Request.isExact_toJson inRange) shallow
    (Request.decode_toJson inRange shallow)
  have received := Frame.read_frame Request.decode short []
  rw [List.append_nil, body] at received
  simp only [exchange, received]

/-- The fault of a request that nests too deep. -/
def tooDeep : Fault :=
  .validation ("Failed to parse message: " ++ DecodeFault.malformed.message)

/-- A request that nests too deep is not carried out, and its client is told so. -/
theorem exchange_of_deep {request : Request} (inRange : request.InRange)
    (short : request.toJson.compact.utf8ByteSize ≤ Frame.greatestLength)
    (deep : Json.nestingLimit < request.toJson.depth) :
    s.exchange now (Frame.ofJson request.toJson) = (s, frame? (.ofFault tooDeep)) := by
  have body := Frame.decodeBody_of_deep Request.decode (Request.isExact_toJson inRange) deep
  have received := Frame.read_frame Request.decode short []
  rw [List.append_nil, body] at received
  simp only [exchange, received, tooDeep]

end Service

/-! ### The client -/

namespace Call

variable {s : Service} {now : Instant}

/-- What is sent arrives, and so does what comes back. -/
theorem deliver_eq {c : Call}
    (short : c.request.toJson.compact.utf8ByteSize ≤ Frame.greatestLength) :
    c.deliver s now =
      ((s.exchange now (Frame.ofJson c.request.toJson)).1,
        .received ((s.exchange now (Frame.ofJson c.request.toJson)).2.getD [])) := by
  have written : Frame.write c.request.toJson .open = _ := Frame.write_eq short []
  rw [deliver, written, List.nil_append]

theorem response_received {c : Call}
    (short : c.request.toJson.compact.utf8ByteSize ≤ Frame.greatestLength) (bytes : Bytes) :
    c.response (.received bytes) = (Frame.read Response.decode bytes).1 := by
  rw [response, Frame.write_open_eq_ok_iff.mpr short]

/-- The client reads one response, and nothing is left behind it. -/
theorem read_response {response : Response} (inRange : response.InRange)
    (short : response.toJson.compact.utf8ByteSize ≤ Frame.greatestLength) :
    Frame.read Response.decode (Frame.ofJson response.toJson) = (.ok response, []) := by
  have shallow := Nat.le_trans response.depth_toJson_le (by decide : 4 ≤ Json.nestingLimit)
  have read := Frame.read_ofJson (Response.isExact_toJson inRange) shallow short
    (Response.decode_toJson inRange shallow) []
  rwa [List.append_nil] at read

/-- What a client with a request that nests too deep is told is short. -/
theorem short_tooDeep :
    (Response.ofFault Service.tooDeep).toJson.compact.utf8ByteSize ≤ Frame.greatestLength := by
  simp only [Response.ofFault, Response.toJson, Json.integer, Json.compact, Json.compactMembers,
    Json.numberText, Json.stringText_eq]
  decide +kernel

/-- If the request does not nest too deep, the service is left as the request leaves it there, and
what it sends is its response. -/
theorem deliver_of_shallow {c : Call} (inRange : c.request.InRange)
    (short : c.request.toJson.compact.utf8ByteSize ≤ Frame.greatestLength)
    (shallow : c.request.toJson.depth ≤ Json.nestingLimit) :
    c.deliver s now =
      ((s.dispatch now c.request).1,
        .received ((Service.frame? (s.dispatch now c.request).2).getD [])) := by
  rw [deliver_eq short, Service.exchange_ofJson inRange short shallow]

/-- If it nests too deep, the service is left as it was, and says so. -/
theorem deliver_of_deep {c : Call} (inRange : c.request.InRange)
    (short : c.request.toJson.compact.utf8ByteSize ≤ Frame.greatestLength)
    (deep : Json.nestingLimit < c.request.toJson.depth) :
    c.deliver s now = (s, .received (Frame.ofJson (Response.ofFault Service.tooDeep).toJson)) := by
  rw [deliver_eq short, Service.exchange_of_deep inRange short deep, Service.frame?_eq,
    if_pos short_tooDeep]
  rfl

/-- Whether a reply is one frame with a response, with nothing behind it, and this response is what
the client is given. -/
def IsAnsweredBy (c : Call) (reply : Reply) (response : Response) : Prop :=
  c.response reply = .ok response ∧
    ∃ frame, reply = .received frame ∧ Frame.read Response.decode frame = (.ok response, [])

theorem isAnsweredBy_ofJson {c : Call}
    (short : c.request.toJson.compact.utf8ByteSize ≤ Frame.greatestLength) {response : Response}
    (inRange : response.InRange)
    (fits : response.toJson.compact.utf8ByteSize ≤ Frame.greatestLength) :
    c.IsAnsweredBy (.received (Frame.ofJson response.toJson)) response := by
  have read := read_response inRange fits
  exact ⟨(response_received short _).trans (congrArg Prod.fst read), _, rfl, read⟩

/-- The outcome of a remote call, whatever the service has stored. If the request does not nest too
deep, the service is left as the request leaves it there, and its response, unless it is too long,
comes back in one frame and is what the client is given; if it is too long, nothing comes back and
the client finds the end of the stream. If the request nests too deep, the service is left as it
was, and what comes back says that the request is wrong. The end of a link made now has to be an
instant that there is. -/
theorem response_deliver (s : Service) (now : Instant) {c : Call} (inRange : c.request.InRange)
    (accepted : (Frame.write c.request.toJson .open).2 = .ok ())
    (lasting : (now.addSeconds s.bucket.signer.lifetime).InRange) :
    (c.request.toJson.depth ≤ Json.nestingLimit →
      (c.deliver s now).1 = (s.dispatch now c.request).1 ∧
      if (s.dispatch now c.request).2.toJson.compact.utf8ByteSize ≤ Frame.greatestLength then
        c.IsAnsweredBy (c.deliver s now).2 (s.dispatch now c.request).2
      else
        c.response (c.deliver s now).2 = .error (Frame.endsEarly "length") ∧
          (c.deliver s now).2 = .received []) ∧
    (Json.nestingLimit < c.request.toJson.depth →
      (c.deliver s now).1 = s ∧ c.IsAnsweredBy (c.deliver s now).2 (.ofFault Service.tooDeep)) := by
  have short := Frame.write_open_eq_ok_iff.mp accepted
  constructor
  · intro shallow
    rw [deliver_of_shallow inRange short shallow, Service.frame?_eq]
    refine ⟨rfl, ?_⟩
    by_cases fits : (s.dispatch now c.request).2.toJson.compact.utf8ByteSize ≤ Frame.greatestLength
    · rw [if_pos fits, if_pos fits, Option.getD_some]
      exact isAnsweredBy_ofJson short (s.inRange_dispatch inRange short lasting) fits
    · rw [if_neg fits, if_neg fits, Option.getD_none, response_received short]
      exact ⟨rfl, rfl⟩
  · intro deep
    rw [deliver_of_deep inRange short deep]
    exact ⟨rfl, isAnsweredBy_ofJson short (Response.inRange_ofFault _) short_tooDeep⟩

/-! ### A request that nests too deep -/

/-- A group with a predicate on no column, inside some groups. -/
def nestedGroup : Nat → Group
  | 0 => .mk [⟨"salary", .isEmpty, none⟩] [] .and
  | levels + 1 => .mk [] [nestedGroup levels] .and

theorem walk_nestedGroup (levels : Nat) :
    (nestedGroup levels).walk = [⟨"salary", .isEmpty, none⟩] := by
  induction levels with
  | zero => rfl
  | succ levels inductionHypothesis =>
    rw [nestedGroup, Group.walk, Group.walkAll, inductionHypothesis]
    rfl

theorem depth_nestedGroup (levels : Nat) : (nestedGroup levels).toJson.depth = 2 * levels + 3 := by
  induction levels with
  | zero => rfl
  | succ levels inductionHypothesis =>
    simp only [nestedGroup, Group.toJson, Group.allToJson, Json.depth, Json.membersDepth,
      Json.itemsDepth, List.map_nil, inductionHypothesis]
    omega

/-- Each group around another one takes as many bytes. -/
theorem utf8ByteSize_around (inner : Group) :
    (Group.mk [] [inner] .and).toJson.compact.utf8ByteSize +
        (nestedGroup 0).toJson.compact.utf8ByteSize =
      inner.toJson.compact.utf8ByteSize + (nestedGroup 1).toJson.compact.utf8ByteSize := by
  simp only [nestedGroup, Group.toJson, Group.allToJson, List.map_nil, Json.compact,
    Json.compactItems, Json.compactMembers, String.utf8ByteSize_append]
  omega

theorem utf8ByteSize_nestedGroup (levels : Nat) :
    (nestedGroup levels).toJson.compact.utf8ByteSize = 46 * levels + 86 := by
  have sizes : (nestedGroup 0).toJson.compact.utf8ByteSize = 86 ∧
      (nestedGroup 1).toJson.compact.utf8ByteSize = 132 := by
    simp only [nestedGroup, Group.toJson, Group.allToJson, Predicate.toJson, Json.optionalMember,
      List.map_cons, List.map_nil, List.append_nil, Json.compact, Json.compactItems,
      Json.compactMembers, Json.stringText_eq]
    decide +kernel
  induction levels with
  | zero => exact sizes.1
  | succ levels inductionHypothesis =>
    have around := utf8ByteSize_around (nestedGroup levels)
    rw [nestedGroup]
    omega

/-- A query with 63 groups, one inside the other. -/
def deepCall : Call :=
  ⟨usualAddress, .query { Query.everything with filter := some (nestedGroup 62) }⟩

theorem inRange_deepCall : deepCall.request.InRange := by
  constructor <;> constructor <;> decide

theorem short_deepCall :
    deepCall.request.toJson.compact.utf8ByteSize ≤ Frame.greatestLength := by
  simp only [deepCall, Request.toJson, Query.toJson, Query.everything, Json.optionalMember,
    Json.integer, List.append_nil, List.cons_append, List.nil_append, Json.compact,
    Json.compactMembers, Json.numberText, String.utf8ByteSize_append, utf8ByteSize_nestedGroup,
    Json.stringText_eq]
  decide +kernel

theorem deep_deepCall : Json.nestingLimit < deepCall.request.toJson.depth := by
  have inside := depth_nestedGroup 62
  simp only [deepCall, Request.toJson, Query.toJson, Query.everything, Json.optionalMember,
    Json.depth, Json.membersDepth, List.cons_append, List.nil_append, inside, Json.nestingLimit]
  omega

/-- Made in the service itself, the call fails at its predicate, whatever is stored. -/
theorem dispatch_deepCall (s : Service) (now : Instant) :
    (s.dispatch now deepCall.request).2 =
      .ofFault (.validation "unknown filter field: salary") := by
  have compiled : Query.compile { Query.everything with filter := some (nestedGroup 62) } =
      .error (.unknownField "salary") := by
    have walked := walk_nestedGroup 62
    rw [Query.compile, Query.check, Query.walk]
    simp only [walked]
    rfl
  simp only [Service.dispatch, deepCall, Service.query, RecordStore.query, compiled]
  rfl

/-! ### A response that is too long -/

/-- A title of some length. -/
def longTitle (length : Nat) : String := String.ofList (List.replicate length 'a')

theorem utf8ByteSize_longTitle (length : Nat) :
    (Json.stringText (longTitle length)).utf8ByteSize = length + 2 := by
  have letters : (String.ofList (List.replicate length 'a')).utf8ByteSize = length := by
    induction length with
    | zero => rfl
    | succ length inductionHypothesis =>
      rw [List.replicate_succ', String.ofList_append, String.utf8ByteSize_append,
        inductionHypothesis]
      rfl
  have plain : (List.replicate length 'a').any Json.needsEscape = false :=
    List.any_eq_false.mpr fun c member => by
      rw [List.eq_of_mem_replicate member]
      decide
  have quotes : (String.ofList ['"']).utf8ByteSize = 1 := rfl
  rw [Json.stringText_eq, longTitle, String.toList_ofList, Json.flatMap_escapedChar plain,
    ← List.singleton_append, String.ofList_append, String.ofList_append,
    String.utf8ByteSize_append, String.utf8ByteSize_append, letters, quotes]
  omega

/-- An application with such a title, its upload, and the response to that. -/
def longFields (length : Nat) : ApplicationFields :=
  { ApplicationFields.sample with title := longTitle length }

@[inherit_doc longFields]
def longUpload (length : Nat) : Request := .upload (longFields length) []

@[inherit_doc longFields]
def longReceipt (length : Nat) : Response :=
  .uploaded "Job application received" (Service.bareRecord (longFields length)) 0

theorem utf8ByteSize_longUpload (length : Nat) :
    (longUpload length).toJson.compact.utf8ByteSize =
      (longUpload 0).toJson.compact.utf8ByteSize + length := by
  simp only [longUpload, longFields, Request.toJson, ApplicationFields.toJson,
    ApplicationFields.members, Json.compact, Json.compactMembers, String.utf8ByteSize_append,
    utf8ByteSize_longTitle]
  omega

theorem utf8ByteSize_longReceipt (length : Nat) :
    (longReceipt length).toJson.compact.utf8ByteSize =
      (longReceipt 0).toJson.compact.utf8ByteSize + length := by
  simp only [longReceipt, longFields, Response.toJson, ApplicationRecord.toJson,
    Service.bareRecord, ApplicationFields.members, List.cons_append, Json.compact,
    Json.compactMembers, String.utf8ByteSize_append, utf8ByteSize_longTitle]
  omega

/-- The response says more than the request. -/
theorem utf8ByteSize_longUpload_lt :
    (longUpload 0).toJson.compact.utf8ByteSize < (longReceipt 0).toJson.compact.utf8ByteSize ∧
      (longUpload 0).toJson.compact.utf8ByteSize ≤ Frame.greatestLength := by
  simp only [longUpload, longReceipt, longFields, Service.bareRecord, ApplicationFields.sample,
    Request.toJson, Response.toJson, ApplicationRecord.toJson, ApplicationFields.toJson,
    ApplicationFields.members, Json.integer, List.cons_append, List.nil_append, List.map_nil,
    Json.compact, Json.compactMembers, Json.compactItems, Json.numberText, Json.stringText_eq]
  decide +kernel

/-- A call that is just short enough to be sent. -/
def longCall : Call :=
  ⟨usualAddress, longUpload (Frame.greatestLength - (longUpload 0).toJson.compact.utf8ByteSize)⟩

theorem inRange_longCall : longCall.request.InRange := ⟨.inl (by decide), by decide⟩

theorem short_longCall :
    longCall.request.toJson.compact.utf8ByteSize ≤ Frame.greatestLength := by
  have bound := utf8ByteSize_longUpload_lt.2
  rw [longCall, utf8ByteSize_longUpload]
  omega

theorem shallow_longCall : longCall.request.toJson.depth ≤ Json.nestingLimit := by
  simp only [longCall, longUpload, Request.toJson, ApplicationFields.toJson,
    ApplicationFields.members, Json.depth, Json.membersDepth, Json.itemsDepth, List.map_nil]
  decide

/-- The upload is carried out in any case. -/
theorem dispatch_longUpload (length : Nat) :
    (Service.unused.dispatch ⟨0, 0⟩ (longUpload length)).1.records =
        .ofRecords .bundled .standard [] [Service.bareRecord (longFields length)] ∧
      (Service.unused.dispatch ⟨0, 0⟩ (longUpload length)).2 = longReceipt length := by
  have decoded : List.mapM WireFile.file [] = Except.ok (ε := Fault) [] := rfl
  simp only [Service.dispatch, longUpload, decoded, Service.upload_unused_bare, true_and]
  rfl

theorem long_longCall :
    ¬ (Service.unused.dispatch ⟨0, 0⟩ longCall.request).2.toJson.compact.utf8ByteSize ≤
      Frame.greatestLength := by
  have bounds := utf8ByteSize_longUpload_lt
  rw [longCall, (dispatch_longUpload _).2, utf8ByteSize_longReceipt]
  omega

/-- Sent from a client, a call that is accepted can end otherwise than in the service itself: if it
nests too deep, whatever is stored, and if it is answered at length. -/
theorem response_ne_of_deep_or_long :
    (deepCall.request.InRange ∧ (Frame.write deepCall.request.toJson .open).2 = .ok () ∧
      ∀ (s : Service) (now : Instant),
        deepCall.response (deepCall.deliver s now).2 ≠ .ok (s.dispatch now deepCall.request).2) ∧
    longCall.request.InRange ∧ (Frame.write longCall.request.toJson .open).2 = .ok () ∧
      longCall.response (longCall.deliver .unused ⟨0, 0⟩).2 ≠
        .ok (Service.unused.dispatch ⟨0, 0⟩ longCall.request).2 := by
  refine ⟨⟨inRange_deepCall, Frame.write_open_eq_ok_iff.mpr short_deepCall, ?_⟩,
    inRange_longCall, Frame.write_open_eq_ok_iff.mpr short_longCall, ?_⟩
  · intro s now same
    rw [deliver_of_deep inRange_deepCall short_deepCall deep_deepCall,
      response_received short_deepCall, read_response (Response.inRange_ofFault _) short_tooDeep,
      dispatch_deepCall] at same
    cases same
  · intro same
    rw [deliver_of_shallow inRange_longCall short_longCall shallow_longCall,
      response_received short_longCall, Service.frame?_eq, if_neg long_longCall] at same
    cases same

/-! ### Three calls -/

/-- A call for everything. -/
def plainCall : Call := ⟨usualAddress, .query .everything⟩

theorem short_plainCall :
    plainCall.request.toJson.compact.utf8ByteSize ≤ Frame.greatestLength := by
  simp only [plainCall, Request.toJson, Query.toJson, Query.everything, Json.optionalMember,
    Json.integer, List.nil_append, Json.compact, Json.compactMembers, Json.numberText,
    Json.stringText_eq]
  decide +kernel

/-- A service that has stored one record. -/
def smallService : Service :=
  { Service.unused with
      records := .ofRecords .bundled .standard [] [Service.bareRecord .sample] }

theorem dispatch_plainCall (now : Instant) :
    (smallService.dispatch now plainCall.request).2 =
      .results [Service.bareRecord .sample] := by
  have only {p : ApplicationRecord → Prop} (holds : p (Service.bareRecord .sample)) :
      ∀ entry ∈ [Service.bareRecord .sample], p entry :=
    fun _ member => List.mem_singleton.mp member ▸ holds
  obtain ⟨sorted, perm, answer⟩ := RecordStore.query_unfiltered .bundled .standard []
    (only (.inl (by decide))) (q := .everything) rfl (Int.le_refl 0) rfl
  rw [if_pos (only (by constructor <;> decide)), List.perm_singleton.mp perm] at answer
  simp only [Service.dispatch, plainCall, Service.query, smallService, answer]
  rfl

theorem short_response_plainCall :
    (Response.results [Service.bareRecord .sample]).toJson.compact.utf8ByteSize ≤
      Frame.greatestLength := by
  simp only [Response.toJson, ApplicationRecord.toJson, Service.bareRecord,
    ApplicationFields.sample, ApplicationFields.members, List.map_cons, List.map_nil,
    List.cons_append, List.nil_append, Json.compact, Json.compactMembers, Json.compactItems,
    Json.stringText_eq]
  decide +kernel

/-- A call for everything brings the one record, a call that nests too deep is refused, and an
upload with a long title is carried out without an answer. -/
theorem response_deliver_threeCalls :
    plainCall.IsAnsweredBy (plainCall.deliver smallService ⟨0, 0⟩).2
        (.results [Service.bareRecord .sample]) ∧
      deepCall.IsAnsweredBy (deepCall.deliver smallService ⟨0, 0⟩).2 (.ofFault Service.tooDeep) ∧
      longCall.response (longCall.deliver .unused ⟨0, 0⟩).2 = .error (Frame.endsEarly "length") ∧
      ∃ record, (longCall.deliver .unused ⟨0, 0⟩).1.records =
        .ofRecords .bundled .standard [] [record] := by
  have lasting : ((⟨0, 0⟩ : Instant).addSeconds 60).InRange := ⟨.inl (by decide), by decide⟩
  have plain := (response_deliver smallService ⟨0, 0⟩ (c := plainCall)
    (by constructor <;> constructor <;> decide)
    (Frame.write_open_eq_ok_iff.mpr short_plainCall) lasting).1 (by decide)
  have deep := (response_deliver smallService ⟨0, 0⟩ inRange_deepCall
    (Frame.write_open_eq_ok_iff.mpr short_deepCall) lasting).2 deep_deepCall
  have long := (response_deliver .unused ⟨0, 0⟩ inRange_longCall
    (Frame.write_open_eq_ok_iff.mpr short_longCall) lasting).1 shallow_longCall
  rw [dispatch_plainCall, if_pos short_response_plainCall] at plain
  rw [if_neg long_longCall] at long
  have stored := (congrArg Service.records long.1).trans (dispatch_longUpload _).1
  exact ⟨plain.2, deep.2, long.2.1, _, stored⟩

end Call

end ApplicationLedger
