/-
This file says what the answers of a service are like, whatever it has stored: each is a message
that its client can read. The instants in it are those of a clock, in a year that dates may have,
for they were in the request or were read from the record table or are the end of a link; the files
of an upload are no more than its message has room for; and nothing in an answer nests deep.
-/

import ApplicationLedger.Proofs.Message.Frame
import ApplicationLedger.Proofs.Service.Upload
import ApplicationLedger.Proofs.Store.Retries
import ApplicationLedger.Service.Exchange

namespace ApplicationLedger

/-! ### Instants -/

namespace Instant

theorem isValid_of_instant? {f : Fields} {t : Instant} (found : f.instant? = some t) :
    t.date.isValid = true := by
  unfold Fields.instant? at found
  split at found
  · dsimp only at found
    split at found
    · split at found
      · rename_i valid
        cases found
        exact valid
      · cases found
    · split at found
      · rename_i valid
        cases found
        exact valid
      · cases found
  · cases found

/-- The record table holds instants of a clock only, in a year that dates may have. -/
theorem inRange_of_ofCellText? {text : String} {t : Instant}
    (read : ofCellText? text = some t) : t.InRange := by
  obtain ⟨fields, read, found⟩ := Option.bind_eq_some_iff.mp read
  refine ⟨?_, isValid_of_instant? found⟩
  simp only [strictFields, Option.bind_eq_bind, Option.bind_eq_some_iff] at read
  obtain ⟨_, _, _, _, _, _, _, _, _, _, _, _, _, _, _, _, _, _, _, _, _, _, ⟨nanosecond, _⟩,
    fraction, ⟨offset, _⟩, offset_eq, ended⟩ := read
  split at ended
  · cases ended
    exact isProper_of_instant? found (fractionPart_lt fraction) (offset_wholeMinutes offset_eq)
  · cases ended

end Instant

/-- The date of a record that was read from a row is in range. -/
theorem Row.inRange_of_record {row : Row} {r : ApplicationRecord} (read : row.record = .ok r) :
    r.fields.dateApplied.InRange := by
  obtain ⟨date, dated, rest⟩ := bind_eq_ok.mp read
  obtain ⟨files, _, rest⟩ := bind_eq_ok.mp rest
  obtain ⟨id, _, rest⟩ := bind_eq_ok.mp rest
  obtain ⟨title, _, rest⟩ := bind_eq_ok.mp rest
  obtain ⟨company, _, rest⟩ := bind_eq_ok.mp rest
  obtain ⟨description, _, rest⟩ := bind_eq_ok.mp rest
  obtain ⟨location, _, rest⟩ := bind_eq_ok.mp rest
  obtain ⟨datePosted, _, rest⟩ := bind_eq_ok.mp rest
  obtain ⟨url, _, rest⟩ := bind_eq_ok.mp rest
  obtain ⟨internalId, _, rest⟩ := bind_eq_ok.mp rest
  obtain ⟨source, _, rest⟩ := bind_eq_ok.mp rest
  obtain ⟨reposted, _, last⟩ := bind_eq_ok.mp rest
  cases last
  obtain ⟨text, _, found⟩ := bind_eq_ok.mp dated
  split at found
  · rename_i written
    cases found
    exact Instant.inRange_of_ofCellText? written
  · cases found

/-! ### Records -/

/-- Records that a query selects are read from rows of the table. -/
theorem Database.records_of_select {q : Query} {connection : Connection} {table after : Table}
    {records : List ApplicationRecord}
    (selected : Database.select q connection table = .ok (records, after)) :
    ∃ statement, table.records statement = .ok records := by
  rw [Database.select] at selected
  split at selected
  · cases selected
  · rename_i statement _
    split at selected
    · cases selected
    · split at selected
      · rename_i read
        cases selected
        exact ⟨statement, read⟩
      · cases selected

namespace Service

/-- The records that a query answers with have dates in range, whatever the table holds. -/
theorem inRange_of_query {s after : Service} {q : Query} {records : List ApplicationRecord}
    (answer : s.query q = (after, .ok records)) :
    ∀ record ∈ records, record.fields.dateApplied.InRange := by
  have found : (s.records.query q).2 = .ok records := congrArg Prod.snd answer
  unfold RecordStore.query at found
  split at found
  · cases found
  · obtain ⟨engine, table, after, selected⟩ :=
      RecordStore.exists_work_eq_ok (RecordStore.isSteady_select q) found
    obtain ⟨statement, read⟩ := Database.records_of_select selected
    intro record member
    obtain ⟨row, _, fromRow⟩ := exists_of_mem_of_mapM_eq_ok read member
    exact Row.inRange_of_record fromRow

/-- A receipt counts the files that were sent. -/
theorem fileCount_of_upload {s after : Service} {now : Instant} {fields : ApplicationFields}
    {files : List SubmittedFile} {receipt : IngestReceipt}
    (committed : s.upload now fields files = (after, .ok receipt)) :
    receipt.fileCount = files.length := by
  have counted := IngestPlan.fileCount_of_run_upload (congrArg Prod.snd committed)
  rw [counted, (files_of_upload committed).2.2.length_eq]

/-- An update gives back the fields that were sent. -/
theorem eq_of_update {s after : Service} {id : String} {fields updated : ApplicationFields}
    (answer : s.update id fields = (after, .ok updated)) : updated = fields := by
  unfold update at answer
  split at answer
  · cases answer
  · have result := congrArg Prod.snd answer
    dsimp only at result
    cases stored : (s.records.update id fields).2 with
    | error fault =>
      rw [stored] at result
      cases result
    | ok value =>
      rw [stored] at result
      exact (Except.ok.inj result).symm

/-- A link holds for the lifetime that links are given. -/
theorem expiresAt_of_fileLink {s : Service} {now : Instant} {id fileName : String} {link : FileLink}
    (answer : s.fileLink now id fileName = .ok link) :
    link.expiresAt = now.addSeconds s.bucket.signer.lifetime := by
  unfold fileLink at answer
  split at answer
  · cases answer
  split at answer
  · obtain ⟨_, _, last⟩ := bind_eq_ok.mp answer
    exact (congrArg FileLink.expiresAt (Except.ok.inj last)).symm
  · cases answer

end Service

/-! ### Answers -/

namespace Json

/-- The text of an array has room for its items. -/
theorem length_le_of_items (items : List Json) :
    items.length ≤ (compactItems items).utf8ByteSize + 1 := by
  induction items with
  | nil => exact Nat.zero_le _
  | cons item rest inductionHypothesis =>
    cases rest with
    | nil => exact Nat.le_add_left 1 _
    | cons next rest =>
      have comma : ",".utf8ByteSize = 1 := rfl
      rw [compactItems, String.utf8ByteSize_append, String.utf8ByteSize_append, comma,
        List.length_cons]
      omega

theorem itemsDepth_map_le {α : Type} {encode : α → Json} {limit : Nat}
    (each : ∀ value, (encode value).depth ≤ limit) (values : List α) :
    itemsDepth (values.map encode) ≤ limit := by
  induction values with
  | nil => exact Nat.zero_le limit
  | cons value rest inductionHypothesis => exact Nat.max_le.mpr ⟨each value, inductionHypothesis⟩

end Json

/-- An upload that is not too long has fewer files than can be counted. -/
theorem Request.length_files_lt {fields : ApplicationFields} {files : List WireFile}
    (short : (upload fields files).toJson.compact.utf8ByteSize ≤ Frame.greatestLength) :
    files.length < 2 ^ 64 := by
  have items := Json.length_le_of_items (files.map WireFile.toJson)
  have most : Frame.greatestLength = 16777216 := rfl
  simp only [toJson, Json.compact, Json.compactMembers, String.utf8ByteSize_append] at short
  rw [List.length_map] at items
  omega

theorem FaultCategory.status_lt (category : FaultCategory) : category.status < 2 ^ 16 := by
  cases category <;> decide

theorem Response.inRange_ofFault (fault : Fault) : (ofFault fault).InRange :=
  fault.category.status_lt

theorem ApplicationRecord.depth_toJson_le (r : ApplicationRecord) : r.toJson.depth ≤ 2 := by
  have files : Json.itemsDepth (r.files.map .string) ≤ 0 :=
    Json.itemsDepth_map_le (fun _ => Nat.le_refl 0) r.files
  simp only [toJson, ApplicationFields.members, List.cons_append, List.nil_append, Json.depth,
    Json.membersDepth]
  omega

/-- Arrays and objects of an answer nest four levels at most. -/
theorem Response.depth_toJson_le (r : Response) : r.toJson.depth ≤ 4 := by
  cases r with
  | uploaded message application fileCount =>
    have record := application.depth_toJson_le
    simp only [toJson, Json.integer, Json.depth, Json.membersDepth]
    omega
  | results records =>
    have inside := Json.itemsDepth_map_le ApplicationRecord.depth_toJson_le records
    simp only [toJson, Json.depth, Json.membersDepth]
    omega
  | updated message application => exact (by decide : 2 ≤ 4)
  | fileLink url expiresAt => exact (by decide : 1 ≤ 4)
  | error status code reason => exact (by decide : 1 ≤ 4)

namespace Service

/-- The answer to a request is in range, if the request is and the clock stays so for as long as a
link holds. -/
theorem inRange_dispatch (s : Service) {now : Instant} {request : Request}
    (inRange : request.InRange)
    (short : request.toJson.compact.utf8ByteSize ≤ Frame.greatestLength)
    (lasting : (now.addSeconds s.bucket.signer.lifetime).InRange) :
    (s.dispatch now request).2.InRange := by
  cases request with
  | upload fields files =>
    rw [dispatch]
    cases decoded : files.mapM WireFile.file with
    | error fault => exact Response.inRange_ofFault fault
    | ok submitted =>
      cases stored : s.upload now fields submitted with
      | mk after result =>
        cases result with
        | error fault => simp only [stored]; exact Response.inRange_ofFault fault
        | ok receipt =>
          simp only [stored]
          have sameLength := (mapM_eq_ok_iff.mp decoded).length_eq
          refine ⟨?_, ?_⟩
          · rw [(files_of_upload stored).2.1]
            exact inRange
          · rw [fileCount_of_upload stored, ← sameLength]
            exact Request.length_files_lt short
  | query asked =>
    cases answer : s.query asked with
    | mk after result =>
      simp only [dispatch, answer]
      cases result with
      | error fault => exact Response.inRange_ofFault fault
      | ok records => exact inRange_of_query answer
  | update id fields =>
    cases answer : s.update id fields with
    | mk after result =>
      simp only [dispatch, answer]
      cases result with
      | error fault => exact Response.inRange_ofFault fault
      | ok updated =>
        rw [eq_of_update answer]
        exact inRange
  | fileLink id fileName =>
    cases answer : s.fileLink now id fileName with
    | error fault =>
      simp only [dispatch, answer]
      exact Response.inRange_ofFault fault
    | ok link =>
      simp only [dispatch, answer]
      show link.expiresAt.InRange
      rw [expiresAt_of_fileLink answer]
      exact lasting

end Service

end ApplicationLedger
