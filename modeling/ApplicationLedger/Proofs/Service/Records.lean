/-
This file says when a service can show what it has stored. Its records are those that uploads have
committed, with the fields of the last updates. Messages write years of any length, with a sign if
they have more than four digits or lie before year 0, and the service stores them; but the reader of
the record table knows no signs. So one record with such a year, and nothing else, makes the query
for everything fail, from the call on that stored it until its date is changed again.
-/

import ApplicationLedger.Proofs.Json.Yield
import ApplicationLedger.Proofs.Service.Upload

namespace ApplicationLedger

/-! ### Fields from messages -/

/-- Whether the fields can come from a message. -/
def ApplicationFields.IsReadable (f : ApplicationFields) : Prop :=
  ∃ medium value, decode medium value = .ok f

/-- Instants from messages are those of a clock. -/
theorem Decoder.isProper_of_instant {medium : Medium} {value : Json} {t : Instant}
    (read : instant medium value = .ok t) : t.IsProper := by
  unfold instant at read
  split at read
  · split at read
    · rename_i found
      cases read
      exact Instant.isProper_of_ofText? found
    · cases read
  · cases read

theorem ApplicationFields.IsReadable.isProper {f : ApplicationFields} (readable : f.IsReadable) :
    f.dateApplied.IsProper := by
  obtain ⟨medium, value, read⟩ := readable
  rw [decode] at read
  cases decoded : layout.decode "struct ApplicationFields" medium value with
  | error fault =>
    rw [decoded] at read
    cases read
  | ok values =>
    rw [decoded] at read
    cases read
    obtain ⟨_, _, _, _, _, _, _, _, _, instant, _⟩ := Layout.yields_decode decoded
    rcases instant with absent | ⟨_, _, instant⟩
    · cases absent
    · exact Decoder.isProper_of_instant instant

namespace Service

/-! ### Calls -/

/-- A call that stores something. -/
inductive Writing where
  | upload (now : Instant) (fields : ApplicationFields) (files : List SubmittedFile)
  | update (id : String) (fields : ApplicationFields)

/-- The fields that a call brings. -/
def Writing.fields : Writing → ApplicationFields
  | upload _ fields _ => fields
  | update _ fields => fields

/-- The service after a call, with the records that are committed. A call that fails commits
nothing. -/
def commit : Service × List ApplicationRecord → Writing → Service × List ApplicationRecord
  | (s, committed), .upload now fields files =>
    match s.upload now fields files with
    | (after, .ok receipt) => (after, committed ++ [receipt.application])
    | (after, .error _) => (after, committed)
  | (s, committed), .update id fields =>
    match s.update id fields with
    | (after, .ok _) => (after, committed.map (.withFields id fields))
    | (after, .error _) => (after, committed)

/-! ### One call -/

variable {engine : Engine} {policy : RetryPolicy} {draws : Draws}
  {committed : List ApplicationRecord}

/-- Whether the store of a service holds some records, with dates of a clock. -/
structure Holds (engine : Engine) (policy : RetryPolicy) (draws : Draws) (s : Service)
    (committed : List ApplicationRecord) : Prop where
  records : s.records = .ofRecords engine policy draws committed
  proper : ∀ record ∈ committed, record.fields.dateApplied.IsProper

theorem Holds.upload {s : Service} (holds : s.Holds engine policy draws committed) (now : Instant)
    {fields : ApplicationFields} (proper : fields.dateApplied.IsProper)
    (files : List SubmittedFile) :
    (commit (s, committed) (.upload now fields files)).1.Holds engine policy draws
      (commit (s, committed) (.upload now fields files)).2 := by
  rw [commit]
  split
  · rename_i after receipt ended
    refine ⟨records_of_upload holds.records ended, fun record member => ?_⟩
    rcases List.mem_append.mp member with old | new
    · exact holds.proper record old
    · rw [List.mem_singleton.mp new, (files_of_upload ended).2.1]
      exact proper
  · rename_i ended
    exact ⟨records_of_upload_error holds.records ended, holds.proper⟩

theorem Holds.update {s : Service} (holds : s.Holds engine policy draws committed) (id : String)
    {fields : ApplicationFields} (proper : fields.dateApplied.IsProper) :
    (commit (s, committed) (.update id fields)).1.Holds engine policy draws
      (commit (s, committed) (.update id fields)).2 := by
  by_cases unnamed : id.isEmpty = true
  · simp only [commit, Service.update, if_pos unnamed]
    exact holds
  by_cases present : ∃ entry ∈ committed, entry.id = id
  · simp only [commit, Service.update, if_neg unnamed, holds.records,
      RecordStore.update_ofRecords_of_mem present, Except.map]
    refine ⟨rfl, fun record member => ?_⟩
    obtain ⟨old, inCommitted, rfl⟩ := List.mem_map.mp member
    by_cases same : old.id = id
    · rw [ApplicationRecord.withFields_of_eq same]
      exact proper
    · rw [ApplicationRecord.withFields_of_ne same]
      exact holds.proper old inCommitted
  · simp only [commit, Service.update, if_neg unnamed, holds.records,
      RecordStore.update_ofRecords_of_new present, Except.map]
    exact ⟨rfl, holds.proper⟩

theorem Holds.commit {s : Service} (holds : s.Holds engine policy draws committed) {call : Writing}
    (proper : call.fields.dateApplied.IsProper) :
    (commit (s, committed) call).1.Holds engine policy draws (commit (s, committed) call).2 := by
  cases call with
  | upload now fields files => exact holds.upload now proper files
  | update id fields => exact holds.update id proper

/-! ### Runs -/

/-- After any calls with fields from messages, the store holds what is committed. -/
theorem holds_foldl_commit {s : Service} (holds : s.Holds engine policy draws committed)
    (calls : List Writing) (readable : ∀ call ∈ calls, call.fields.IsReadable) :
    (calls.foldl Service.commit (s, committed)).1.Holds engine policy draws
      (calls.foldl Service.commit (s, committed)).2 := by
  induction calls generalizing s committed with
  | nil => exact holds
  | cons call rest inductionHypothesis =>
    exact inductionHypothesis (holds.commit (readable call List.mem_cons_self).isProper)
      fun other member => readable other (List.mem_cons_of_mem call member)

/-- Whatever was called with fields from messages, on a service without records: the query for
everything answers with each committed record once if all of them have a plain year, and fails
otherwise. -/
theorem query_everything_of_commits (s : Service) (engine : Engine) (policy : RetryPolicy)
    (draws : Draws) (isFresh : s.records = .fresh engine policy draws) (calls : List Writing)
    (readable : ∀ call ∈ calls, call.fields.IsReadable) :
    ∃ sorted : List ApplicationRecord, sorted.Perm (calls.foldl commit (s, [])).2 ∧
      ((calls.foldl commit (s, [])).1.query .everything).2 =
        if ∀ record ∈ (calls.foldl commit (s, [])).2, record.fields.HasPlainYear then
          .ok (sorted.map ApplicationRecord.cut)
        else .error (.database ("Failed to read row: " ++ RowFault.badDate.reason)) := by
  have start : s.Holds engine policy draws [] := ⟨isFresh, fun _ member => nomatch member⟩
  have held := holds_foldl_commit start calls readable
  have answer := RecordStore.query_unfiltered engine policy draws held.proper (q := .everything) rfl
    (Int.le_refl 0) rfl
  rwa [query, held.records]

/-! ### A record that no one sees -/

/-- An application in the year 12000. -/
def farFields : ApplicationFields :=
  { ApplicationFields.sample with dateApplied := ⟨316516204800, 0⟩ }

/-- The first record, without files. -/
def bareRecord (fields : ApplicationFields) : ApplicationRecord :=
  ⟨(Uuid.ofRandom 1).text, fields, []⟩

theorem isReadable_sample : ApplicationFields.sample.IsReadable :=
  ⟨.buffer, ApplicationFields.sample.toJson, rfl⟩

theorem isReadable_farFields : farFields.IsReadable := ⟨.buffer, farFields.toJson, rfl⟩

/-- An application without files is stored under the first id. -/
theorem upload_unused_bare (fields : ApplicationFields) :
    unused.upload ⟨0, 0⟩ fields [] =
      ({ unused with
          ids := ⟨Uuid.ofRandom, 2⟩
          records := .ofRecords .bundled .standard [] [bareRecord fields] },
        .ok ⟨bareRecord fields, 0⟩) := by
  have inserted : (RecordStore.ofRecords .bundled .standard [] []).insert (bareRecord fields) =
      (.ofRecords .bundled .standard [] ([] ++ [bareRecord fields]), .ok ()) :=
    RecordStore.insert_ofRecords_of_new fun _ member => nomatch member
  exact IngestPlan.run_upload_nil ⟨0, 0⟩
    (congrArg (fun r => ({ unused with ids := ⟨Uuid.ofRandom, 2⟩, records := r.1 }, r.2)) inserted)

theorem commit_unused (fields : ApplicationFields) :
    ∃ after, commit (Service.unused, []) (.upload ⟨0, 0⟩ fields []) = (after, [bareRecord fields]) ∧
      after.records = .ofRecords .bundled .standard [] [bareRecord fields] := by
  rw [commit, upload_unused_bare]
  exact ⟨_, rfl, rfl⟩

/-- The first record is shown as long as its year is plain, and is lost to everyone when an update
moves it to the year 12000. -/
theorem query_everything_of_two_commits :
    ∃ first second,
      commit (Service.unused, []) (.upload ⟨0, 0⟩ .sample []) =
        (first, [bareRecord .sample]) ∧
      (first.query .everything).2 = .ok [bareRecord .sample] ∧
      commit (first, [bareRecord .sample]) (.update (bareRecord .sample).id farFields) =
        (second, [bareRecord farFields]) ∧
      (second.query .everything).2 =
        .error (.database ("Failed to read row: " ++ RowFault.badDate.reason)) := by
  obtain ⟨first, committed, records⟩ := commit_unused .sample
  have present : ∃ entry ∈ [bareRecord .sample], entry.id = (bareRecord .sample).id :=
    ⟨_, List.mem_cons_self, rfl⟩
  have updated : commit (first, [bareRecord .sample])
      (.update (bareRecord .sample).id farFields) =
        ({ first with records := .ofRecords .bundled .standard [] [bareRecord farFields] },
          [bareRecord farFields]) := by
    have named : ¬(bareRecord .sample).id.isEmpty = true := by decide
    simp only [commit, update, if_neg named, records,
      RecordStore.update_ofRecords_of_mem present, Except.map]
    rfl
  have one := query_everything_of_commits Service.unused .bundled .standard [] rfl
    [.upload ⟨0, 0⟩ .sample []] fun call member => by
      rw [List.mem_singleton.mp member]
      exact isReadable_sample
  have two := query_everything_of_commits Service.unused .bundled .standard [] rfl
    [.upload ⟨0, 0⟩ .sample [], .update (bareRecord .sample).id farFields]
    fun call member => by
      rcases List.mem_cons.mp member with rfl | member
      · exact isReadable_sample
      · rw [List.mem_singleton.mp member]
        exact isReadable_farFields
  simp only [List.foldl_cons, List.foldl_nil, committed, updated, List.perm_singleton] at one two
  obtain ⟨_, rfl, one⟩ := one
  obtain ⟨_, rfl, two⟩ := two
  exact ⟨first, _, committed, one, updated, two⟩

/-- So a single upload can make the store unreadable. -/
theorem not_forall_query_everything_ok :
    ¬ ∀ (s : Service) (engine : Engine) (policy : RetryPolicy) (draws : Draws)
        (calls : List Writing),
      s.records = .fresh engine policy draws → (∀ call ∈ calls, call.fields.IsReadable) →
      ∃ records, ((calls.foldl commit (s, [])).1.query .everything).2 = .ok records := by
  intro shown
  have readable : ∀ call ∈ [Writing.upload ⟨0, 0⟩ farFields []], call.fields.IsReadable := by
    intro call member
    rw [List.mem_singleton.mp member]
    exact isReadable_farFields
  obtain ⟨records, answer⟩ := shown Service.unused .bundled .standard [] _ rfl readable
  obtain ⟨after, committed, stored⟩ := commit_unused farFields
  have proper : ∀ entry ∈ [bareRecord farFields], entry.fields.dateApplied.IsProper := by
    intro entry member
    rw [List.mem_singleton.mp member]
    exact isReadable_farFields.isProper
  have far : ¬∀ entry ∈ [bareRecord farFields], entry.fields.HasPlainYear :=
    fun plain => absurd (plain _ List.mem_cons_self) (by decide)
  obtain ⟨_, _, failed⟩ :=
    RecordStore.query_unfiltered .bundled .standard [] proper (q := .everything) rfl
    (Int.le_refl 0) rfl
  rw [if_neg far] at failed
  rw [List.foldl_cons, List.foldl_nil, committed, query, stored, failed] at answer
  cases answer

end Service

end ApplicationLedger
