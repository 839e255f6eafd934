/-
This file says what is left when the record of an application cannot be stored. Every file that was
stored is removed again, by one call for each, and the answer accounts for all of them: it names the
files that could not be removed, or counts all of them as removed. Then nothing is left.
-/

import ApplicationLedger.Proofs.Ingest.Calls

namespace ApplicationLedger.IngestPlan

variable {σ : Type} {keys : List String} {files : List SubmittedFile} {record : ApplicationRecord}
variable {cause : Fault} {outcomes : List (String × Except Fault Unit)}

/-! ### Files that are removed again -/

/-- Files are stored, an insert fails, and the files are removed. -/
theorem mem_of_insert_failed {call : Call × Except Fault Unit}
    (member : call ∈ stored keys files ++ (.insert record, .error cause) :: removals outcomes) :
    (∃ key ∈ keys, ∃ content, call = (.put key content, .ok ())) ∨
      call = (.insert record, .error cause) ∨
      ∃ outcome ∈ outcomes, call = (.delete outcome.1, outcome.2) := by
  rcases List.mem_append.mp member with member | member
  · exact .inl (mem_stored member)
  · rcases List.mem_cons.mp member with rfl | member
    · exact .inr (.inl rfl)
    · obtain ⟨removal, inOutcomes, rfl⟩ := List.mem_map.mp member
      exact .inr (.inr ⟨removal, inOutcomes, rfl⟩)

theorem unremoved_of_insert_failed (keys : List String) (files : List SubmittedFile)
    (record : ApplicationRecord) (cause : Fault) (outcomes : List (String × Except Fault Unit)) :
    unremoved (stored keys files ++ (.insert record, .error cause) :: removals outcomes) =
      unremoved (removals outcomes) := by
  have nothing : unremoved (stored keys files) = [] := by
    refine List.filterMap_eq_nil_iff.mpr fun call member => ?_
    obtain ⟨_, _, _, rfl⟩ := mem_stored member
    rfl
  rw [unremoved, List.filterMap_append, ← unremoved, ← unremoved, nothing, unremoved_cons]
  rfl

theorem isGone_of_unremoved_eq_nil (removed : unremoved (removals outcomes) = [])
    {key : String} {outcome : Except Fault Unit} (member : (key, outcome) ∈ outcomes) :
    isGone outcome = true := by
  have call : (.delete key, outcome) ∈ removals outcomes :=
    List.mem_map_of_mem (f := fun outcome => (Call.delete outcome.1, outcome.2)) member
  have nothing := List.filterMap_eq_nil_iff.mp removed _ call
  rw [unremoved?_delete] at nothing
  by_contra left
  rw [if_neg left] at nothing
  cases nothing

theorem Changes.objects_eq_none_of_removals {before after : Holdings} {calls : Trace}
    (changes : Changes before (calls ++ removals outcomes) after) {key : String}
    {outcome : Except Fault Unit} (member : (key, outcome) ∈ outcomes)
    (gone : isGone outcome = true) : after.objects key = none := by
  obtain ⟨first, further, rfl⟩ := List.append_of_mem member
  have split : calls ++ removals (first ++ (key, outcome) :: further) =
      (calls ++ removals first) ++ (.delete key, outcome) :: removals further := by
    rw [removals, List.map_append, List.append_assoc]
    rfl
  rw [split] at changes
  refine changes.objects_eq_none_of_delete gone fun content put => ?_
  obtain ⟨_, _, same⟩ := List.mem_map.mp put
  cases same

/-- If all files are removed again, the stores hold what they held before. -/
theorem Changes.eq_of_unremoved_eq_nil {before after : Holdings}
    (changes : Changes before
      (stored keys files ++ (.insert record, .error cause) :: removals outcomes) after)
    (all : outcomes.map Prod.fst = keys) (removed : unremoved (removals outcomes) = [])
    (absent : ∀ key ∈ keys, before.objects key = none) : after = before := by
  have objects (key : String) : after.objects key = before.objects key := by
    by_cases own : key ∈ keys
    · rw [absent key own]
      rw [← all] at own
      obtain ⟨⟨_, outcome⟩, member, same⟩ := List.mem_map.mp own
      cases same
      rw [List.append_cons] at changes
      exact changes.objects_eq_none_of_removals member (isGone_of_unremoved_eq_nil removed member)
    · refine changes.objects_eq fun call member same => own ?_
      rcases mem_of_insert_failed member with ⟨other, inKeys, _, rfl⟩ | rfl |
        ⟨removal, inOutcomes, rfl⟩
      · exact Option.some.inj same ▸ inKeys
      · cases same
      · exact all ▸ Option.some.inj same ▸ List.mem_map_of_mem inOutcomes
  have records : after.records = before.records := by
    refine changes.records_eq fun other member => ?_
    rcases mem_of_insert_failed member with ⟨_, _, _, same⟩ | same | ⟨_, _, same⟩ <;> cases same
  cases after
  cases before
  cases records
  cases funext objects
  rfl

theorem failure_of_ne_nil {left : List String} (some : left ≠ []) (cause : Fault) (count : Nat) :
    failure cause count left = .orphaned left cause := by
  rw [failure, if_neg fun empty => some (List.isEmpty_iff.mp empty)]

/-- A record that is not stored is that of all files. -/
theorem Ending.of_insert_failed {id : String} {fields : ApplicationFields} {time : Instant}
    {calls : Trace} {result : Except Fault IngestReceipt}
    (ending : Ending id fields time [] files calls result)
    (failed : (.insert record, .error cause) ∈ calls) :
    record = ⟨id, fields, IngestPlan.keys id time [] files⟩ ∧
      ∃ outcomes, outcomes.map Prod.fst = record.files ∧
        calls = stored record.files files ++ (.insert record, .error cause) :: removals outcomes ∧
        result = .error (failure cause files.length (unremoved (removals outcomes))) := by
  cases ending with
  | uploadFailed | committed =>
    rcases List.mem_append.mp failed with member | member
    · obtain ⟨_, _, _, same⟩ := mem_stored member
      cases same
    · cases List.mem_singleton.mp member
  | insertFailed other cause' outcomes whole all =>
    rcases mem_of_insert_failed failed with ⟨_, _, _, same⟩ | same | ⟨_, _, same⟩ <;> cases same
    subst whole
    refine ⟨rfl, outcomes, all, rfl, ?_⟩
    rw [List.nil_append, length_keys]

/-- If the record of an application cannot be stored, each file that was stored is removed again, by
one call for each, in order, also behind a call that failed. The answer carries the fault of the
record. It names the files that could not be removed, other than those that were gone already, if
there are such files; else it counts all files as removed. In the second case the stores hold what
they held before, if there was no object under any of the keys. -/
theorem files_removed_of_insert_failed (stores : Stores σ) (id : String)
    (fields : ApplicationFields) (time : Instant) (files : List SubmittedFile) (state : σ)
    (record : ApplicationRecord) (cause : Fault)
    (failed : (.insert record, .error cause) ∈ (ingest id fields time files).trace stores state) :
    let calls := (ingest id fields time files).trace stores state
    let after := (ingest id fields time files).run stores state
    record = ⟨id, fields, IngestPlan.keys id time [] files⟩ ∧ record.files.Nodup ∧
      (∃ outcomes, outcomes.map Prod.fst = record.files ∧
        calls = stored record.files files ++ (.insert record, .error cause) :: removals outcomes) ∧
      (unremoved calls ≠ [] → after.2 = .error (.orphaned (unremoved calls) cause)) ∧
      (unremoved calls = [] → after.2 = .error (.persistFailed files.length cause)) ∧
      ∀ objects records, World.Behave stores objects records →
        (∀ key ∈ record.files, objects state key = none) →
        (∃ count source, after.2 = .error (.persistFailed count source)) →
        objects after.1 = objects state ∧ records after.1 = records state := by
  intro calls after
  obtain ⟨rfl, outcomes, all, same, result⟩ :=
    (ending_upload stores id fields time [] files state).of_insert_failed failed
  have unremovedSame : unremoved calls = unremoved (removals outcomes) :=
    (congrArg unremoved same).trans (unremoved_of_insert_failed _ files _ cause outcomes)
  have answer : after.2 = .error (failure cause files.length (unremoved calls)) := by
    rw [unremovedSame]
    exact result
  refine ⟨rfl, nodup_keys id time [] files, ⟨outcomes, all, same⟩, fun left => ?_,
    fun removed => ?_, fun objects records behave absent persistFailed => ?_⟩
  · rw [answer, failure_of_ne_nil left]
  · rw [answer, failure, removed]
    rfl
  · have removed : unremoved (removals outcomes) = [] := by
      obtain ⟨count, source, persistFailed⟩ := persistFailed
      by_contra left
      rw [answer, unremovedSame, failure_of_ne_nil left] at persistFailed
      cases persistFailed
    have changes := changes_of_behave behave (ingest id fields time files) state
    rw [show (ingest id fields time files).trace stores state = _ from same] at changes
    have held := changes.eq_of_unremoved_eq_nil all removed absent
    exact ⟨congrArg Holdings.objects held, congrArg Holdings.records held⟩

/-- Three files, first with one that is kept and one that is gone already, then with neither. -/
theorem files_removed_of_insert_failed_trial :
    let plan := ingest "a" .sample ⟨0, 0⟩ [⟨"cv.pdf", [1]⟩, ⟨"cv.pdf", [2]⟩, ⟨"letter", [3]⟩]
    let cause := Fault.database "full"
    let kept := plan.run (Trial.stores ⟨none, [1], some cause, none, [2]⟩) Trial.start
    let cleaned := plan.run (Trial.stores ⟨none, [], some cause, none, []⟩) Trial.start
    kept.2 = .error (.orphaned ["cv (2)-0000-010170_a.pdf"] cause) ∧
      cleaned.2 = .error (.persistFailed 3 cause) ∧
      cleaned.1.objects.toMap = Trial.start.objects.toMap ∧
      cleaned.1.records = Trial.start.records := by
  intro plan cause kept cleaned
  obtain ⟨_, _, _, orphaned, _⟩ := files_removed_of_insert_failed
    (Trial.stores ⟨none, [1], some cause, none, [2]⟩) "a" .sample ⟨0, 0⟩
    [⟨"cv.pdf", [1]⟩, ⟨"cv.pdf", [2]⟩, ⟨"letter", [3]⟩] Trial.start _ cause
    (.tail _ (.tail _ (.tail _ (.head _))))
  obtain ⟨_, _, _, _, persistFailed, held⟩ := files_removed_of_insert_failed
    (Trial.stores ⟨none, [], some cause, none, []⟩) "a" .sample ⟨0, 0⟩
    [⟨"cv.pdf", [1]⟩, ⟨"cv.pdf", [2]⟩, ⟨"letter", [3]⟩] Trial.start _ cause
    (.tail _ (.tail _ (.tail _ (.head _))))
  refine ⟨(orphaned (by decide)).trans rfl, persistFailed rfl, ?_⟩
  exact held _ _ (Trial.behave _ rfl) (fun _ _ => rfl) ⟨_, _, persistFailed rfl⟩

end ApplicationLedger.IngestPlan
