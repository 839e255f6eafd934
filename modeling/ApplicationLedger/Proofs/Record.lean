/-
This file says what a change of fields makes of a record: nothing, unless it is the one with the id
that is changed. It also holds the fields that applications of other files have for an example.
-/

import ApplicationLedger.Record

namespace ApplicationLedger

/-- The fields of an application as an engineer at the start of 1970. -/
def ApplicationFields.sample : ApplicationFields :=
  ⟨"Engineer", "", "", "", "", "", "", "", false, ⟨0, 0⟩⟩

/-- The record with other fields, if it is the one with that id. -/
def ApplicationRecord.withFields (id : String) (fields : ApplicationFields)
    (record : ApplicationRecord) : ApplicationRecord :=
  if record.id = id then { record with fields } else record

theorem ApplicationRecord.withFields_id (id : String) (fields : ApplicationFields)
    (record : ApplicationRecord) : (record.withFields id fields).id = record.id := by
  unfold withFields
  split <;> rfl

theorem ApplicationRecord.withFields_files (id : String) (fields : ApplicationFields)
    (record : ApplicationRecord) : (record.withFields id fields).files = record.files := by
  unfold withFields
  split <;> rfl

theorem ApplicationRecord.withFields_of_eq {id : String} {record : ApplicationRecord}
    (same : record.id = id) (fields : ApplicationFields) :
    record.withFields id fields = { record with fields } :=
  if_pos same

theorem ApplicationRecord.withFields_of_ne {id : String} {record : ApplicationRecord}
    (other : record.id ≠ id) (fields : ApplicationFields) : record.withFields id fields = record :=
  if_neg other

/-- The records with other ids are those that were there. -/
theorem ApplicationRecord.mem_map_withFields_of_ne {id : String} {record : ApplicationRecord}
    (other : record.id ≠ id) (fields : ApplicationFields) (records : List ApplicationRecord) :
    record ∈ records.map (.withFields id fields) ↔ record ∈ records := by
  rw [List.mem_map]
  constructor
  · rintro ⟨old, member, rfl⟩
    rw [withFields_id] at other
    rwa [withFields_of_ne other]
  · exact fun member => ⟨record, member, withFields_of_ne other fields⟩

/-- The records with the id are those that were there, with the changed fields. -/
theorem ApplicationRecord.mem_map_withFields_of_eq {id : String} {record : ApplicationRecord}
    (same : record.id = id) (fields : ApplicationFields) (records : List ApplicationRecord) :
    record ∈ records.map (.withFields id fields) ↔
      record.fields = fields ∧ ∃ old, { record with fields := old } ∈ records := by
  rw [List.mem_map]
  constructor
  · rintro ⟨old, member, rfl⟩
    rw [withFields_id] at same
    rw [withFields_of_eq same]
    exact ⟨rfl, old.fields, member⟩
  · rintro ⟨rfl, old, member⟩
    exact ⟨_, member, if_pos same⟩

end ApplicationLedger
