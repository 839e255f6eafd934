/-
This file says what the statements do to a table that holds records only. An insert adds the record
unless its id is taken, an update changes the fields of the record with the id, and a statement that
does not count rows selects the records whose rows pass its test.
-/

import ApplicationLedger.Proofs.Record
import ApplicationLedger.Proofs.Table.Row

namespace ApplicationLedger

namespace Table

/-- The table that holds some records. -/
def ofRecords (entries : List ApplicationRecord) : Table := ⟨entries.map Row.ofRecord⟩

/-! ### Changes -/

theorem ofRecord_id_eq (entry : ApplicationRecord) (id : String) :
    Row.ofRecord entry .id = .text id ↔ entry.id = id :=
  ⟨Cell.text.inj, congrArg Cell.text⟩

theorem hasId_ofRecords (entries : List ApplicationRecord) (id : String) :
    (ofRecords entries).hasId (.text id) = true ↔ ∃ entry ∈ entries, entry.id = id := by
  have present : (Cell.text id != Cell.null) = true := rfl
  rw [hasId, present, Bool.true_and, List.any_eq_true]
  constructor
  · rintro ⟨row, member, same⟩
    obtain ⟨entry, inEntries, rfl⟩ := List.mem_map.mp member
    exact ⟨entry, inEntries, (ofRecord_id_eq entry id).mp (beq_iff_eq.mp same)⟩
  · rintro ⟨entry, inEntries, rfl⟩
    exact ⟨_, List.mem_map_of_mem inEntries, beq_self_eq_true _⟩

/-- A record is added behind the others, unless there is one with its id. -/
theorem insert_ofRecords (entries : List ApplicationRecord) (r : ApplicationRecord) :
    (ofRecords entries).insert (.ofRecord r) =
      if (ofRecords entries).hasId (.text r.id) then .error .idTaken
      else .ok (ofRecords (entries ++ [r])) := by
  unfold insert
  simp only [Row.held_ofRecord, ofRecords, List.map_append]
  rfl

/-- The fields of the records with an id are replaced, and those records counted. -/
theorem update_ofRecords (entries : List ApplicationRecord) (id : String)
    (fields : ApplicationFields) :
    (ofRecords entries).update id fields =
      (ofRecords (entries.map (.withFields id fields)),
        (entries.filter fun entry => entry.id == id).length) := by
  refine Prod.ext (congrArg Table.mk ?_) ?_
  · rw [ofRecords, List.map_map, List.map_map]
    refine List.map_congr_left fun entry _ => ?_
    dsimp only [Function.comp]
    by_cases same : entry.id = id
    · rw [if_pos ((ofRecord_id_eq entry id).mpr same), Row.withFields_ofRecord,
        ApplicationRecord.withFields_of_eq same]
    · rw [if_neg fun cell => same ((ofRecord_id_eq entry id).mp cell),
        ApplicationRecord.withFields_of_ne same]
  · rw [ofRecords, update, List.filter_map, List.length_map]
    refine congrArg List.length (List.filter_congr fun entry _ => ?_)
    rw [Function.comp, Bool.eq_iff_iff, beq_iff_eq, beq_iff_eq]
    exact ofRecord_id_eq entry id

/-! ### Selections -/

theorem mapM_record {entries : List ApplicationRecord}
    (dated : ∀ entry ∈ entries, entry.fields.IsDated) :
    (entries.map Row.ofRecord).mapM Row.record = .ok (entries.map ApplicationRecord.cut) := by
  induction entries with
  | nil => rfl
  | cons entry rest inductionHypothesis =>
    have others := inductionHypothesis fun other member =>
      dated other (List.mem_cons_of_mem entry member)
    rw [List.map_cons, List.mapM_cons, Row.record_ofRecord (dated entry List.mem_cons_self), others]
    rfl

/-- One row that is no record keeps all others from being read. -/
theorem mapM_record_eq_error {entries : List ApplicationRecord}
    (proper : ∀ entry ∈ entries, entry.fields.dateApplied.IsProper)
    (long : ¬∀ entry ∈ entries, entry.fields.HasPlainYear) :
    (entries.map Row.ofRecord).mapM Row.record = .error .badDate := by
  induction entries with
  | nil => exact absurd (fun _ member => nomatch member) long
  | cons entry rest inductionHypothesis =>
    rw [List.map_cons, List.mapM_cons]
    by_cases plain : entry.fields.HasPlainYear
    · have others := inductionHypothesis
        (fun other member => proper other (List.mem_cons_of_mem entry member))
        fun all => long (List.forall_mem_cons.mpr ⟨plain, all⟩)
      rw [Row.record_ofRecord ⟨proper entry List.mem_cons_self, plain.1, plain.2⟩, others]
      rfl
    · rw [Row.record_ofRecord_eq_error plain]
      rfl

end Table

namespace Statement

variable {s : Statement} {entries : List ApplicationRecord} {rows : List Row}

/-- The records whose rows a statement selects, in order. -/
def selected (s : Statement) (entries : List ApplicationRecord) : List ApplicationRecord :=
  (entries.filter (s.selects ∘ Row.ofRecord)).mergeSort fun a b =>
    s.precedes (.ofRecord a) (.ofRecord b)

theorem selected_perm (s : Statement) (entries : List ApplicationRecord) :
    (s.selected entries).Perm (entries.filter (s.selects ∘ Row.ofRecord)) :=
  List.mergeSort_perm _ _

theorem mem_selected {entry : ApplicationRecord} :
    entry ∈ s.selected entries ↔ entry ∈ entries ∧ s.selects (.ofRecord entry) = true := by
  rw [(s.selected_perm entries).mem_iff, List.mem_filter]
  rfl

/-- A statement without a condition selects every record. -/
theorem selected_perm_of_untested (untested : s.filter = none)
    (entries : List ApplicationRecord) : (s.selected entries).Perm entries := by
  have all : entries.filter (s.selects ∘ Row.ofRecord) = entries := by
    refine List.filter_eq_self.mpr fun entry _ => ?_
    rw [Function.comp, selects, untested]
  have perm := s.selected_perm entries
  rwa [all] at perm

/-- The rows of the selected records are the selected rows, in the same order. -/
theorem map_selected (s : Statement) (entries : List ApplicationRecord) :
    (s.selected entries).map Row.ofRecord =
      ((entries.map Row.ofRecord).filter s.selects).mergeSort s.precedes := by
  rw [List.filter_map]
  exact List.map_mergeSort fun _ _ _ _ => rfl

/-- Without a limit, all rows are selected. -/
theorem run_of_unlimited (unlimited : s.limit = none) (complete : s.offset = none) :
    s.run rows = (rows.filter s.selects).mergeSort s.precedes := by
  rw [run, page, unlimited, complete]
  rfl

/-- Without a page, the rows of a table are those of the selected records. -/
theorem run_ofRecords (unlimited : s.limit = none) (complete : s.offset = none)
    (entries : List ApplicationRecord) :
    s.run (Table.ofRecords entries).rows = (s.selected entries).map Row.ofRecord := by
  rw [run_of_unlimited unlimited complete, map_selected]
  rfl

theorem mem_of_mem_page {row : Row} (member : row ∈ s.page rows) : row ∈ rows := by
  unfold page at member
  split at member
  · exact List.mem_of_mem_drop member
  · exact List.mem_of_mem_drop (List.mem_of_mem_take member)

end Statement

namespace Table

/-- The selected records are read, unless one of them has a year with a sign. -/
theorem records_ofRecords {entries : List ApplicationRecord} {s : Statement}
    (proper : ∀ entry ∈ entries, entry.fields.dateApplied.IsProper)
    (unlimited : s.limit = none) (complete : s.offset = none) :
    (ofRecords entries).records s =
      if ∀ entry ∈ s.selected entries, entry.fields.HasPlainYear then
        .ok ((s.selected entries).map ApplicationRecord.cut)
      else .error .badDate := by
  have proper : ∀ entry ∈ s.selected entries, entry.fields.dateApplied.IsProper :=
    fun entry member => proper entry (Statement.mem_selected.mp member).1
  rw [records, Statement.run_ofRecords unlimited complete]
  split
  · rename_i plain
    exact mapM_record fun entry member =>
      ⟨proper entry member, (plain entry member).1, (plain entry member).2⟩
  · rename_i long
    exact mapM_record_eq_error proper long

end Table

end ApplicationLedger
