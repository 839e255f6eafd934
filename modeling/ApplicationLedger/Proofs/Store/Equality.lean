/-
This file says what equality on a column of texts finds. A value that is no number stands for
itself. One that is a number stands for the text that the column would take for the number: the same
for an integer of 64 bits in its usual writing, another one for a writing with a leading zero.
-/

import ApplicationLedger.Proofs.Bytes.Utf8
import ApplicationLedger.Proofs.Number.CellText
import ApplicationLedger.Proofs.Store.Divisions

namespace ApplicationLedger

/-! ### Values beside columns of texts -/

/-- The columns of texts that clients write. -/
def Column.texts : List Column := .title :: Column.optionalTexts

/-- The text that a value stands for beside a column of texts. -/
def textBeside (value : String) : String :=
  match Numeric.ofValue? value with
  | none => value
  | some number => number.cellText

theorem textBeside_of_not_number {value : String} (noNumber : Numeric.ofValue? value = none) :
    textBeside value = value := by
  rw [textBeside, noNumber]

theorem textBeside_toString {number : Int} (least : -Int.pow 2 63 ≤ number)
    (greatest : number < Int.pow 2 63) : textBeside (toString number) = toString number := by
  rw [textBeside, Numeric.ofValue?_toString least greatest]
  rfl

theorem textBeside_ne_empty {value : String} (given : value ≠ "") : textBeside value ≠ "" := by
  unfold textBeside
  split
  · exact given
  · exact Numeric.cellText_ne_empty _

theorem Operator.besideColumn_of_text {column : Column} (textual : column.isNumeric = false)
    (value : String) : besideColumn value column = .text (textBeside value) := by
  unfold besideColumn Operand.ofValue textBeside
  cases Numeric.ofValue? value <;>
    simp only [Operand.parameter, Cell.ofParameter, Cell.held, textual, Bool.false_eq_true,
      if_false]

section Cells

variable {column : Column} (textual : column ∈ Column.texts)

include textual

theorem Column.isNumeric_of_mem_texts : column.isNumeric = false := by
  revert column
  decide

/-- A text is in its cell, unless it is missing. -/
theorem Row.ofRecord_text_cases (r : ApplicationRecord) :
    ofRecord r column = .text (r.fields.textIn column) ∧
        (column = .title ∨ r.fields.textIn column ≠ "") ∨
      ofRecord r column = .null ∧ ¬(column = .title ∨ r.fields.textIn column ≠ "") := by
  rcases List.mem_cons.mp textual with rfl | optional
  · exact .inl ⟨rfl, .inl rfl⟩
  · have noTitle : column ≠ .title := ne_of_mem_of_not_mem optional (by decide)
    rw [ofRecord_optionalText optional]
    by_cases empty : r.fields.textIn column = ""
    · refine .inr ⟨(Cell.ofOptionalText_eq_null_iff _).mpr empty, ?_⟩
      rintro (title | present)
      · exact noTitle title
      · exact present empty
    · rcases ofOptionalText_cases (r.fields.textIn column) with ⟨_, isEmpty⟩ | cell
      · exact absurd isEmpty empty
      · exact .inl ⟨cell, .inr empty⟩

/-- A text is equal to a value if it is the text that the value stands for. -/
theorem Operator.passes_equal_iff {value : String} (given : value ≠ "") (r : ApplicationRecord) :
    (compare .equal).Passes value column (Row.ofRecord r column) ↔
      r.fields.textIn column = textBeside value := by
  rw [passes_compare_iff, besideColumn_of_text (Column.isNumeric_of_mem_texts textual)]
  rcases Row.ofRecord_text_cases textual r with ⟨cell, _⟩ | ⟨cell, missing⟩
  · rw [cell, ← Cell.compareTexts_eq_eq_iff]
    exact (and_iff_right nofun).trans beq_iff_eq
  · rw [cell]
    refine iff_of_false (fun present => present.1 rfl) fun same => missing (.inr ?_)
    exact same ▸ textBeside_ne_empty given

/-- A text differs from a value if it is not missing and not the text that the value stands for. -/
theorem Operator.passes_notEqual_iff (value : String) (r : ApplicationRecord) :
    (compare .notEqual).Passes value column (Row.ofRecord r column) ↔
      (column = .title ∨ r.fields.textIn column ≠ "") ∧
        r.fields.textIn column ≠ textBeside value := by
  rw [passes_compare_iff, besideColumn_of_text (Column.isNumeric_of_mem_texts textual)]
  rcases Row.ofRecord_text_cases textual r with ⟨cell, present⟩ | ⟨cell, missing⟩
  · rw [cell, and_iff_right present]
    exact (and_iff_right nofun).trans
      (bne_iff_ne.trans (not_congr (Cell.compareTexts_eq_eq_iff _ _)))
  · rw [cell]
    exact iff_of_false (fun present => present.1 rfl) fun different => missing different.1

end Cells

namespace RecordStore

/-! ### What equality finds -/

/-- Whatever was written, if all dates can be read back: a query for equality with a text that is
not empty shows exactly the records whose text is the one that the value stands for, and a query for
inequality those whose text is another one and not missing. A value stands for itself if it is no
number, or an integer of 64 bits in its usual writing. -/
theorem equality_finds_textBeside (engine : Engine) (policy : RetryPolicy) (draws : Draws)
    (calls : List StoreCall) (dated : (Ledger.ofCalls calls).All ApplicationFields.IsDated)
    {column : Column} (textual : column ∈ Column.texts) {value : String} (given : value ≠ "") :
    (∀ comparison, ∃ records, ((ofCalls engine policy draws calls).query
        (.asking column (.compare comparison) value)).2 = .ok records) ∧
      (ofCalls engine policy draws calls).shown (.asking column (.compare .equal) value) =
        {record ∈ (Ledger.ofCalls calls).shown |
          record.fields.textIn column = textBeside value} ∧
      (ofCalls engine policy draws calls).shown (.asking column (.compare .notEqual) value) =
        {record ∈ (Ledger.ofCalls calls).shown |
          (column = .title ∨ record.fields.textIn column ≠ "") ∧
            record.fields.textIn column ≠ textBeside value} ∧
      (Numeric.ofValue? value = none → textBeside value = value) ∧
      ∀ number : Int, -Int.pow 2 63 ≤ number → number < Int.pow 2 63 →
        value = toString number → textBeside value = value := by
  obtain ⟨entries, reached, has⟩ := exists_ofCalls_eq engine policy draws calls
  rw [reached]
  have dated := has.forall_mem dated
  have text (entry : ApplicationRecord) :
      entry.cut.fields.textIn column = entry.fields.textIn column :=
    entry.fields.textIn_cut column
  have notLike (comparison : Comparison) : Operator.compare comparison ≠ .like := nofun
  have runs (comparison : Comparison) :=
    Query.runs_comparing engine column comparison value (.ofRecords entries)
  refine ⟨fun comparison => exists_query_eq_ok dated
      (Query.compile_asking column (notLike comparison) value) (runs comparison),
    shown_asking_eq_sep policy draws has dated (notLike .equal) (runs .equal) fun entry => ?_,
    shown_asking_eq_sep policy draws has dated (notLike .notEqual) (runs .notEqual)
      fun entry => ?_,
    textBeside_of_not_number, ?_⟩
  · rw [text]
    exact Operator.passes_equal_iff textual given entry
  · rw [text]
    exact Operator.passes_notEqual_iff textual value entry
  · rintro number least greatest rfl
    exact textBeside_toString least greatest

/-- This number is nearer to the text that ends in an eight, but is cut before it is rounded. -/
example : textBeside "7.939368438530785" = "7.93936843853079" := by decide +kernel

/-- An application with an internal number. -/
def numbered (internalId id : String) : ApplicationRecord :=
  ⟨id, { fieldsAt "Acme" with internalId }, []⟩

/-- Two applications, the number of the first with zeros in front. -/
def numberedCalls : List StoreCall := [.insert (numbered "007" "a"), .insert (numbered "7" "b")]

theorem all_isDated_numberedCalls :
    (Ledger.ofCalls numberedCalls).All ApplicationFields.IsDated := by
  refine Ledger.all_ofCalls _ fun call member => ?_
  have dated := isDated_applicationTo "Acme" "a"
  rcases List.mem_pair.mp member with rfl | rfl <;>
    exact ⟨dated.proper, dated.least, dated.greatest⟩

theorem textBeside_zeros : textBeside "007" = "7" := by decide +kernel

/-- The number with zeros in front is looked for without them: it finds the second application. -/
theorem equality_finds_textBeside_zeros :
    (numbered "7" "b").cut ∈
        (ofCalls .bundled .standard [] numberedCalls).shown
          (.asking .internalId (.compare .equal) "007") ∧
      (numbered "007" "a").cut ∉
        (ofCalls .bundled .standard [] numberedCalls).shown
          (.asking .internalId (.compare .equal) "007") ∧
      (numbered "007" "a").cut ∈
        (ofCalls .bundled .standard [] numberedCalls).shown
          (.asking .internalId (.compare .notEqual) "007") := by
  obtain ⟨_, equal, notEqual, _, _⟩ := equality_finds_textBeside .bundled .standard [] numberedCalls
    all_isDated_numberedCalls (by decide : .internalId ∈ Column.texts)
    (by decide : "007" ≠ "")
  rw [equal, notEqual, textBeside_zeros]
  exact ⟨⟨⟨_, _, rfl, rfl⟩, rfl⟩, fun found => absurd found.2 (by decide),
    ⟨_, _, rfl, rfl⟩, .inr (by decide), by decide⟩

/-- So equality does not always find what was written. -/
theorem not_forall_mem_shown_equal_iff :
    ¬ ∀ (engine : Engine) (policy : RetryPolicy) (draws : Draws) (calls : List StoreCall)
        (column : Column) (value : String), column ∈ Column.texts → value ≠ "" →
      ∀ record ∈ (Ledger.ofCalls calls).shown,
        (record ∈ (ofCalls engine policy draws calls).shown
            (.asking column (.compare .equal) value) ↔
          record.fields.textIn column = value) := by
  intro found
  obtain ⟨entries, reached, has⟩ := exists_ofCalls_eq .bundled .standard [] numberedCalls
  have dated := has.forall_mem all_isDated_numberedCalls
  have inMap : (numbered "007" "a").cut ∈ (Ledger.ofCalls numberedCalls).shown :=
    ⟨_, _, rfl, rfl⟩
  have shown := (found .bundled .standard [] numberedCalls .internalId "007" (by decide)
    (by decide) _ inMap).mpr rfl
  obtain ⟨entry, member, same⟩ := has.mem_shown_iff.mp inMap
  have notLike : Operator.compare .equal ≠ .like := nofun
  rw [reached, same, cut_mem_shown_asking_iff .standard [] has dated notLike
    (Query.runs_comparing _ _ _ _ _) member, Operator.passes_equal_iff (by decide) (by decide),
    textBeside_zeros, ← entry.fields.textIn_cut] at shown
  have number : (numbered "007" "a").cut.fields.textIn .internalId = "7" := same ▸ shown
  exact absurd number (by decide)

end RecordStore

end ApplicationLedger
