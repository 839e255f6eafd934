/-
This file proves that the order of rows does not depend on how they are sorted. On the cells that
rows of records have, comparing is a linear order. So the selected rows can be listed by the column
of the order, and if they all differ there, in one way only: how rows that are equal in the column
would be ordered does not matter then.
-/

import Mathlib.Data.List.Nodup
import ApplicationLedger.Proofs.Table.Entries

namespace ApplicationLedger

/-! ### Cells of records -/

namespace Cell

/-- Whether a cell is of a kind that rows of records have. -/
def IsPlain : Cell → Prop
  | null => True
  | number (.integer _) => True
  | text _ => True
  | _ => False

/-- What a plain cell is compared by: its kind, then its number, then its text. -/
def sortKey : Cell → Nat × Int × String
  | number (.integer value) => (1, value, "")
  | text value => (2, 0, value)
  | other => (other.rank, 0, "")

/-- Compares two things by their keys, part by part. -/
def compareKeys {α : Type} (key : α → Nat × Int × String) : α → α → Ordering :=
  compareLex (compareOn fun a => (key a).1)
    (compareLex (compareOn fun a => (key a).2.1) (compareOn fun a => (key a).2.2))

instance {α : Type} (key : α → Nat × Int × String) : Std.TransCmp (compareKeys key) :=
  inferInstanceAs (Std.TransCmp (compareLex _ _))

theorem compare_eq_compareKeys {a b : Cell} (plain : a.IsPlain) (plain' : b.IsPlain) :
    a.compare b = compareKeys sortKey a b := by
  match a, b, plain, plain' with
  | null, null, _, _ => rfl
  | null, number (.integer _), _, _ => rfl
  | null, text _, _, _ => rfl
  | number (.integer value), null, _, _ => rfl
  | number (.integer value), number (.integer value'), _, _ =>
    show Ord.compare value value' = (Ord.compare value value').then .eq
    rw [Ordering.then_eq]
  | number (.integer value), text _, _, _ => rfl
  | text _, null, _, _ => rfl
  | text _, number (.integer _), _, _ => rfl
  | text _, text _, _, _ => rfl

theorem eq_of_compare_eq_eq {a b : Cell} (plain : a.IsPlain) (plain' : b.IsPlain)
    (equal : a.compare b = .eq) : a = b := by
  match a, b, plain, plain' with
  | null, null, _, _ => rfl
  | number (.integer value), number (.integer value'), _, _ =>
    rw [show value = value' from Std.LawfulEqOrd.eq_of_compare equal]
  | text value, text value', _, _ =>
    rw [show value = value' from Std.LawfulEqOrd.eq_of_compare equal]

end Cell

theorem Row.isPlain_ofRecord (r : ApplicationRecord) (column : Column) :
    (ofRecord r column).IsPlain := by
  cases column with
  | id | title | dateApplied | files | reposted => trivial
  | company | description | location | datePosted | url | internalId | source =>
    show (Cell.ofOptionalText _).IsPlain
    rcases ofOptionalText_cases _ with ⟨cell, _⟩ | cell <;> rw [cell] <;> trivial

/-! ### Rows of records -/

namespace Statement

/-- Compares the rows of two records in the column of the order. -/
def compareColumn (s : Statement) (a b : ApplicationRecord) : Ordering :=
  s.sortOrder.compare (Row.ofRecord a s.sortColumn) (Row.ofRecord b s.sortColumn)

/-- The order of records is that of their keys, or the opposite one. -/
instance (s : Statement) : Std.TransCmp s.compareColumn := by
  have ascending (a b : ApplicationRecord) :
      (Row.ofRecord a s.sortColumn).compare (Row.ofRecord b s.sortColumn) =
        Cell.compareKeys (fun r => (Row.ofRecord r s.sortColumn).sortKey) a b :=
    Cell.compare_eq_compareKeys (Row.isPlain_ofRecord a _) (Row.isPlain_ofRecord b _)
  cases order : s.sortOrder with
  | ascending =>
    have same : s.compareColumn =
        Cell.compareKeys fun r => (Row.ofRecord r s.sortColumn).sortKey := by
      funext a b
      rw [compareColumn, order, ← ascending, SortOrder.compare]
    rw [same]
    infer_instance
  | descending =>
    have same : s.compareColumn =
        fun a b => Cell.compareKeys (fun r => (Row.ofRecord r s.sortColumn).sortKey) b a := by
      funext a b
      rw [compareColumn, order, SortOrder.compare, ascending]
      exact Std.OrientedCmp.eq_swap.symm
    rw [same]
    exact Std.TransCmp.opposite

/-- Compares the rows of two records in the column of the order, and then by their ids. -/
def compareRecords (s : Statement) : ApplicationRecord → ApplicationRecord → Ordering :=
  compareLex s.compareColumn (compareOn ApplicationRecord.id)

instance (s : Statement) : Std.TransCmp s.compareRecords :=
  inferInstanceAs (Std.TransCmp (compareLex _ _))

theorem compareRecords_total (s : Statement) (a b : ApplicationRecord) :
    ((s.compareRecords a b).isLE || (s.compareRecords b a).isLE) = true := by
  have opposite : s.compareRecords b a = (s.compareRecords a b).swap := Std.OrientedCmp.eq_swap
  rw [opposite]
  cases s.compareRecords a b <;> rfl

theorem isLE_compareColumn {s : Statement} {a b : ApplicationRecord}
    (inOrder : (s.compareRecords a b).isLE = true) : (s.compareColumn a b).isLE = true := by
  rcases Ordering.isLE_then_iff_or.mp inOrder with less | ⟨equal, _⟩
  · rw [less]
    rfl
  · rw [equal]
    rfl

/-- Whether a list holds the rows that the statement selects, in order of its column; rows that are
equal there may stand in any order. -/
structure IsListing (s : Statement) (rows listing : List Row) : Prop where
  perm : listing.Perm (rows.filter s.selects)
  sorted : listing.Pairwise fun a b =>
    (s.sortOrder.compare (a s.sortColumn) (b s.sortColumn)).isLE = true

/-- Records that are equal in the column of the order have the same cell there. -/
theorem eq_of_compareColumn_eq_eq {s : Statement} {a b : ApplicationRecord}
    (equal : s.compareColumn a b = .eq) :
    Row.ofRecord a s.sortColumn = Row.ofRecord b s.sortColumn := by
  refine Cell.eq_of_compare_eq_eq (Row.isPlain_ofRecord a _) (Row.isPlain_ofRecord b _) ?_
  cases order : s.sortOrder with
  | ascending => simpa only [compareColumn, order, SortOrder.compare] using equal
  | descending =>
    simpa only [compareColumn, order, SortOrder.compare, Ordering.swap_eq_eq] using equal

/-- The selected records stand in order of the column. -/
theorem pairwise_selected (s : Statement) (entries : List ApplicationRecord) :
    (s.selected entries).Pairwise fun a b => (s.compareColumn a b).isLE = true := by
  have sorted : (s.selected entries).Pairwise fun a b => (s.compareRecords a b).isLE = true :=
    List.pairwise_mergeSort (fun _ _ _ => Std.TransCmp.isLE_trans) s.compareRecords_total _
  exact sorted.imp isLE_compareColumn

/-- Rows that all differ in the column of the order have one listing. -/
theorem IsListing.unique {s : Statement} {entries : List ApplicationRecord}
    (distinct : (((entries.map Row.ofRecord).filter s.selects).map (· s.sortColumn)).Nodup)
    {listing listing' : List Row} (isListing : s.IsListing (entries.map Row.ofRecord) listing)
    (isListing' : s.IsListing (entries.map Row.ofRecord) listing') : listing = listing' := by
  refine List.Perm.eq_of_pairwise ?_ isListing.sorted isListing'.sorted
    (isListing.perm.trans isListing'.perm.symm)
  intro a b member member' forwards backwards
  have selected := isListing.perm.mem_iff.mp member
  have selected' := isListing'.perm.mem_iff.mp member'
  refine List.inj_on_of_nodup_map distinct selected selected' ?_
  obtain ⟨r, _, rfl⟩ := List.mem_map.mp (List.mem_of_mem_filter selected)
  obtain ⟨r', _, rfl⟩ := List.mem_map.mp (List.mem_of_mem_filter selected')
  have equal : s.compareColumn r r' = .eq := Std.OrientedCmp.isLE_antisymm forwards backwards
  exact eq_of_compareColumn_eq_eq equal

end Statement

end ApplicationLedger
