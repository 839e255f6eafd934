/-
This file proves that the newest application comes first if a query names no order. The rows are
ordered by the texts of their dates, and these order as the dates themselves, cut to milliseconds,
as long as no year needs a sign.
-/

import ApplicationLedger.Proofs.Instant.Order
import ApplicationLedger.Proofs.Store.Shown
import ApplicationLedger.Proofs.Table.Order

namespace ApplicationLedger

/-! ### Dates of records -/

theorem ApplicationFields.IsDated.isPlain {f : ApplicationFields} (dated : f.IsDated) :
    f.dateApplied.IsPlain :=
  ⟨dated.proper, dated.least, dated.greatest⟩

/-- Whether a record has a later date than another one, or the same. -/
def ApplicationRecord.IsNotOlder (a b : ApplicationRecord) : Prop :=
  (a.fields.dateApplied.compare b.fields.dateApplied).isGE = true

/-- Rows in descending order of their dates are rows of records from the newest one on. -/
theorem Statement.isNotOlder_cut {s : Statement} (byDate : s.sortColumn = .dateApplied)
    (descending : s.sortOrder = .descending) {a b : ApplicationRecord} (dated : a.fields.IsDated)
    (dated' : b.fields.IsDated) (inOrder : (s.compareColumn a b).isLE = true) :
    a.cut.IsNotOlder b.cut := by
  have texts : s.compareColumn a b =
      (Cell.compareTexts a.fields.dateApplied.millisecondText
        b.fields.dateApplied.millisecondText).swap := by
    rw [compareColumn, byDate, descending]
    rfl
  rwa [texts, ← Cell.compareBytes_ofText,
    Instant.compareBytes_millisecondText dated.isPlain dated'.isPlain, Ordering.isLE_swap]
    at inOrder

namespace RecordStore

/-- A query for everything that names no order shows each record once, from the newest one on. -/
theorem query_newest_first (engine : Engine) (policy : RetryPolicy) (draws : Draws)
    (calls : List StoreCall) (dated : (Ledger.ofCalls calls).All ApplicationFields.IsDated)
    {q : Query} (unfiltered : q.walk = []) (unlimited : q.limit ≤ 0)
    (ordered : q.order = .ok (.dateApplied, .descending)) :
    ∃ records, ((ofCalls engine policy draws calls).query q).2 = .ok records ∧
      (records.map ApplicationRecord.id).Nodup ∧
      (∀ record, record ∈ records ↔ record ∈ (Ledger.ofCalls calls).shown) ∧
      records.Pairwise ApplicationRecord.IsNotOlder := by
  obtain ⟨entries, reached, has⟩ := exists_ofCalls_eq engine policy draws calls
  rw [reached]
  have dated := has.forall_mem dated
  have compiled := Query.compile_of_walk_eq_nil unfiltered ordered
  have answer := query_selected policy draws (fun entry member => (dated entry member).proper)
    compiled (engine.runs_of_unfiltered rfl _) unlimited
  have all := Statement.selected_perm_of_untested
    (s := ⟨none, .dateApplied, .descending, q.rowLimit, q.rowOffset⟩) rfl entries
  rw [if_pos fun entry member => (dated entry (all.mem_iff.mp member)).plain] at answer
  refine ⟨_, answer, ?_, fun record => ?_, ?_⟩
  · rw [List.map_map]
    exact (all.map _).nodup_iff.mpr has.nodup
  · rw [has.mem_shown_iff, List.mem_map]
    simp only [all.mem_iff, eq_comm]
  · rw [List.pairwise_map]
    refine (Statement.pairwise_selected _ entries).imp_of_mem fun member member' inOrder => ?_
    exact Statement.isNotOlder_cut rfl rfl (dated _ (all.mem_iff.mp member))
      (dated _ (all.mem_iff.mp member')) inOrder

/-- The cells of instants in years of four digits order byte by byte as the instants, cut to
milliseconds; they are the same for the same cut instant only, and give it back. So whatever calls
came before, if all records have such dates, a query for everything that names no order shows each
of them once, from the newest one on. -/
theorem cells_order_as_instants :
    (∀ a b : Instant, a.IsPlain → b.IsPlain →
      Cell.compareBytes (.ofText a.millisecondText) (.ofText b.millisecondText) =
          a.cut.compare b.cut ∧
        (a.millisecondText = b.millisecondText ↔ a.cut = b.cut) ∧
        Instant.ofCellText? a.millisecondText = some a.cut) ∧
    ∀ (engine : Engine) (policy : RetryPolicy) (draws : Draws) (calls : List StoreCall),
      (Ledger.ofCalls calls).All ApplicationFields.IsDated →
      ∀ q : Query, q.walk = [] → q.limit ≤ 0 → q.order = .ok (.dateApplied, .descending) →
        ∃ records, ((ofCalls engine policy draws calls).query q).2 = .ok records ∧
          (records.map ApplicationRecord.id).Nodup ∧
          (∀ record, record ∈ records ↔ record ∈ (Ledger.ofCalls calls).shown) ∧
          records.Pairwise ApplicationRecord.IsNotOlder :=
  ⟨fun _ _ plain plain' =>
      ⟨Instant.compareBytes_millisecondText plain plain',
        Instant.millisecondText_eq_iff plain plain',
        Instant.ofCellText?_millisecondText plain.proper plain.least plain.greatest⟩,
    fun engine policy draws calls dated _ unfiltered unlimited ordered =>
      query_newest_first engine policy draws calls dated unfiltered unlimited ordered⟩

/-- The middle of the leap second at the end of 2016. -/
def leapSecond : Instant := ⟨1483228799, 1500000000⟩

/-- The first second of 2017. -/
def newYear : Instant := .ofSecond 1483228800

/-- Applications in the leap second and on the new year behind it. -/
def twoCalls : List StoreCall :=
  [.insert ⟨"a", { fieldsAt "leap" with dateApplied := leapSecond }, []⟩,
    .insert ⟨"b", { fieldsAt "new" with dateApplied := newYear }, []⟩]

theorem cells_order_as_instants_leapSecond :
    Cell.compareBytes (.ofText leapSecond.millisecondText) (.ofText newYear.millisecondText) = .lt ∧
      leapSecond.millisecondText ≠ newYear.millisecondText ∧
      Instant.ofCellText? leapSecond.millisecondText = some leapSecond ∧
      ∃ records, ((ofCalls .bundled .standard [] twoCalls).query .everything).2 = .ok records ∧
        (records.map ApplicationRecord.id).Nodup ∧ records.Pairwise ApplicationRecord.IsNotOlder ∧
        ⟨"a", { fieldsAt "leap" with dateApplied := leapSecond }, []⟩ ∈ records := by
  have leap : leapSecond.IsPlain :=
    ⟨.inr (by decide), (by decide : 0 ≤ leapSecond.date.year),
      (by decide : leapSecond.date.year ≤ 9999)⟩
  have next : newYear.IsPlain :=
    ⟨.inl (by decide), (by decide : 0 ≤ newYear.date.year),
      (by decide : newYear.date.year ≤ 9999)⟩
  have dated : (Ledger.ofCalls twoCalls).All ApplicationFields.IsDated := by
    refine Ledger.all_ofCalls _ fun call member => ?_
    simp only [twoCalls, List.mem_cons, List.not_mem_nil, or_false] at member
    rcases member with rfl | rfl
    · exact ⟨leap.proper, leap.least, leap.greatest⟩
    · exact ⟨next.proper, next.least, next.greatest⟩
  obtain ⟨cells, stores⟩ := cells_order_as_instants
  obtain ⟨order, same, read⟩ := cells _ _ leap next
  obtain ⟨records, answer, nodup, shown, newest⟩ :=
    stores .bundled .standard [] twoCalls dated .everything
    rfl (Int.le_refl 0) rfl
  refine ⟨order, fun equal => absurd (same.mp equal) (by decide), read, records, answer, nodup,
    newest, (shown _).mpr ⟨_, _, rfl, rfl⟩⟩

end RecordStore

end ApplicationLedger
