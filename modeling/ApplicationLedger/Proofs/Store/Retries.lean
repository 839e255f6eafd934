/-
This file proves that conflicts do not show. A call tries its transaction again while other clients
are in its way, and each attempt finds what they committed before it. Whatever they do, and whenever
the call gives up, it has either done nothing, or its last attempt has done what the call does on
the table that this attempt found when no one else is there. So a call that fails has no effect, and
no effect comes twice.
-/

import ApplicationLedger.Proofs.Store.Transaction

namespace ApplicationLedger

/-! ### One attempt -/

/-- Whether a fault is one that conflicts lead to. -/
def Fault.isOfConflict : Fault → Bool
  | conflict _ => true
  | exhausted _ _ => true
  | _ => false

theorem Fault.not_isTransient {fault : Fault} (lasting : fault.isOfConflict = false) :
    fault.isTransient = false := by
  cases fault with
  | conflict reason => cases lasting
  | _ => rfl

theorem QueryFault.isOfConflict_fault (fault : QueryFault) : fault.fault.isOfConflict = false := by
  cases fault <;> rfl

namespace Database

variable {α : Type} {mode : TransactionMode} {work : Work α}

/-- The database as other clients leave it around some transactions. -/
def afterOthers (d : Database) (count : Nat) : Database :=
  { d with
    table := (d.disturbances.take count).foldl (fun table next => next.commits table) d.table
    disturbances := d.disturbances.drop count }

/-- An attempt finds what was committed before it; so does the next one. -/
theorem afterOthers_succ (d : Database) (count : Nat) :
    d.afterOthers (count + 1) = (d.afterOthers 1).afterOthers count := by
  obtain ⟨engine, table, isLocked, disturbances⟩ := d
  cases disturbances with
  | nil => simp only [afterOthers, List.take_nil, List.drop_nil, List.foldl_nil]
  | cons next rest => rfl

theorem disturbed_eq (d : Database) : d.disturbed = d.afterOthers 1 := by
  obtain ⟨engine, table, isLocked, disturbances⟩ := d
  cases disturbances with
  | nil => rfl
  | cons next rest => rfl

/-- What the work of a call is like: if it gets the right to write that it needs, it ends in a
conflict or does what it does alone; and its own faults are none of those that conflicts lead to. -/
structure IsSteady (mode : TransactionMode) (work : Work α) : Prop where
  meets : ∀ connection : Connection, (mode = .write → connection.mayWrite = true) → ∀ table,
    (∃ fault, fault.isTransient = true ∧ work connection table = .error fault) ∨
      work connection table = work (.alone connection.engine) table
  lasting : ∀ engine table fault, work (.alone engine) table = .error fault →
    fault.isOfConflict = false

/-- A transaction begins with a conflict, or with the right to write if it wants to write. -/
theorem begin?_cases (d : Database) (mode : TransactionMode) (conflict : Option Stage) :
    (∃ fault, fault.isTransient = true ∧ d.begin? mode conflict = .error fault) ∨
      ∃ connection, d.begin? mode conflict = .ok connection ∧ connection.engine = d.engine ∧
        (mode = .write → connection.mayWrite = true) := by
  unfold begin?
  split
  · exact .inl ⟨_, rfl, rfl⟩
  split
  · exact .inl ⟨_, rfl, rfl⟩
  · rename_i _ started
    refine .inr ⟨_, rfl, rfl, ?_⟩
    rintro rfl
    exact Bool.not_eq_true' _ ▸ Bool.eq_false_iff.mpr fun locked => started (.inr ⟨rfl, locked⟩)

/-! ### How a call can end -/

/-- How a call can end, if `seen` is the database that its last attempt found. -/
def EndsOnce (work : Work α) (seen ended : Database) (attempts : Nat) : Except Fault α → Prop
  | .ok value => ∃ table,
    work (.alone seen.engine) seen.table = .ok (value, table) ∧ ended = { seen with table }
  | .error (.exhausted number last) => number = attempts ∧ last.isTransient = true ∧ ended = seen
  | .error fault =>
    fault.isTransient = false ∧ work (.alone seen.engine) seen.table = .error fault ∧ ended = seen

theorem endsOnce_of_error (steady : IsSteady mode work) {seen : Database} {fault : Fault}
    (failed : work (.alone seen.engine) seen.table = .error fault) (attempts : Nat) :
    EndsOnce work seen seen attempts (.error fault) := by
  have lasting := steady.lasting _ _ _ failed
  cases fault with
  | exhausted number last => cases lasting
  | _ => exact ⟨Fault.not_isTransient lasting, failed, rfl⟩

/-- An attempt ends in a conflict and leaves nothing behind, or it ends the call. -/
theorem transact_cases (steady : IsSteady mode work) (d : Database) :
    (∃ fault, fault.isTransient = true ∧
      d.transact mode work = (d.afterOthers 1, .error fault)) ∨
    ∃ ended result, d.transact mode work = (ended, result) ∧
      (∀ fault, result = .error fault → fault.isTransient = false) ∧
      ∀ attempts, EndsOnce work (d.afterOthers 1) ended attempts result := by
  unfold transact
  rw [d.disturbed_eq]
  dsimp only
  rcases (d.afterOthers 1).begin?_cases mode d.ahead.conflict with
    ⟨fault, transient, begun⟩ | ⟨connection, begun, sameEngine, mayWrite⟩
  · exact .inl ⟨fault, transient, by rw [begun]⟩
  rw [begun]
  dsimp only
  rcases steady.meets connection mayWrite (d.afterOthers 1).table with
    ⟨fault, transient, disturbed⟩ | alone
  · exact .inl ⟨fault, transient, by rw [disturbed]⟩
  rw [alone, sameEngine]
  cases worked : work (.alone (d.afterOthers 1).engine) (d.afterOthers 1).table with
  | error fault =>
    refine .inr ⟨_, _, rfl, ?_, endsOnce_of_error steady worked⟩
    rintro _ ⟨⟩
    exact Fault.not_isTransient (steady.lasting _ _ _ worked)
  | ok done =>
    obtain ⟨value, table⟩ := done
    dsimp only
    by_cases late : d.ahead.conflict = some .commit
    · rw [if_pos late]
      exact .inl ⟨_, rfl, rfl⟩
    · rw [if_neg late]
      exact .inr ⟨_, _, rfl, nofun, fun _ => ⟨table, worked, rfl⟩⟩

end Database

namespace RetryPolicy

/-- Every run ends with one attempt that counts, however long its attempts take. The induction is on
the attempts that are left; those that ended in conflicts leave only what others committed. -/
theorem runFrom_endsOnce {α : Type} {mode : TransactionMode} {work : Database.Work α}
    (steady : Database.IsSteady mode work) (p : RetryPolicy) (took : Database → Duration)
    (left number elapsed : Nat) (draws : Draws) (d : Database) :
    let run := p.runFrom (fun d => ⟨(d.transact mode work).1, (d.transact mode work).2, took d⟩)
      left number elapsed draws d
    ∃ count, run.attempts + 1 = number + count ∧
      Database.EndsOnce work (d.afterOthers count) run.state run.attempts run.result := by
  dsimp only
  induction left generalizing number elapsed draws d with
  | zero =>
    rcases d.transact_cases steady with
      ⟨fault, transient, conflicted⟩ | ⟨ended, result, finished, lasting, endsOnce⟩
    · unfold runFrom
      simp only [conflicted, transient, if_true]
      exact ⟨1, rfl, rfl, transient, rfl⟩
    · rw [runFrom_eq _ _ _ _ _ _ _ (by rwa [finished])]
      exact ⟨1, rfl, by simpa only [finished, Run.result] using endsOnce number⟩
  | succ left inductionHypothesis =>
    rcases d.transact_cases steady with
      ⟨fault, transient, conflicted⟩ | ⟨ended, result, finished, lasting, endsOnce⟩
    · unfold runFrom
      simp only [conflicted, transient, if_true]
      split
      · exact ⟨1, rfl, rfl, transient, rfl⟩
      · exact ⟨1, rfl, rfl, transient, rfl⟩
      · obtain ⟨count, attempts, endsOnce⟩ := inductionHypothesis (number + 1)
          (elapsed + (took d).nanoseconds + (p.backoff number draws).1.nanoseconds)
          (p.backoff number draws).2 (d.afterOthers 1)
        refine ⟨count + 1, attempts.trans (by omega), ?_⟩
        rw [Database.afterOthers_succ]
        exact endsOnce
    · rw [runFrom_eq _ _ _ _ _ _ _ (by rwa [finished])]
      exact ⟨1, rfl, by simpa only [finished, Run.result] using endsOnce number⟩

end RetryPolicy

namespace RecordStore

/-! ### Calls on the store -/

/-- Whether a call on a store acts once. If all its attempts met conflicts, it leaves behind what
other clients committed up to the last of them. Otherwise its result is the one that the call has
alone on the table that the last attempt found, and what it leaves behind is what the call leaves
there; if the result is a fault, this is nothing. -/
def ActsOnce {α : Type} (s : RecordStore) (call : RecordStore → RecordStore × Except Fault α) :
    Prop :=
  ∃ attempts after,
    (call s).1.database = { s.database.afterOthers attempts with table := after } ∧
    (call s).1.policy = s.policy ∧
    match (call s).2 with
    | .error (.exhausted number last) =>
      number = attempts ∧ last.isTransient = true ∧ after = (s.database.afterOthers attempts).table
    | result =>
      call ⟨.alone s.database.engine (s.database.afterOthers attempts).table, s.policy, s.draws⟩ =
          (⟨.alone s.database.engine after, s.policy, s.draws⟩, result) ∧
        ∀ fault, result = .error fault →
          fault.isTransient = false ∧ after = (s.database.afterOthers attempts).table

theorem actsOnce_of_error {α : Type} {s : RecordStore}
    {call : RecordStore → RecordStore × Except Fault α} {fault : Fault} (attempts : Nat)
    (lasting : fault.isOfConflict = false)
    (unchanged : (call s).1.database = s.database.afterOthers attempts)
    (samePolicy : (call s).1.policy = s.policy) (failed : (call s).2 = .error fault)
    (alone :
      let found := Database.alone s.database.engine (s.database.afterOthers attempts).table
      call ⟨found, s.policy, s.draws⟩ = (⟨found, s.policy, s.draws⟩, .error fault)) :
    s.ActsOnce call := by
  refine ⟨attempts, _, unchanged, samePolicy, ?_⟩
  rw [failed]
  have notTransient := Fault.not_isTransient lasting
  cases fault with
  | exhausted number last => cases lasting
  | _ => exact ⟨alone, fun _ equal => Except.error.inj equal ▸ ⟨notTransient, rfl⟩⟩

/-- A call ends with its last attempt. -/
theorem endsOnce_attempt {α : Type} {mode : TransactionMode} {work : Database.Work α}
    (steady : Database.IsSteady mode work) (s : RecordStore) :
    Database.EndsOnce work (s.database.afterOthers (s.attempt mode work).attempts)
      (s.attempt mode work).state (s.attempt mode work).attempts (s.attempt mode work).result := by
  obtain ⟨count, attempts, endsOnce⟩ := s.policy.runFrom_endsOnce steady
    (fun database => database.ahead.took) (s.policy.maxAttempts - 1) 1 0 s.draws s.database
  rw [Nat.add_comm, Nat.add_left_cancel_iff] at attempts
  rw [← attempts] at endsOnce
  exact endsOnce

/-- A value comes from work that was done. -/
theorem exists_work_eq_ok {α : Type} {mode : TransactionMode} {work : Database.Work α}
    (steady : Database.IsSteady mode work) {s : RecordStore} {value : α}
    (answer : (s.transact mode work).2 = .ok value) :
    ∃ engine table after, work (.alone engine) table = .ok (value, after) := by
  have endsOnce := endsOnce_attempt steady s
  rw [show (s.attempt mode work).result = .ok value from answer] at endsOnce
  obtain ⟨after, worked, _⟩ := endsOnce
  exact ⟨_, _, after, worked⟩

/-- What is done in transactions with steady work acts once. -/
theorem actsOnce_transact {α : Type} {mode : TransactionMode} {work : Database.Work α}
    (steady : Database.IsSteady mode work) (s : RecordStore) :
    s.ActsOnce (·.transact mode work) := by
  have endsOnce := endsOnce_attempt steady s
  have reached : s.transact mode work =
      ({ s with database := (s.attempt mode work).state, draws := (s.attempt mode work).draws },
        (s.attempt mode work).result) := rfl
  generalize (s.attempt mode work).state = ended at endsOnce reached
  generalize (s.attempt mode work).draws = draws at reached
  generalize (s.attempt mode work).attempts = attempts at endsOnce
  cases result : (s.attempt mode work).result with
  | ok value =>
    rw [result] at endsOnce reached
    obtain ⟨table, worked, rfl⟩ := endsOnce
    refine ⟨attempts, table, congrArg (·.1.database) reached, rfl, ?_⟩
    simp only [reached]
    exact ⟨transact_ok mode worked, nofun⟩
  | error fault =>
    rw [result] at endsOnce reached
    cases fault with
    | exhausted number last =>
      obtain ⟨rfl, transient, rfl⟩ := endsOnce
      refine ⟨number, _, congrArg (·.1.database) reached, rfl, ?_⟩
      simp only [reached]
      exact ⟨trivial, transient, rfl⟩
    | conflict reason => cases endsOnce.1
    | _ =>
      obtain ⟨lasting, failed, rfl⟩ := endsOnce
      exact actsOnce_of_error attempts rfl (congrArg (·.1.database) reached) rfl
        (congrArg (·.2) reached) (transact_error mode failed lasting)

/-! ### What the calls do -/

/-- Work that writes is done as alone, or not at all. -/
theorem writes_cases {connection : Connection} (mayWrite : connection.mayWrite = true) :
    Database.writes connection = false ∨ connection = .alone connection.engine := by
  obtain ⟨engine, _, conflict⟩ := connection
  cases mayWrite
  cases conflict with
  | none => exact .inr rfl
  | some phase => exact .inl rfl

theorem isSteady_insert (r : ApplicationRecord) :
    Database.IsSteady .write (Database.insert r) := by
  refine ⟨fun connection mayWrite table => ?_, fun engine table fault failed => ?_⟩
  · rcases writes_cases (mayWrite rfl) with refused | alone
    · exact .inl ⟨_, rfl, if_neg (Bool.eq_false_iff.mp refused)⟩
    · exact .inr (congrArg (Database.insert r · table) alone)
  · rw [Database.insert, if_pos (Database.writes_alone engine)] at failed
    split at failed
    · cases failed
    · cases failed
      rfl

theorem isSteady_update (id : String) (fields : ApplicationFields) :
    Database.IsSteady .write (updateWork id fields) := by
  refine ⟨fun connection mayWrite table => ?_, fun engine table fault failed => ?_⟩
  · rcases writes_cases (mayWrite rfl) with refused | alone
    · refine .inl ⟨Database.locked "Failed to update application", rfl, ?_⟩
      rw [updateWork, Database.update, if_neg (Bool.eq_false_iff.mp refused)]
      rfl
    · exact .inr (congrArg (updateWork id fields · table) alone)
  · rw [updateWork, Database.update, if_pos (Database.writes_alone engine)] at failed
    simp only [bind, Except.bind] at failed
    split at failed
    · cases failed
      rfl
    · cases failed

/-- A statement that reads fails as alone, if at all, unless it meets other clients before. -/
theorem failure?_cases (connection : Connection) (s : Statement) (table : Table) :
    (∃ fault, fault.isTransient = true ∧
      Phase.all.findSome? (Database.failure? connection s table) = some fault) ∨
    Phase.all.findSome? (Database.failure? connection s table) =
      Phase.all.findSome? (Database.failure? (.alone connection.engine) s table) := by
  -- The phases are gone through until the first one that fails.
  induction Phase.all with
  | nil => exact .inr rfl
  | cons phase rest inductionHypothesis =>
    simp only [List.findSome?_cons, Database.failure?_alone]
    by_cases met : connection.conflict = some phase
    · exact .inl ⟨_, rfl, by rw [Database.failure?, if_pos met]⟩
    · rw [Database.failure?, if_neg met]
      cases connection.engine.reason? s table phase with
      | none => exact inductionHypothesis
      | some reason => exact .inr rfl

theorem isSteady_select (q : Query) : Database.IsSteady .read (Database.select q) := by
  refine ⟨fun connection _ table => ?_, fun engine table fault failed => ?_⟩
  · unfold Database.select
    cases q.compile with
    | error fault => exact .inr rfl
    | ok statement =>
      dsimp only
      rcases failure?_cases connection statement table with ⟨fault, transient, met⟩ | alone
      · exact .inl ⟨fault, transient, by rw [met]⟩
      · exact .inr (by rw [alone])
  · rw [Database.select] at failed
    split at failed
    · cases failed
      exact QueryFault.isOfConflict_fault _
    · split at failed
      · rename_i refused
        cases failed
        obtain ⟨_, ⟨met, _⟩ | ⟨_, _, rfl⟩⟩ := Database.exists_of_findSome?_failure? refused
        · cases met
        · rfl
      · split at failed
        · cases failed
        · cases failed
          rfl

/-- Conflicts do not show in any call on the store, whatever other clients do, wherever they are in
its way and whatever its policy is. -/
theorem insert_update_query_actOnce (s : RecordStore) (r : ApplicationRecord) (id : String)
    (fields : ApplicationFields) (q : Query) :
    s.ActsOnce (·.insert r) ∧ s.ActsOnce (·.update id fields) ∧ s.ActsOnce (·.query q) := by
  refine ⟨actsOnce_transact (isSteady_insert r) s, actsOnce_transact (isSteady_update id fields) s,
    ?_⟩
  cases compiled : q.compile with
  | error fault =>
    have refused (s : RecordStore) : s.query q = (s, .error fault.fault) := by
      rw [query, compiled]
    exact actsOnce_of_error 0 fault.isOfConflict_fault (congrArg (·.1.database) (refused s))
      (congrArg (·.1.policy) (refused s)) (congrArg (·.2) (refused s)) (refused _)
  | ok statement =>
    have asked (s : RecordStore) : s.query q = s.transact .read (Database.select q) := by
      rw [query, compiled]
    simp only [asked]
    exact actsOnce_transact (isSteady_select q) s

end RecordStore

end ApplicationLedger
