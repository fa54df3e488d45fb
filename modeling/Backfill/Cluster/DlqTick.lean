import Backfill.Cluster

/-!
# A DLQ tick, statement by statement

`DlqTick` are the shapes `process_failed_jobs` goes through when it is executed one
statement at a time, and `DlqTick.send` says once what each of its statements can do. Every
result about interleaved ticks is derived from it.
-/

namespace Backfill

/-- What a move does: nothing, or it deletes its row and upserts the DLQ. -/
theorem Statement.moveFailedJob_cases (values : DlqInsert) (now : Timestamp)
    (fault : Option ForeignError) (db : Database) :
    (((Statement.moveFailedJob values).answer now fault db).2 = db ∧
      (Statement.moveFailedJob values).captures now fault db = []) ∨
    ∃ row ∈ db.jobs.rows, ∃ table, row.id = values.originalJobId ∧ db.dlq = .ok table ∧
      ((Statement.moveFailedJob values).answer now fault db).2 = db.moved now values table ∧
      (Statement.moveFailedJob values).captures now fault db =
        [.captured row (values.upsertedIn table now)] := by
  cases fault with
  | some error => exact .inl ⟨rfl, rfl⟩
  | none =>
      cases present : db.dlq with
      | error missing => exact .inl (by simp [Statement.exec, Statement.captures, present])
      | ok table =>
          cases found : db.jobs.get? values.originalJobId with
          | none =>
              refine .inl ?_
              simp [Statement.exec, Statement.captures, Database.moveFailedJob, present, found]
          | some row =>
              obtain ⟨member, key⟩ := SerialTable.get?_eq_some.mp found
              refine .inr ⟨row, member, table, key, rfl, ?_⟩
              simp [Statement.exec, Statement.captures, Database.moveFailedJob, present, found]

/-- The stages of `process_failed_jobs`. -/
inductive DlqTick : Client Nat → Prop
  | scan : DlqTick Client.processFailedJobs
  | moving (jobs : List FailedJob) (moved : Nat) : DlqTick (Client.moveFailedJobs jobs moved)
  | failed (error : BackfillError) : DlqTick (.fail error)

/-- What one statement of a tick does, as the rest of the cluster sees it. -/
inductive DlqTick.Effect (now : Timestamp) (db : Database) (routine rest : Client Nat) :
    Database → List Event → Prop
  /-- the scan reads the database and binds its rows -/
  | scanned (sends : routine.next? = some .findFailedJobs)
      (bound : rest.pendingMoves = db.findFailedJobs.map FailedJob.toInsert) :
      Effect now db routine rest db []
  /-- a statement was refused or found nothing to do -/
  | skipped (left : rest.pendingMoves ⊆ routine.pendingMoves) : Effect now db routine rest db []
  /-- the next bound row is moved -/
  | moved (values : DlqInsert) (row : JobRow) (table : DlqTable)
      (next : routine.pendingMoves = values :: rest.pendingMoves)
      (member : row ∈ db.jobs.rows) (key : row.id = values.originalJobId)
      (present : db.dlq = .ok table) :
      Effect now db routine rest (db.moved now values table)
        [.captured row (values.upsertedIn table now)]

namespace DlqTick

variable {now : Timestamp} {fault : Option ForeignError} {db db' : Database}
  {routine rest : Client Nat} {events : List Event}

/-- The scan is the only statement of a tick that binds rows, and it binds what the scan of
the current database returns. -/
theorem send_processFailedJobs
    (sent : Client.processFailedJobs.send now fault db = some (rest, db', events)) :
    db' = db ∧ events = [] ∧
      ((∃ error, rest = .fail error) ∨ rest = Client.moveFailedJobs db.findFailedJobs 0) := by
  obtain ⟨rfl, rfl, rfl⟩ := Client.send_call sent
  cases fault with
  | some error => exact ⟨rfl, rfl, .inl ⟨_, rfl⟩⟩
  | none =>
      cases present : db.dlq with
      | error missing =>
          refine ⟨?_, rfl, .inl ⟨.sqlxError missing, ?_⟩⟩ <;> simp [Statement.exec, present]
      | ok table =>
          refine ⟨?_, rfl, .inr ?_⟩ <;> simp [Statement.exec, present]

/-- A statement of the loop leaves the loop over the remaining rows. -/
theorem send_moveFailedJobs {job : FailedJob} {jobs : List FailedJob} {moved : Nat}
    (sent : (Client.moveFailedJobs (job :: jobs) moved).send now fault db =
      some (rest, db', events)) :
    (∃ moved', rest = Client.moveFailedJobs jobs moved') ∧
      db' = ((Statement.moveFailedJob job.toInsert).answer now fault db).2 ∧
      events = (Statement.moveFailedJob job.toInsert).captures now fault db := by
  obtain ⟨rfl, rfl, rfl⟩ := Client.send_call sent
  refine ⟨?_, rfl, rfl⟩
  split <;> exact ⟨_, rfl⟩

/-- The one fact about ticks that the cluster results use: a tick stays a tick, and each of
its statements has one of three effects. -/
theorem send (tick : DlqTick routine)
    (sent : routine.send now fault db = some (rest, db', events)) :
    DlqTick rest ∧ Effect now db routine rest db' events := by
  cases tick with
  | scan =>
      obtain ⟨rfl, rfl, ⟨error, rfl⟩ | rfl⟩ := send_processFailedJobs sent
      · exact ⟨.failed error, .skipped (List.nil_subset _)⟩
      · exact ⟨.moving _ _, .scanned rfl (by simp)⟩
  | failed error => cases sent
  | moving jobs moved =>
      cases jobs with
      | nil => cases sent
      | cons job jobs =>
          obtain ⟨⟨moved', rfl⟩, rfl, rfl⟩ := send_moveFailedJobs sent
          refine ⟨.moving jobs moved', ?_⟩
          rcases Statement.moveFailedJob_cases job.toInsert now fault db with
            ⟨same, silent⟩ | ⟨row, member, table, key, present, left, captured⟩
          · rw [same, silent]
            exact .skipped (by simp)
          · rw [left, captured]
            exact .moved _ row table (by simp) member key present

end DlqTick

end Backfill
