import Backfill.Graphile
import Backfill.Misc.Program
import Backfill.Misc.TableDdl
import Mathlib.Data.List.Sort

/-!
# The statements the client sends

Each SQL text of the client is one constructor of `Statement` with the values bound into
it, and `Statement.exec` says what it returns and what it leaves behind. A statement is
atomic and reads the database as it is when it runs; `Statement.answer` adds that the
database may refuse it, in which case nothing has changed.
-/

namespace Backfill

/-- A row of the scan for failed jobs (`dlq.rs:644`). -/
structure FailedJob where
  id : Int
  taskIdentifier : String
  queueName : Option String
  priority : Int
  jobKey : Option String
  maxAttempts : Int
  attempts : Int
  lastError : Option String
  createdAt : Timestamp
  runAt : Timestamp
  updatedAt : Timestamp
  payload : Json

/-- The values bound into an insertion into `backfill_dlq` (`dlq.rs:590`, `dlq.rs:725`). -/
structure DlqInsert where
  originalJobId : Int
  taskIdentifier : String
  payload : Json
  queueName : String
  priority : Int
  jobKey : Option String
  maxAttempts : Int
  failureReason : String
  lastError : Option Json
  originalCreatedAt : Timestamp
  originalRunAt : Timestamp

/-- A job key as the `VARCHAR(200)` of `backfill_dlq` stores it. Keys of which one is the other and
some blanks beyond the limit are the same there. -/
def storedKey (jobKey : Option String) : Option String := jobKey.map (varchar 200)

@[simp] theorem storedKey_eq_none_iff {jobKey : Option String} :
    storedKey jobKey = none ↔ jobKey = none := Option.map_eq_none_iff

@[simp] theorem storedKey_storedKey (jobKey : Option String) :
    storedKey (storedKey jobKey) = storedKey jobKey := by
  cases jobKey <;> simp [storedKey]

/-- A key that fills the column. -/
def fullKey : String := String.ofList (List.replicate 200 'k')

/-- Another one, which is stored as the first. -/
def blankedKey : String := fullKey ++ " "

theorem length_fullKey : fullKey.toList.length = 200 := by
  unfold fullKey
  rw [String.toList_ofList, List.length_replicate]

theorem storedKey_fullKey : storedKey (some fullKey) = some fullKey := by
  rw [storedKey, Option.map_some, varchar_eq_self_iff.mpr length_fullKey.le]

theorem storedKey_blankedKey : storedKey (some blankedKey) = some fullKey := by
  rw [storedKey, Option.map_some, blankedKey, varchar_append length_fullKey]

theorem blankedKey_ne : blankedKey ≠ fullKey := by
  intro same
  have longer := congrArg String.length same
  simp [blankedKey] at longer

namespace DlqInsert

/-- The insert arm: the columns not listed take the defaults of the table, and a text is stored as
its column cuts it. (One that is longer by more than blanks is refused: `Statement.execOn`.) -/
def draft (values : DlqInsert) (now : Timestamp) : RowDraft DlqJob.id DlqJob.jobKey where
  row id :=
    { id := id
      originalJobId := some values.originalJobId
      taskIdentifier := varchar 200 values.taskIdentifier
      payload := values.payload
      queueName := varchar 100 values.queueName
      priority := values.priority
      jobKey := storedKey values.jobKey
      maxAttempts := some values.maxAttempts
      failureReason := values.failureReason
      failureCount := 1
      lastError := values.lastError
      originalCreatedAt := some values.originalCreatedAt
      originalRunAt := some values.originalRunAt
      failedAt := now
      requeuedCount := 0
      lastRequeuedAt := none
      notes := none }
  indexValue := storedKey values.jobKey
  id_eq _ := rfl
  index_eq _ := rfl

/-- The conflict arm, `DO UPDATE SET` (`dlq.rs:579`, `dlq.rs:713`). -/
def touch (values : DlqInsert) (now : Timestamp) : RowEdit DlqJob.id DlqJob.jobKey where
  apply row :=
    { row with
      failedAt := now
      failureCount := row.failureCount + 1
      failureReason := values.failureReason
      lastError := values.lastError
      originalJobId := some values.originalJobId }
  id_eq _ := rfl
  index_eq _ := .inr rfl

/-- `INSERT INTO backfill_dlq ... ON CONFLICT (job_key) WHERE job_key IS NOT NULL DO UPDATE`. -/
def upsertInto (values : DlqInsert) (table : DlqTable) (now : Timestamp) : DlqTable :=
  table.upsert (values.draft now) (values.touch now)

/-- The row such an insertion leaves, for `RETURNING *`. -/
def upsertedIn (values : DlqInsert) (table : DlqTable) (now : Timestamp) : DlqJob :=
  table.upserted (values.draft now) (values.touch now)

/-- The row that is returned has the key and the job of the values that were bound. -/
theorem jobKey_upsertedIn (values : DlqInsert) (table : DlqTable) (now : Timestamp) :
    (values.upsertedIn table now).jobKey = storedKey values.jobKey ∧
      (values.upsertedIn table now).originalJobId = some values.originalJobId := by
  rcases table.upserted_cases (values.draft now) (values.touch now) with
    ⟨old, -, -, same, -, copy⟩ | ⟨-, copy⟩ <;> rw [upsertedIn, copy]
  · exact ⟨same, rfl⟩
  · exact ⟨rfl, rfl⟩

end DlqInsert

/-- `SET requeued_count = requeued_count + 1, last_requeued_at = NOW(), notes = $1`. -/
def DlqJob.requeued (notes : Option String) (now : Timestamp) :
    RowEdit DlqJob.id DlqJob.jobKey where
  apply row :=
    { row with
      requeuedCount := row.requeuedCount + 1
      lastRequeuedAt := some now
      notes := notes }
  id_eq _ := rfl
  index_eq _ := .inr rfl

/-- `DlqFilter` (`dlq.rs:91`). -/
structure DlqFilter where
  taskIdentifier : Option String
  queueName : Option String
  failedAfter : Option Timestamp
  failedBefore : Option Timestamp
  limit : Option Int
  offset : Option Int

namespace DlqFilter

/-- The `AND` clauses of a filter, each present only when its value is. -/
def selects (filter : DlqFilter) (row : DlqJob) : Bool :=
  filter.taskIdentifier.all (fun task => decide (row.taskIdentifier = task)) &&
    filter.queueName.all (fun queue => decide (row.queueName = queue)) &&
    filter.failedAfter.all (fun start => decide (start ≤ row.failedAt)) &&
    filter.failedBefore.all (fun stop => decide (row.failedAt ≤ stop))

/-- `ORDER BY failed_at DESC LIMIT $1 OFFSET $2`. -/
def page (filter : DlqFilter) (rows : List DlqJob) : List DlqJob :=
  (((rows.filter filter.selects).insertionSort fun a b => b.failedAt ≤ a.failedAt).drop
    (filter.offset.getD 0).toNat).take (filter.limit.getD 50).toNat

end DlqFilter

/-- An error the database itself answers with, under the message it gives. -/
def ForeignError.database (message : String) : ForeignError where
  display := "error returned from database: " ++ message
  debug := "Database(" ++ message ++ ")"

/-- `locked_at IS NOT NULL AND locked_at < cutoff`. -/
def lockedBefore (cutoff : Timestamp) (lockedAt : Option Timestamp) : Bool :=
  lockedAt.any fun taken => decide (taken < cutoff)

/-- `NOW() - ($1::bigint * interval '1 second')`. -/
def lockCutoff (now : Timestamp) (timeoutSecs : Int) : Timestamp :=
  now - Timestamp.seconds timeoutSecs

theorem lockedBefore_iff {cutoff : Timestamp} {lockedAt : Option Timestamp} :
    lockedBefore cutoff lockedAt = true ↔ ∃ taken, lockedAt = some taken ∧ taken < cutoff := by
  simp [lockedBefore, Option.any_eq_true]

/-- A lock is stale when the seconds of the timeout have more than passed. -/
theorem lt_lockCutoff_iff {now taken secs : Int} :
    taken < lockCutoff now secs ↔ secs * 1000000 < now - taken := by
  unfold lockCutoff Timestamp.seconds
  exact ⟨fun early => Int.lt_sub_left_of_add_lt (Int.add_lt_of_lt_sub_right early),
    fun long => Int.lt_sub_right_of_add_lt (Int.add_lt_of_lt_sub_left long)⟩

/-- `SET attempts = max_attempts, last_error = $2, updated_at = now()`. -/
def JobRow.shortCircuit (reason : String) (now : Timestamp) : RowEdit JobRow.id JobRow.key where
  apply row := { row with attempts := row.maxAttempts, lastError := some reason, updatedAt := now }
  id_eq _ := rfl
  index_eq _ := .inr rfl

namespace Database

/-- The columns the scan selects for a job row; the inner join drops a job whose task has
no row. -/
def failedJob? (db : Database) (row : JobRow) : Option FailedJob :=
  (db.taskIdentifier? row.taskId).map fun identifier =>
    { id := row.id
      taskIdentifier := identifier
      queueName := db.queueName? row.jobQueueId
      priority := row.priority
      jobKey := row.key
      maxAttempts := row.maxAttempts
      attempts := row.attempts
      lastError := row.lastError
      createdAt := row.createdAt
      runAt := row.runAt
      updatedAt := row.updatedAt
      payload := row.payload }

/-- `find_failed_jobs_query` (`dlq.rs:644`): exhausted, not yet recorded, the hundred that were
touched longest ago. The statement promises no order for rows touched at the same time. They come in
table order among other clients; what passes do on their own is shown for any (`ScanOrder`). -/
def findFailedJobs (db : Database) : List FailedJob :=
  (((db.jobs.rows.filter fun row => row.failed && !decide (db.Recorded row.id)).filterMap
    db.failedJob?).insertionSort fun a b => a.updatedAt ≤ b.updatedAt).take 100

/-- The row is gone from the queue and the DLQ has been upserted with the bound values. -/
def moved (db : Database) (now : Timestamp) (values : DlqInsert) (table : DlqTable) : Database :=
  { db with
    jobs := db.jobs.delete fun row => row.id = values.originalJobId
    dlq := .ok (values.upsertInto table now) }

/-- `move_query` (`dlq.rs:700`): one statement that deletes the row and, when there was
one, upserts the DLQ with the values bound at the scan. -/
def moveFailedJob (db : Database) (now : Timestamp) (values : DlqInsert) (table : DlqTable) :
    Nat × Database :=
  match db.jobs.get? values.originalJobId with
  | none => (0, db)
  | some _ => (1, db.moved now values table)

/-- Rows with a queue lock taken before `cutoff`. -/
def staleQueues (db : Database) (cutoff : Timestamp) : List JobQueueRow :=
  db.jobQueues.rows.filter fun row => lockedBefore cutoff row.lockedAt

/-- Rows with a job lock taken before `cutoff`. -/
def staleJobs (db : Database) (cutoff : Timestamp) : List JobRow :=
  db.jobs.rows.filter fun row => lockedBefore cutoff row.lockedAt

/-- The rows `attempts >= max_attempts AND locked_at IS NULL`. -/
def abandonedJobs (db : Database) : List JobRow :=
  db.jobs.rows.filter fun row => row.exhausted && row.lockedAt.isNone

end Database

/-- The statements of the client, with their bound values. -/
inductive Statement
  /-- `find_failed_jobs_query` -/
  | findFailedJobs
  /-- `move_query` -/
  | moveFailedJob (values : DlqInsert)
  /-- `SELECT queue_name FROM _private_job_queues WHERE id = $1` -/
  | queueName (jobQueueId : Int)
  /-- `upsert_query` of `add_to_dlq` -/
  | upsertDlq (values : DlqInsert)
  /-- the `UPDATE` of `release_stale_queue_locks` -/
  | releaseQueueLocks (timeoutSecs : Int)
  /-- the `UPDATE` of `release_stale_job_locks` -/
  | releaseJobLocks (timeoutSecs : Int)
  /-- the `DELETE` of `cleanup_permanently_failed_jobs` -/
  | deleteFailedJobs
  /-- `SELECT to_regclass('backfill_dlq')`: does the table exist? -/
  | dlqRelation
  /-- the `UPDATE` of the `JobFail` hook -/
  | shortCircuit (jobId : Int) (reason : String)
  /-- `queue_count_query` of a dry run -/
  | countStaleQueueLocks (timeoutSecs : Int)
  /-- `job_count_query` of a dry run -/
  | countStaleJobLocks (timeoutSecs : Int)
  /-- `failed_count_query` of a dry run -/
  | countFailedJobs
  /-- the call of `add_job` behind `add_raw_job` -/
  | addJob (identifier : String) (payload : Json) (spec : GraphileJobSpec)
  /-- the `SELECT` of `get_dlq_job` -/
  | getDlqJob (dlqId : Int)
  /-- `update_query` of `requeue_dlq_job` -/
  | recordRequeue (notes : Option String) (dlqId : Int)
  /-- the `DELETE ... RETURNING task_identifier` of `delete_dlq_job` -/
  | deleteDlqJob (dlqId : Int)
  /-- the `DELETE` of `delete_dlq_by_job_key` -/
  | deleteDlqByJobKey (jobKey : String)
  /-- the page of `list_dlq_jobs` -/
  | listDlqJobs (filter : DlqFilter)
  /-- the total of `list_dlq_jobs` -/
  | countDlqJobs (filter : DlqFilter)

namespace Statement

/-- What a statement returns: rows, or the number of rows it affected. -/
@[reducible] def Rows : Statement → Type
  | findFailedJobs => List FailedJob
  | queueName _ => Option String
  | upsertDlq _ => DlqJob
  | dlqRelation => Bool
  | addJob _ _ _ => Option Job
  | getDlqJob _ => Option DlqJob
  | deleteDlqJob _ => Option String
  | listDlqJobs _ => List DlqJob
  | _ => Nat

/-- A statement is answered with its rows or with the database's error. -/
abbrev Reply (s : Statement) : Type := Except ForeignError s.Rows

/-- The meaning of a statement that the database does not refuse, with a DLQ made by `init_dlq`. -/
def exec (now : Timestamp) : (s : Statement) → Database → Reply s × Database
  | findFailedJobs, db =>
      match db.dlq with
      | .error missing => (.error missing, db)
      | .ok _ => (.ok db.findFailedJobs, db)
  | moveFailedJob values, db =>
      match db.dlq with
      | .error missing => (.error missing, db)
      | .ok table =>
          (.ok (db.moveFailedJob now values table).1, (db.moveFailedJob now values table).2)
  | queueName jobQueueId, db => (.ok ((db.jobQueues.get? jobQueueId).map JobQueueRow.queueName), db)
  | upsertDlq values, db =>
      match db.dlq with
      | .error missing => (.error missing, db)
      | .ok table =>
          (.ok (values.upsertedIn table now), { db with dlq := .ok (values.upsertInto table now) })
  | releaseQueueLocks secs, db =>
      (.ok (db.staleQueues (lockCutoff now secs)).length,
        { db with
          jobQueues := db.jobQueues.update
            (fun row => lockedBefore (lockCutoff now secs) row.lockedAt) JobQueueRow.unlock })
  | releaseJobLocks secs, db =>
      (.ok (db.staleJobs (lockCutoff now secs)).length,
        { db with
          jobs := db.jobs.update
            (fun row => lockedBefore (lockCutoff now secs) row.lockedAt) JobRow.unlock })
  | deleteFailedJobs, db =>
      (.ok db.abandonedJobs.length,
        { db with jobs := db.jobs.delete fun row => row.exhausted && row.lockedAt.isNone })
  | dlqRelation, db => (.ok db.dlq.isOk, db)
  | shortCircuit jobId reason, db =>
      let hit := fun row : JobRow => decide (row.id = jobId) && row.isAvailable
      (.ok (db.jobs.rows.filter hit).length,
        { db with jobs := db.jobs.update hit (JobRow.shortCircuit reason now) })
  | countStaleQueueLocks secs, db => (.ok (db.staleQueues (lockCutoff now secs)).length, db)
  | countStaleJobLocks secs, db => (.ok (db.staleJobs (lockCutoff now secs)).length, db)
  | countFailedJobs, db => (.ok db.abandonedJobs.length, db)
  | addJob identifier payload spec, db =>
      let added := db.addJob now (spec.newJob identifier payload now)
      (.ok (added.1.map fun row => { row with taskIdentifier := identifier }), added.2)
  | getDlqJob dlqId, db =>
      match db.dlq with
      | .error missing => (.error missing, db)
      | .ok table => (.ok (table.get? dlqId), db)
  | recordRequeue notes dlqId, db =>
      match db.dlq with
      | .error missing => (.error missing, db)
      | .ok table =>
          (.ok (table.rows.filter fun row => decide (row.id = dlqId)).length,
            { db with dlq := .ok (table.update (fun row => row.id = dlqId)
              (DlqJob.requeued notes now)) })
  | deleteDlqJob dlqId, db =>
      match db.dlq with
      | .error missing => (.error missing, db)
      | .ok table =>
          (.ok ((table.get? dlqId).map DlqJob.taskIdentifier),
            { db with dlq := .ok (table.delete fun row => row.id = dlqId) })
  | deleteDlqByJobKey jobKey, db =>
      match db.dlq with
      | .error missing => (.error missing, db)
      | .ok table =>
          (.ok (table.rows.filter fun row => decide (row.jobKey = some jobKey)).length,
            { db with dlq := .ok (table.delete fun row => row.jobKey = some jobKey) })
  | listDlqJobs filter, db =>
      match db.dlq with
      | .error missing => (.error missing, db)
      | .ok table =>
          if filter.offset.getD 0 < 0 then
            (.error (.database "OFFSET must not be negative"), db)
          else if filter.limit.getD 50 < 0 then
            (.error (.database "LIMIT must not be negative"), db)
          else (.ok (filter.page table.rows), db)
  | countDlqJobs filter, db =>
      match db.dlq with
      | .error missing => (.error missing, db)
      | .ok table => (.ok (table.rows.filter filter.selects).length, db)

/-- A statement the database may refuse; a refused one changes nothing. -/
def answer (s : Statement) (now : Timestamp) (fault : Option ForeignError) (db : Database) :
    Reply s × Database :=
  match fault with
  | some error => (.error error, db)
  | none => s.exec now db

@[simp] theorem answer_fault (s : Statement) (now : Timestamp) (error : ForeignError)
    (db : Database) : s.answer now (some error) db = (.error error, db) := rfl

@[simp] theorem answer_none (s : Statement) (now : Timestamp) (db : Database) :
    s.answer now none db = s.exec now db := rfl

end Statement

/-- A routine of the client: the calls are statements, and `?` turns the database's error
into `BackfillError::SqlxError`. -/
abbrev Client (α : Type) : Type := Program Statement Statement.Reply BackfillError α

namespace Client

/-- `sqlx::query(...).await?` -/
def query (s : Statement) : Client s.Rows :=
  .call s fun
    | .ok rows => .done rows
    | .error error => .fail (.sqlxError error)

/-- The only call of a query is its statement. -/
theorem calls_query {I : Statement → Prop} {s : Statement} (sends : I s) : (query s).Calls I :=
  ⟨sends, fun reply => by cases reply <;> trivial⟩

/-- The move statements a routine goes on to send when each of them is refused: the rows
it has scanned and not yet dealt with. -/
def pendingMoves {α : Type} : Client α → List DlqInsert
  | .call (.moveFailedJob values) next => values :: pendingMoves (next (.error ⟨"", ""⟩))
  | .call _ _ => []
  | .done _ => []
  | .fail _ => []

/-- A routine that is about to send anything but a move has no bound row left. -/
theorem pendingMoves_of_next {α : Type} {routine : Client α} {op : Statement}
    (sends : routine.next? = some op) (other : ∀ values, op ≠ .moveFailedJob values) :
    pendingMoves routine = [] := by
  cases routine with
  | done value => rfl
  | fail error => rfl
  | call s next =>
      obtain rfl := Option.some.inj sends
      unfold pendingMoves
      split
      next values next' same => exact absurd (Program.call.inj same).1 (other values)
      all_goals rfl

/-- The first bound row is the one the next move is sent for. -/
theorem next?_of_pendingMoves {α : Type} {routine : Client α} {values : DlqInsert}
    {rest : List DlqInsert} (pending : pendingMoves routine = values :: rest) :
    routine.next? = some (.moveFailedJob values) := by
  unfold pendingMoves at pending
  split at pending
  next values' next =>
    rw [(List.cons.inj pending).1]
    rfl
  all_goals cases pending

end Client

end Backfill
