import Backfill.Misc.SerialTable
import Backfill.Errors
import Backfill.Time

/-!
# The tables the library works on

The three queue tables belong to the job queue the library sits on; `backfill_dlq` is the
library's own and exists only once it has been created. Only the columns some statement
reads or writes are kept.
-/

namespace Backfill

/-- `serde_json::Value`; a number is kept as its text. -/
inductive Json
  | null
  | bool (value : Bool)
  | number (text : String)
  | string (value : String)
  | array (items : List Json)
  | object (fields : List (String × Json))

/-- A row of `_private_tasks`. -/
structure TaskRow where
  id : Int
  identifier : String

/-- A row of `_private_job_queues`: one per serial queue, with the lock of the job that
runs in it. -/
structure JobQueueRow where
  id : Int
  queueName : String
  lockedAt : Option Timestamp
  lockedBy : Option String

/-- A row of `_private_jobs`. -/
structure JobRow where
  id : Int
  jobQueueId : Option Int
  taskId : Int
  payload : Json
  priority : Int
  runAt : Timestamp
  attempts : Int
  maxAttempts : Int
  lastError : Option String
  createdAt : Timestamp
  updatedAt : Timestamp
  key : Option String
  lockedAt : Option Timestamp
  lockedBy : Option String

/-- The `Job` value a handler and a hook receive: the row as it was fetched, with its task's
identifier. -/
structure Job extends JobRow where
  taskIdentifier : String

/-- A row of `backfill_dlq`, with every column `DlqJob::from_row` reads (`dlq.rs:66`). -/
structure DlqJob where
  id : Int
  originalJobId : Option Int
  taskIdentifier : String
  payload : Json
  queueName : String
  priority : Int
  jobKey : Option String
  maxAttempts : Option Int
  failureReason : String
  failureCount : Int
  lastError : Option Json
  originalCreatedAt : Option Timestamp
  originalRunAt : Option Timestamp
  failedAt : Timestamp
  requeuedCount : Int
  lastRequeuedAt : Option Timestamp
  notes : Option String

/-- `SET locked_at = NULL, locked_by = NULL` on a queue row. -/
def JobQueueRow.unlock : RowEdit JobQueueRow.id fun row => some row.queueName where
  apply row := { row with lockedAt := none, lockedBy := none }
  id_eq _ := rfl
  index_eq _ := .inr rfl

/-- `SET locked_at = NULL, locked_by = NULL` on a job row. -/
def JobRow.unlock : RowEdit JobRow.id JobRow.key where
  apply row := { row with lockedAt := none, lockedBy := none }
  id_eq _ := rfl
  index_eq _ := .inr rfl

abbrev TaskTable := SerialTable TaskRow.id fun row => some row.identifier
abbrev JobQueueTable := SerialTable JobQueueRow.id fun row => some row.queueName
abbrev JobTable := SerialTable JobRow.id JobRow.key
abbrev DlqTable := SerialTable DlqJob.id DlqJob.jobKey

/-- The schema as the statements see it. Until `backfill_dlq` is created, `dlq` is the
error that every statement naming the table is answered with. -/
structure Database where
  tasks : TaskTable
  jobQueues : JobQueueTable
  jobs : JobTable
  dlq : Except ForeignError DlqTable

namespace JobRow

/-- `attempts >= max_attempts`. -/
def exhausted (row : JobRow) : Bool := row.maxAttempts ≤ row.attempts

/-- `is_available`: `locked_at IS NULL AND attempts < max_attempts`. -/
def isAvailable (row : JobRow) : Bool := row.lockedAt.isNone && !row.exhausted

/-- The rows the DLQ is meant for: `attempts >= max_attempts AND max_attempts > 0`. -/
def failed (row : JobRow) : Bool := row.exhausted && decide (0 < row.maxAttempts)

theorem exhausted_iff {row : JobRow} : row.exhausted = true ↔ row.maxAttempts ≤ row.attempts := by
  simp [exhausted]

theorem failed_iff {row : JobRow} :
    row.failed = true ↔ row.maxAttempts ≤ row.attempts ∧ 0 < row.maxAttempts := by
  simp [failed, exhausted]

theorem isAvailable_iff {row : JobRow} :
    row.isAvailable = true ↔ row.lockedAt = none ∧ row.attempts < row.maxAttempts := by
  simp [isAvailable, exhausted]

end JobRow

namespace Database

/-- The schema right after it has been created, DLQ included. -/
def fresh : Database where
  tasks := .empty
  jobQueues := .empty
  jobs := .empty
  dlq := .ok .empty

/-- The rows of `backfill_dlq`; none while the table does not exist. -/
def dlqRows (db : Database) : List DlqJob :=
  match db.dlq with
  | .ok table => table.rows
  | .error _ => []

/-- A DLQ row carries this job id. -/
def Recorded (db : Database) (jobId : Int) : Prop :=
  ∃ row ∈ db.dlqRows, row.originalJobId = some jobId

instance (db : Database) (jobId : Int) : Decidable (db.Recorded jobId) :=
  inferInstanceAs (Decidable (∃ row ∈ db.dlqRows, _))

/-- `SELECT identifier FROM _private_tasks WHERE id = taskId`. -/
def taskIdentifier? (db : Database) (taskId : Int) : Option String :=
  (db.tasks.get? taskId).map TaskRow.identifier

/-- The queue name a job row joins to, `NULL` for a parallel job. -/
def queueName? (db : Database) (jobQueueId : Option Int) : Option String :=
  (jobQueueId.bind db.jobQueues.get?).map JobQueueRow.queueName

/-- What is recorded depends on the DLQ only. -/
theorem recorded_congr {db db' : Database} {jobId : Int} (same : db'.dlq = db.dlq) :
    db'.Recorded jobId ↔ db.Recorded jobId := by
  simp only [Recorded, dlqRows, same]

theorem dlqRows_ok {db : Database} {table : DlqTable} (present : db.dlq = .ok table) :
    db.dlqRows = table.rows := by
  simp only [dlqRows, present]

end Database

end Backfill
