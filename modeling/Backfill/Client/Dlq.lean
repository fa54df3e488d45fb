import Backfill.Client.Session

/-!
# Capture into the dead letter queue (`client/dlq.rs`)
-/

namespace Backfill

/-- The values `process_failed_jobs` binds for one scanned row (`dlq.rs:725`). -/
def FailedJob.toInsert (job : FailedJob) : DlqInsert where
  originalJobId := job.id
  taskIdentifier := job.taskIdentifier
  payload := job.payload
  queueName := job.queueName.getD ""
  priority := job.priority
  jobKey := job.jobKey
  maxAttempts := job.maxAttempts
  failureReason :=
    "Job exceeded maximum retry attempts (" ++ toString job.attempts ++ "/"
      ++ toString job.maxAttempts ++ ")"
  lastError := job.lastError.map Json.string
  originalCreatedAt := job.createdAt
  originalRunAt := job.runAt

/-- The values `add_to_dlq` binds (`dlq.rs:590`). -/
def Job.toInsert (job : Job) (queueName failureReason : String) (lastError : Option Json) :
    DlqInsert where
  originalJobId := job.id
  taskIdentifier := job.taskIdentifier
  payload := job.payload
  queueName := queueName
  priority := job.priority
  jobKey := job.key
  maxAttempts := job.maxAttempts
  failureReason := failureReason
  lastError := lastError
  originalCreatedAt := job.createdAt
  originalRunAt := job.runAt

namespace Client

/-- The loop of `process_failed_jobs` over the scanned rows (`dlq.rs:671`). A refused move
is logged and the loop goes on. -/
def moveFailedJobs : List FailedJob → Nat → Client Nat
  | [], moved => .done moved
  | job :: jobs, moved =>
      .call (.moveFailedJob job.toInsert) fun
        | .ok affected => moveFailedJobs jobs (if (affected : Nat) > 0 then moved + 1 else moved)
        | .error _ => moveFailedJobs jobs moved

/-- `BackfillClient::process_failed_jobs` (`dlq.rs:634`). -/
def processFailedJobs : Client Nat := do
  let failedJobs ← query .findFailedJobs
  moveFailedJobs failedJobs 0

/-- The queue name `add_to_dlq` records: empty for a parallel job, `"default"` when the
queue row is gone. -/
def queueNameFor (jobQueueId : Option Int) : Client String :=
  match jobQueueId with
  | some queueId => do
      let queueName : Option String ← query (.queueName queueId)
      pure (queueName.getD "default")
  | none => pure ""

/-- `BackfillClient::add_to_dlq` (`dlq.rs:537`). -/
def addToDlq (originalJob : Job) (failureReason : String) (lastError : Option Json) :
    Client DlqJob := do
  let queueName ← queueNameFor originalJob.jobQueueId
  query (.upsertDlq (originalJob.toInsert queueName failureReason lastError))

end Client

namespace Database

/-- What the scan promises of a row it returns. -/
theorem of_mem_findFailedJobs {db : Database} {job : FailedJob}
    (scanned : job ∈ db.findFailedJobs) :
    ∃ row ∈ db.jobs.rows, row.failed = true ∧ ¬ db.Recorded row.id ∧
      db.failedJob? row = some job := by
  have sorted := List.mem_of_mem_take scanned
  rw [List.mem_insertionSort, List.mem_filterMap] at sorted
  obtain ⟨row, filtered, joined⟩ := sorted
  obtain ⟨member, condition⟩ := List.mem_filter.mp filtered
  simp only [Bool.and_eq_true, Bool.not_eq_true', decide_eq_false_iff_not] at condition
  exact ⟨row, member, condition.1, condition.2, joined⟩

/-- The scanned copy of a row is the row's job. -/
theorem failedJob?_id {db : Database} {row : JobRow} {job : FailedJob}
    (joined : db.failedJob? row = some job) : job.id = row.id := by
  obtain ⟨identifier, _, rfl⟩ := Option.map_eq_some_iff.mp joined
  rfl

theorem failedJob?_updatedAt {db : Database} {row : JobRow} {job : FailedJob}
    (joined : db.failedJob? row = some job) : job.updatedAt = row.updatedAt := by
  obtain ⟨identifier, -, rfl⟩ := Option.map_eq_some_iff.mp joined
  rfl

theorem failedJob?_key {db : Database} {row : JobRow} {job : FailedJob}
    (joined : db.failedJob? row = some job) : job.jobKey = row.key := by
  obtain ⟨identifier, _, rfl⟩ := Option.map_eq_some_iff.mp joined
  rfl

end Database

namespace Client

@[simp] theorem pendingMoves_moveFailedJobs (jobs : List FailedJob) (moved : Nat) :
    pendingMoves (moveFailedJobs jobs moved) = jobs.map FailedJob.toInsert := by
  induction jobs generalizing moved with
  | nil => rfl
  | cons job jobs ih => exact congrArg _ (ih moved)

@[simp] theorem pendingMoves_processFailedJobs : pendingMoves processFailedJobs = [] := rfl

end Client

/-- One job with a single permitted attempt. -/
def singleAttempt : NewJob where
  identifier := "send_email"
  payload := .null
  queueName := none
  runAt := 0
  maxAttempts := 1
  key := none
  mode := .replace
  priority := 0

/-- Such a job under the key `"invoice"`. -/
def invoiceJob (payload : Json) : NewJob :=
  { singleAttempt with key := some "invoice", payload := payload }

/-- The queue after that job has used up its attempt. -/
def failedInvoice (payload : Json) : Database :=
  let db := (Database.fresh.addJob 0 (invoiceJob payload)).2
  { db with jobs := db.jobs.update (fun _ => true) (JobRow.shortCircuit "boom" 0) }

end Backfill
