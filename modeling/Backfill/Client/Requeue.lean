import Backfill.Client.Dlq
import Backfill.JobSpec

/-!
# Requeueing, listing and deleting DLQ rows (`client/dlq.rs`, `client/enqueue.rs`)
-/

namespace Backfill

/-- `EnqueueOutcome` (`lib.rs:332`). -/
inductive EnqueueOutcome
  | enqueued (job : Job)
  | alreadyInProgress (jobKey : String)

/-- `DlqJobList` (`dlq.rs:108`). -/
structure DlqJobList where
  jobs : List DlqJob
  total : Nat
  offset : Int
  limit : Int

/-- What `add_raw_job` makes of an empty result, as far as the text is quoted at
`is_row_not_found`. -/
def rowNotFound : ForeignError where
  display := "query returned no rows"
  debug := "SqlError(DbError(\"query returned no rows\"))"

/-- `is_row_not_found` (`enqueue.rs:16`). The variant of the error is not kept in a
`ForeignError`; the message is the one only that variant has. -/
def isRowNotFound (e : ForeignError) : Bool :=
  contains e.display.toList "query returned no rows"

/-- The JobSpec of a requeue (`dlq.rs:346`): the empty queue name stands for a parallel job. -/
def DlqJob.toSpec (dlqJob : DlqJob) : JobSpec where
  runAt := none
  priority := ⟨asI16 dlqJob.priority⟩
  queue := if dlqJob.queueName = "" then .parallel else .serial dlqJob.queueName
  maxAttempts := dlqJob.maxAttempts
  jobKey := dlqJob.jobKey
  jobKeyMode := .replace

/-- With a key or without one, a requeue replaces. -/
theorem DlqJob.mode_newJob (record : DlqJob) (now : Timestamp) :
    (record.toSpec.toGraphile.newJob record.taskIdentifier record.payload now).mode = .replace := by
  cases keyed : record.jobKey <;>
    simp [GraphileJobSpec.newJob, JobSpec.toGraphile, DlqJob.toSpec, keyed]

namespace Client

/-- `WorkerUtils::add_raw_job`: a call of `add_job` that has to return a row. -/
def addRawJob (taskIdentifier : String) (payload : Json) (spec : GraphileJobSpec) :
    Client (Except ForeignError Job) :=
  .call (.addJob taskIdentifier payload spec) fun
    | .ok (some job) => .done (.ok job)
    | .ok none => .done (.error rowNotFound)
    | .error e => .done (.error e)

/-- What `enqueue` makes of the result of `add_raw_job`. -/
def enqueueOutcome (jobKey : Option String) : Except ForeignError Job → Client EnqueueOutcome
  | .ok job => .done (.enqueued job)
  | .error e =>
      match jobKey with
      | some key =>
          if isRowNotFound e then .done (.alreadyInProgress key) else .fail (.graphileWorker e)
      | none => .fail (.graphileWorker e)

/-- `BackfillClient::enqueue` (`enqueue.rs:86`). -/
def enqueue (taskIdentifier : String) (payload : Json) (spec : JobSpec) :
    Client EnqueueOutcome := do
  let result ← addRawJob taskIdentifier payload spec.toGraphile
  enqueueOutcome spec.jobKey result

/-- `BackfillClient::get_dlq_job` (`dlq.rs:297`). -/
def getDlqJob (dlqId : Int) : Client (Option DlqJob) := query (.getDlqJob dlqId)

/-- The second half of a requeue: the count is only logged when it is refused. -/
def recordRequeue (dlqId : Int) (notes : Option String) : EnqueueOutcome → Client Job
  | .enqueued job => .call (.recordRequeue notes dlqId) fun _ => .done job
  | .alreadyInProgress jobKey =>
      .fail (.runtimeError ("Cannot requeue DLQ job " ++ toString dlqId ++ ": a job with key '"
        ++ jobKey ++ "' is already in progress"))

/-- A requeue of the DLQ row that has been read. -/
def requeue (dlqId : Int) (notes : Option String) : Option DlqJob → Client Job
  | none => .fail (.dlqJobNotFound dlqId)
  | some dlqJob => do
      let outcome ← enqueue dlqJob.taskIdentifier dlqJob.payload dlqJob.toSpec
      recordRequeue dlqId notes outcome

/-- `BackfillClient::requeue_dlq_job` (`dlq.rs:339`). -/
def requeueDlqJob (dlqId : Int) (notes : Option String) : Client Job := do
  let dlqJob ← getDlqJob dlqId
  requeue dlqId notes dlqJob

/-- A requeue reads a row, enqueues and counts, and sends nothing else. -/
theorem calls_requeueDlqJob {I : Statement → Prop} (dlqId : Int) (notes : Option String)
    (reads : I (.getDlqJob dlqId))
    (adds : ∀ identifier payload (spec : JobSpec), I (.addJob identifier payload spec.toGraphile))
    (counts : I (.recordRequeue notes dlqId)) : (requeueDlqJob dlqId notes).Calls I := by
  refine (calls_query reads).bind fun dlqJob => ?_
  cases dlqJob with
  | none => trivial
  | some dlqJob =>
      refine Program.Calls.bind (Program.Calls.bind ⟨adds _ _ _, ?_⟩ ?_) ?_
      · rintro (error | added)
        · trivial
        · cases added <;> trivial
      · rintro (error | added)
        · simp only [enqueueOutcome]
          split
          · split <;> trivial
          · trivial
        · trivial
      · rintro (job | jobKey)
        · exact ⟨counts, fun _ => trivial⟩
        · trivial

/-- A requeue as a routine of the cluster, which expects a number. -/
def requeueRoutine (dlqId : Int) (notes : Option String) : Client Nat := do
  let _ ← (requeueDlqJob dlqId notes).attempt
  pure 0

/-- `BackfillClient::delete_dlq_job` (`dlq.rs:425`). -/
def deleteDlqJob (dlqId : Int) : Client Bool := do
  let taskIdentifier : Option String ← query (.deleteDlqJob dlqId)
  pure taskIdentifier.isSome

/-- `BackfillClient::delete_dlq_by_job_key` (`dlq.rs:453`). -/
def deleteDlqByJobKey (jobKey : String) : Client Nat := query (.deleteDlqByJobKey jobKey)

/-- `BackfillClient::list_dlq_jobs` (`dlq.rs:223`). -/
def listDlqJobs (filter : DlqFilter) : Client DlqJobList := do
  let jobs : List DlqJob ← query (.listDlqJobs filter)
  let total : Nat ← query (.countDlqJobs filter)
  pure ⟨jobs, total % 2 ^ 32, filter.offset.getD 0, filter.limit.getD 50⟩

end Client

end Backfill
