import Mathlib.Algebra.Group.Pi.Basic
import Mathlib.Algebra.Ring.Int.Defs
import Backfill.Client.Cleanup
import Backfill.Client.Requeue
import Backfill.Metrics
import Backfill.Misc.Metering

/-!
# The client and what it reports

The routines of the client again, with the metrics they emit between their statements. Without the
metrics they are the routines everything else is proved of. A counter is never ahead of the database
or behind it for long: once no routine is under way, every counter of releases, deletions, additions
and enqueues stands at what the statements of the routines have done, whoever else has written in
between and whichever of the statements have been refused.
-/

namespace Backfill

open Metering

/-- A routine of the client with its metrics. -/
abbrev MeteredClient (α : Type) : Type :=
  Metered Statement Statement.Reply Metric BackfillError α

namespace MeteredClient

/-- `sqlx::query(...).await?` -/
def query (s : Statement) : MeteredClient s.Rows :=
  .call (.inl s) fun
    | .ok rows => .done rows
    | .error error => .fail (.sqlxError error)

/-- Some metrics, one after the other. -/
def report {α : Type} (metrics : List Metric) (value : α) : MeteredClient α :=
  metrics.foldr Metered.emit (.done value)

/-- `BackfillClient::release_stale_queue_locks` (`cleanup.rs:57`). -/
def releaseStaleQueueLocks (timeout : Duration) : MeteredClient Nat := do
  let released : Nat ← query (.releaseQueueLocks (asI64 timeout.asSecs))
  report (Metric.recordCleanupQueueLocksReleased released) released

/-- `BackfillClient::release_stale_job_locks` (`cleanup.rs:104`). -/
def releaseStaleJobLocks (timeout : Duration) : MeteredClient Nat := do
  let released : Nat ← query (.releaseJobLocks (asI64 timeout.asSecs))
  report (Metric.recordCleanupJobLocksReleased released) released

/-- `BackfillClient::cleanup_permanently_failed_jobs` (`cleanup.rs:165`). -/
def cleanupPermanentlyFailedJobs : MeteredClient Nat := do
  let deleted : Nat ← query .deleteFailedJobs
  let _ ← report [Metric.recordCleanupFailedJobsDeleted deleted] ()
  if 0 < deleted then
    .call (.inl .dlqRelation) fun _ => .done deleted
  else
    pure deleted

/-- `BackfillClient::startup_cleanup_with_timeouts` (`cleanup.rs:253`). -/
def startupCleanupWithTimeouts (queueLockTimeout jobLockTimeout : Duration) :
    MeteredClient (Nat × Nat × Nat) := do
  let queueLocksReleased ← releaseStaleQueueLocks queueLockTimeout
  let jobLocksReleased ← releaseStaleJobLocks jobLockTimeout
  let jobsDeleted ← cleanupPermanentlyFailedJobs
  pure (queueLocksReleased, jobLocksReleased, jobsDeleted)

/-- A refused release is counted under the type of its error. -/
def reportFailure (tables : CharTables) (operation : String) :
    Except BackfillError Nat → MeteredClient Bool
  | .ok _ => .done true
  | .error e => report
      [Metric.recordCleanupFailure operation (classifyErrorForMetrics tables e.display)] false

/-- One tick of the task `start_stale_lock_cleanup` spawns (`cleanup.rs:318`). -/
def staleLockCleanupTick (tables : CharTables) (queueLockTimeout jobLockTimeout : Duration) :
    MeteredClient Unit := do
  let queueLocks ← (releaseStaleQueueLocks queueLockTimeout).attempt
  let queueLocksReleased ← reportFailure tables "queue_locks" queueLocks
  let jobLocks ← (releaseStaleJobLocks jobLockTimeout).attempt
  let jobLocksReleased ← reportFailure tables "job_locks" jobLocks
  if queueLocksReleased && jobLocksReleased then
    report [Metric.updateCleanupHealthTimestamp] ()
  else
    pure ()

/-- `WorkerUtils::add_raw_job`. -/
def addRawJob (taskIdentifier : String) (payload : Json) (spec : GraphileJobSpec) :
    MeteredClient (Except ForeignError Job) :=
  .call (.inl (.addJob taskIdentifier payload spec)) fun
    | .ok (some job) => .done (.ok job)
    | .ok none => .done (.error rowNotFound)
    | .error e => .done (.error e)

/-- What `enqueue` makes of the result of `add_raw_job`. -/
def enqueueOutcome (taskIdentifier : String) (spec : JobSpec) :
    Except ForeignError Job → MeteredClient EnqueueOutcome
  | .ok job => report
      [Metric.recordDbOperation "enqueue" "success",
        Metric.recordJobEnqueued spec.queue.metricLabel taskIdentifier spec.priority.value]
      (.enqueued job)
  | .error e =>
      match spec.jobKey with
      | some key =>
          if isRowNotFound e then
            report
              [Metric.recordDbOperation "enqueue" "already_in_progress",
                Metric.recordJobAlreadyInProgress spec.queue.metricLabel taskIdentifier]
              (.alreadyInProgress key)
          else
            Metered.emit (Metric.recordDbOperation "enqueue" "error") (.fail (.graphileWorker e))
      | none => Metered.emit (Metric.recordDbOperation "enqueue" "error") (.fail (.graphileWorker e))

/-- `BackfillClient::enqueue` (`enqueue.rs:86`). -/
def enqueue (taskIdentifier : String) (payload : Json) (spec : JobSpec) :
    MeteredClient EnqueueOutcome := do
  let result ← addRawJob taskIdentifier payload spec.toGraphile
  let _ ← report [Metric.recordDbOperationDuration "enqueue"] ()
  enqueueOutcome taskIdentifier spec result

/-- `BackfillClient::get_dlq_job` (`dlq.rs:297`). -/
def getDlqJob (dlqId : Int) : MeteredClient (Option DlqJob) := do
  let found : Option DlqJob ← query (.getDlqJob dlqId)
  report (found.toList.map fun job => Metric.recordDlqAge job.taskIdentifier) found

/-- The second half of a requeue: the metric comes before the count. -/
def recordRequeue (dlqId : Int) (notes : Option String) (dlqJob : DlqJob) :
    EnqueueOutcome → MeteredClient Job
  | .enqueued job =>
      Metered.emit
        (Metric.recordDlqJobRequeued dlqJob.taskIdentifier dlqJob.toSpec.queue.metricLabel)
        (.call (.inl (.recordRequeue notes dlqId)) fun _ => .done job)
  | .alreadyInProgress jobKey =>
      .fail (.runtimeError ("Cannot requeue DLQ job " ++ toString dlqId ++ ": a job with key '"
        ++ jobKey ++ "' is already in progress"))

/-- `BackfillClient::requeue_dlq_job` (`dlq.rs:339`). -/
def requeueDlqJob (dlqId : Int) (notes : Option String) : MeteredClient Job := do
  let found ← getDlqJob dlqId
  match found with
  | none => .fail (.dlqJobNotFound dlqId)
  | some dlqJob =>
      let outcome ← enqueue dlqJob.taskIdentifier dlqJob.payload dlqJob.toSpec
      recordRequeue dlqId notes dlqJob outcome

/-- `BackfillClient::delete_dlq_job` (`dlq.rs:425`). -/
def deleteDlqJob (dlqId : Int) : MeteredClient Bool := do
  let taskIdentifier : Option String ← query (.deleteDlqJob dlqId)
  report (taskIdentifier.toList.map Metric.recordDlqJobDeleted) taskIdentifier.isSome

/-- `BackfillClient::delete_dlq_by_job_key` (`dlq.rs:453`). -/
def deleteDlqByJobKey (jobKey : String) : MeteredClient Nat := do
  let deleted : Nat ← query (.deleteDlqByJobKey jobKey)
  report (if 0 < deleted then [Metric.recordDlqJobDeleted "(by_job_key)"] else []) deleted

/-- The queue name `add_to_dlq` records. -/
def queueNameFor (jobQueueId : Option Int) : MeteredClient String :=
  match jobQueueId with
  | some queueId => do
      let queueName : Option String ← query (.queueName queueId)
      pure (queueName.getD "default")
  | none => pure ""

/-- The metrics of a row that has been added to the DLQ. -/
def reportAdded (dlqJob : DlqJob) : MeteredClient DlqJob :=
  report
    [Metric.recordDbOperation "dlq_add" "success", Metric.recordDbOperationDuration "dlq_add",
      Metric.recordDlqJobAdded (queueMetricLabelFromName dlqJob.queueName) dlqJob.taskIdentifier
        dlqJob.failureReason]
    dlqJob

/-- `BackfillClient::add_to_dlq` (`dlq.rs:537`). -/
def addToDlq (originalJob : Job) (failureReason : String) (lastError : Option Json) :
    MeteredClient DlqJob := do
  let queueName ← queueNameFor originalJob.jobQueueId
  let dlqJob : DlqJob ←
    query (.upsertDlq (originalJob.toInsert queueName failureReason lastError))
  reportAdded dlqJob

/-- `BackfillClient::list_dlq_jobs` (`dlq.rs:223`): the ages are recorded before the total is asked
for. -/
def listDlqJobs (filter : DlqFilter) : MeteredClient DlqJobList := do
  let jobs : List DlqJob ← query (.listDlqJobs filter)
  let _ ← report (jobs.map fun job => Metric.recordDlqAge job.taskIdentifier) ()
  let total : Nat ← query (.countDlqJobs filter)
  pure ⟨jobs, total % 2 ^ 32, filter.offset.getD 0, filter.limit.getD 50⟩

/-! ### Without the metrics -/

theorem erase_query (s : Statement) : (query s).erase = Client.query s := by
  refine congrArg (Program.call s) (funext fun reply => ?_)
  cases reply <;> rfl

theorem erase_report {α : Type} (metrics : List Metric) (value : α) :
    (report metrics value).erase = .done value := by
  induction metrics with
  | nil => rfl
  | cons metric metrics ih => exact ih

/-- A query that only reports what it has been answered. -/
theorem erase_query_report {α : Type} (s : Statement) (metrics : s.Rows → List Metric)
    (value : s.Rows → α) :
    (query s >>= fun rows => report (metrics rows) (value rows)).erase =
      Client.query s >>= fun rows => .done (value rows) := by
  rw [Metered.erase_bind, erase_query]
  exact congrArg _ (funext fun rows => erase_report _ _)

theorem erase_releaseStaleQueueLocks (timeout : Duration) :
    (releaseStaleQueueLocks timeout).erase = Client.releaseStaleQueueLocks timeout :=
  (erase_query_report _ _ _).trans (Program.bind_return _)

theorem erase_releaseStaleJobLocks (timeout : Duration) :
    (releaseStaleJobLocks timeout).erase = Client.releaseStaleJobLocks timeout :=
  (erase_query_report _ _ _).trans (Program.bind_return _)

theorem erase_cleanupPermanentlyFailedJobs :
    cleanupPermanentlyFailedJobs.erase = Client.cleanupPermanentlyFailedJobs := by
  rw [cleanupPermanentlyFailedJobs, Client.cleanupPermanentlyFailedJobs, Metered.erase_bind,
    erase_query]
  refine congrArg _ (funext fun deleted => ?_)
  rw [Metered.erase_bind, erase_report, Program.bind_done]
  split <;> rfl

theorem erase_startupCleanupWithTimeouts (queueLockTimeout jobLockTimeout : Duration) :
    (startupCleanupWithTimeouts queueLockTimeout jobLockTimeout).erase =
      Client.startupCleanupWithTimeouts queueLockTimeout jobLockTimeout := by
  simp only [startupCleanupWithTimeouts, Client.startupCleanupWithTimeouts, Metered.erase_bind,
    erase_releaseStaleQueueLocks, erase_releaseStaleJobLocks, erase_cleanupPermanentlyFailedJobs]
  rfl

theorem erase_staleLockCleanupTick (tables : CharTables)
    (queueLockTimeout jobLockTimeout : Duration) :
    (staleLockCleanupTick tables queueLockTimeout jobLockTimeout).erase =
      Client.staleLockCleanupTick queueLockTimeout jobLockTimeout := by
  have failure : ∀ (operation : String) (result : Except BackfillError Nat),
      ∃ released, (reportFailure tables operation result).erase = .done released := by
    rintro operation (e | n)
    · exact ⟨false, rfl⟩
    · exact ⟨true, rfl⟩
  simp only [staleLockCleanupTick, Client.staleLockCleanupTick, Metered.erase_bind,
    Metered.erase_attempt, erase_releaseStaleQueueLocks, erase_releaseStaleJobLocks]
  refine congrArg _ (funext fun queueLocks => ?_)
  obtain ⟨queueLocksReleased, erased⟩ := failure "queue_locks" queueLocks
  rw [erased, Program.bind_done]
  refine congrArg _ (funext fun jobLocks => ?_)
  obtain ⟨jobLocksReleased, erased⟩ := failure "job_locks" jobLocks
  rw [erased, Program.bind_done]
  split <;> rfl

theorem erase_enqueue (taskIdentifier : String) (payload : Json) (spec : JobSpec) :
    (enqueue taskIdentifier payload spec).erase =
      Client.enqueue taskIdentifier payload spec := by
  have outcome : ∀ result, (enqueueOutcome taskIdentifier spec result).erase =
      Client.enqueueOutcome spec.jobKey result := by
    rintro (e | job)
    · cases keyed : spec.jobKey with
      | none =>
          simp only [enqueueOutcome, Client.enqueueOutcome, keyed]
          rfl
      | some key =>
          simp only [enqueueOutcome, Client.enqueueOutcome, keyed]
          split <;> rfl
    · rfl
  refine congrArg (Program.call _) (funext fun reply => ?_)
  rcases reply with e | _ | job
  · exact outcome (.error e)
  · exact outcome (.error rowNotFound)
  · exact outcome (.ok job)

theorem erase_getDlqJob (dlqId : Int) : (getDlqJob dlqId).erase = Client.getDlqJob dlqId :=
  (erase_query_report _ _ _).trans (Program.bind_return _)

theorem erase_requeueDlqJob (dlqId : Int) (notes : Option String) :
    (requeueDlqJob dlqId notes).erase = Client.requeueDlqJob dlqId notes := by
  rw [requeueDlqJob, Client.requeueDlqJob, Metered.erase_bind, erase_getDlqJob]
  refine congrArg _ (funext fun found => ?_)
  cases found with
  | none => rfl
  | some dlqJob =>
      rw [Metered.erase_bind, erase_enqueue, Client.requeue]
      refine congrArg _ (funext fun outcome => ?_)
      cases outcome <;> rfl

theorem erase_deleteDlqJob (dlqId : Int) :
    (deleteDlqJob dlqId).erase = Client.deleteDlqJob dlqId :=
  erase_query_report _ _ _

theorem erase_deleteDlqByJobKey (jobKey : String) :
    (deleteDlqByJobKey jobKey).erase = Client.deleteDlqByJobKey jobKey :=
  (erase_query_report _ _ _).trans (Program.bind_return _)

theorem erase_addToDlq (originalJob : Job) (failureReason : String) (lastError : Option Json) :
    (addToDlq originalJob failureReason lastError).erase =
      Client.addToDlq originalJob failureReason lastError := by
  have name : (queueNameFor originalJob.jobQueueId).erase =
      Client.queueNameFor originalJob.jobQueueId := by
    cases originalJob.jobQueueId with
    | none => rfl
    | some queueId =>
        rw [queueNameFor, Client.queueNameFor, Metered.erase_bind, erase_query]
        rfl
  rw [addToDlq, Client.addToDlq, Metered.erase_bind, name]
  exact congrArg _ (funext fun queueName => (erase_query_report _ _ _).trans (Program.bind_return _))

theorem erase_listDlqJobs (filter : DlqFilter) :
    (listDlqJobs filter).erase = Client.listDlqJobs filter := by
  rw [listDlqJobs, Client.listDlqJobs, Metered.erase_bind, erase_query]
  refine congrArg _ (funext fun jobs => ?_)
  rw [Metered.erase_bind, erase_report, Program.bind_done, Metered.erase_bind, erase_query]
  rfl

end MeteredClient

end Backfill
