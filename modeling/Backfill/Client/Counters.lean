import Backfill.Client.Metered

/-!
# What the counters stand at

Each statement of the client is worth some counts, read off its answer, and each routine reports
just these before it ends. Read off the database instead, the counts are the locks that have gone,
the rows that have gone, and the rows that have been written.
-/

namespace Backfill

open Metering

/-- A number of counts of one series. -/
def Series.counts (series : Series) (n : Int) : Series → Int := fun other =>
  if other = series then n else 0

theorem Series.counts_zero (series : Series) : series.counts 0 = 0 := by
  funext other
  simp [counts]

/-- The counters that are accounted for. Requeues and failures of a cleanup are counted by the
caller of the statement, whatever the statement is. -/
def accountedFor : List String :=
  ["backfill_cleanup_queue_locks_released", "backfill_cleanup_job_locks_released",
    "backfill_cleanup_failed_jobs_deleted", "backfill_dlq_jobs_deleted", "backfill_dlq_jobs_added",
    "backfill_jobs_enqueued", "backfill_jobs_already_in_progress", "backfill_db_operations"]

namespace Metric

/-- What a metric adds to the counters. -/
def worth : Metric → Series → Int
  | .increment series n => if series.name ∈ accountedFor then series.counts n else 0
  | _ => 0

variable (queue task reason operation status errorType : String) (priority : Int16)

@[simp] theorem worth_recordJobEnqueued :
    (recordJobEnqueued queue task priority).worth =
      (Series.jobsEnqueued queue task priority).counts 1 := rfl

@[simp] theorem worth_recordJobAlreadyInProgress :
    (recordJobAlreadyInProgress queue task).worth =
      (Series.jobsAlreadyInProgress queue task).counts 1 := rfl

@[simp] theorem worth_recordDlqJobAdded :
    (recordDlqJobAdded queue task reason).worth =
      (Series.dlqJobsAdded queue task reason).counts 1 := rfl

@[simp] theorem worth_recordDlqJobRequeued : (recordDlqJobRequeued task queue).worth = 0 := rfl

@[simp] theorem worth_recordDlqJobDeleted :
    (recordDlqJobDeleted task).worth = (Series.dlqJobsDeleted task).counts 1 := rfl

@[simp] theorem worth_recordDlqAge : (recordDlqAge task).worth = 0 := rfl

@[simp] theorem worth_recordDbOperation :
    (recordDbOperation operation status).worth =
      (Series.dbOperations operation status).counts 1 := rfl

@[simp] theorem worth_recordDbOperationDuration :
    (recordDbOperationDuration operation).worth = 0 := rfl

@[simp] theorem worth_recordCleanupFailedJobsDeleted (count : Nat) :
    (recordCleanupFailedJobsDeleted count).worth =
      Series.cleanupFailedJobsDeleted.counts count := rfl

@[simp] theorem worth_recordCleanupFailure :
    (recordCleanupFailure operation errorType).worth = 0 := rfl

@[simp] theorem worth_updateCleanupHealthTimestamp : updateCleanupHealthTimestamp.worth = 0 := rfl

/-- The gauge of the last release is worth nothing. -/
theorem sum_recordCleanupQueueLocksReleased (count : Nat) :
    ((recordCleanupQueueLocksReleased count).map worth).sum =
      Series.cleanupQueueLocksReleased.counts count := by
  unfold recordCleanupQueueLocksReleased
  split
  · exact add_zero _
  · exact add_zero _

theorem sum_recordCleanupJobLocksReleased (count : Nat) :
    ((recordCleanupJobLocksReleased count).map worth).sum =
      Series.cleanupJobLocksReleased.counts count := by
  unfold recordCleanupJobLocksReleased
  split
  · exact add_zero _
  · exact add_zero _

end Metric

namespace Statement

/-- The label of the queue a job is added to. -/
def queueLabel (spec : GraphileJobSpec) : String :=
  match spec.queueName with
  | none => "parallel"
  | some _ => "serial"

/-- What a refusal of `add_job` counts for. -/
def earnsRefused (identifier : String) (spec : GraphileJobSpec) (e : ForeignError) : Series → Int :=
  if spec.jobKey.isSome && isRowNotFound e then
    (Series.dbOperations "enqueue" "already_in_progress").counts 1 +
      (Series.jobsAlreadyInProgress (queueLabel spec) identifier).counts 1
  else
    (Series.dbOperations "enqueue" "error").counts 1

/-- What the answer of `add_job` counts for. -/
def earnsAdded (identifier : String) (spec : GraphileJobSpec) :
    Except ForeignError (Option Job) → Series → Int
  | .ok (some _) =>
      (Series.dbOperations "enqueue" "success").counts 1 +
        (Series.jobsEnqueued (queueLabel spec) identifier (spec.priority.getD 0)).counts 1
  | .ok none => earnsRefused identifier spec rowNotFound
  | .error e => earnsRefused identifier spec e

/-- What the row that is added to the DLQ counts for. -/
def earnsUpserted (row : DlqJob) : Series → Int :=
  (Series.dbOperations "dlq_add" "success").counts 1 +
    (Series.dlqJobsAdded (queueMetricLabelFromName row.queueName) row.taskIdentifier
      row.failureReason).counts 1

/-- What the answer of a statement counts for. -/
def earns : (s : Statement) → Reply s → Series → Int
  | releaseQueueLocks _, .ok n => Series.cleanupQueueLocksReleased.counts (n : Nat)
  | releaseJobLocks _, .ok n => Series.cleanupJobLocksReleased.counts (n : Nat)
  | deleteFailedJobs, .ok n => Series.cleanupFailedJobsDeleted.counts (n : Nat)
  | deleteDlqJob _, .ok (some task) => (Series.dlqJobsDeleted task).counts 1
  | deleteDlqByJobKey _, .ok n =>
      if 0 < (n : Nat) then (Series.dlqJobsDeleted "(by_job_key)").counts 1 else 0
  | upsertDlq _, .ok row => earnsUpserted row
  | addJob identifier _ spec, reply => earnsAdded identifier spec reply
  | _, _ => 0

end Statement

namespace MeteredClient

/-- The routine reports what its statements count for. -/
abbrev Settles {α : Type} (routine : MeteredClient α) : Prop :=
  Metered.Settles Statement.earns Metric.worth routine

/-- The routine has still to report `due`. -/
abbrev Owes {α : Type} (due : Series → Int) (routine : MeteredClient α) : Prop :=
  Metered.Owes Statement.earns Metric.worth due routine

/-- A report pays for the metrics in it. -/
theorem owes_report {α : Type} {due : Series → Int} {metrics : List Metric} {value : α}
    (pays : due = (metrics.map Metric.worth).sum) : Owes due (report metrics value) := by
  induction metrics generalizing due with
  | nil => exact pays
  | cons metric metrics ih =>
      have rest : due - metric.worth = (metrics.map Metric.worth).sum := by
        rw [pays, List.map_cons, List.sum_cons, add_sub_cancel_left]
      exact ih rest

/-- What follows a query reports what its answer counts for. -/
theorem settles_query_bind {α : Type} {s : Statement} {f : s.Rows → MeteredClient α}
    (refused : ∀ e, s.earns (.error e) = 0) (rest : ∀ rows, Owes (s.earns (.ok rows)) (f rows)) :
    Settles (query s >>= f) := by
  intro reply
  cases reply with
  | error e =>
      show (0 : Series → Int) + s.earns (.error e) = 0
      rw [refused, zero_add]
  | ok rows =>
      show Owes (0 + s.earns (.ok rows)) (f rows)
      rw [zero_add]
      exact rest rows

/-- A query and a report on its answer. -/
theorem settles_query_report {α : Type} {s : Statement} {metrics : s.Rows → List Metric}
    {value : s.Rows → α} (refused : ∀ e, s.earns (.error e) = 0)
    (pays : ∀ rows, s.earns (.ok rows) = ((metrics rows).map Metric.worth).sum) :
    Settles (query s >>= fun rows => report (metrics rows) (value rows)) :=
  settles_query_bind refused fun rows => owes_report (pays rows)

theorem settles_releaseStaleQueueLocks (timeout : Duration) :
    Settles (releaseStaleQueueLocks timeout) :=
  settles_query_report (fun _ => rfl) fun (released : Nat) =>
    (Metric.sum_recordCleanupQueueLocksReleased released).symm

theorem settles_releaseStaleJobLocks (timeout : Duration) :
    Settles (releaseStaleJobLocks timeout) :=
  settles_query_report (fun _ => rfl) fun (released : Nat) =>
    (Metric.sum_recordCleanupJobLocksReleased released).symm

theorem settles_cleanupPermanentlyFailedJobs : Settles cleanupPermanentlyFailedJobs := by
  refine settles_query_bind (fun e => rfl) fun (deleted : Nat) => ?_
  have counted : Statement.deleteFailedJobs.earns (.ok deleted) =
      (([Metric.recordCleanupFailedJobsDeleted deleted]).map Metric.worth).sum := by
    simp [Statement.earns]
  refine (owes_report counted).bind fun _ => ?_
  split
  · intro reply
    exact zero_add _
  · exact rfl

theorem settles_startupCleanupWithTimeouts (queueLockTimeout jobLockTimeout : Duration) :
    Settles (startupCleanupWithTimeouts queueLockTimeout jobLockTimeout) :=
  (settles_releaseStaleQueueLocks _).bind fun _ =>
    (settles_releaseStaleJobLocks _).bind fun _ =>
      settles_cleanupPermanentlyFailedJobs.bind fun _ => rfl

theorem settles_staleLockCleanupTick (tables : CharTables)
    (queueLockTimeout jobLockTimeout : Duration) :
    Settles (staleLockCleanupTick tables queueLockTimeout jobLockTimeout) := by
  have failure : ∀ operation result, Settles (reportFailure tables operation result) := by
    rintro operation (e | n)
    · exact owes_report (by simp)
    · exact rfl
  refine (settles_releaseStaleQueueLocks _).attempt.bind fun queueLocks => ?_
  refine (failure _ queueLocks).bind fun queueLocksReleased => ?_
  refine (settles_releaseStaleJobLocks _).attempt.bind fun jobLocks => ?_
  refine (failure _ jobLocks).bind fun jobLocksReleased => ?_
  split
  · exact owes_report (by simp)
  · exact rfl

theorem queueLabel_toGraphile (spec : JobSpec) :
    Statement.queueLabel spec.toGraphile = spec.queue.metricLabel := by
  unfold Statement.queueLabel JobSpec.toGraphile
  cases spec.queue <;> rfl

/-- The outcome of an enqueue pays for the refusal of `add_job`. -/
theorem owes_refused (taskIdentifier : String) (spec : JobSpec) (e : ForeignError) :
    Owes (Statement.earnsRefused taskIdentifier spec.toGraphile e)
      (enqueueOutcome taskIdentifier spec (.error e)) := by
  have failed : Owes ((Series.dbOperations "enqueue" "error").counts 1)
      (Metered.emit (Metric.recordDbOperation "enqueue" "error") (.fail (.graphileWorker e)) :
        MeteredClient EnqueueOutcome) := by
    show (Series.dbOperations "enqueue" "error").counts 1 - _ = 0
    rw [Metric.worth_recordDbOperation, sub_self]
  have keyed : spec.toGraphile.jobKey = spec.jobKey := rfl
  rw [Statement.earnsRefused, keyed, queueLabel_toGraphile]
  cases named : spec.jobKey with
  | none =>
      simp only [enqueueOutcome, named]
      exact failed
  | some key =>
      simp only [enqueueOutcome, named, Option.isSome_some, Bool.true_and]
      split
      · exact owes_report (by simp)
      · exact failed

theorem settles_enqueue (taskIdentifier : String) (payload : Json) (spec : JobSpec) :
    Settles (enqueue taskIdentifier payload spec) := by
  have outcome : ∀ due result, Owes due (enqueueOutcome taskIdentifier spec result) →
      Owes due (report [Metric.recordDbOperationDuration "enqueue"] () >>= fun _ =>
        enqueueOutcome taskIdentifier spec result) := fun due result owes =>
    Metered.Owes.emit_idle rfl owes
  have nothing : ∀ earned : Series → Int, 0 + earned = earned := fun earned => zero_add earned
  rintro (e | _ | job)
  · exact outcome _ (.error e) (nothing _ ▸ owes_refused taskIdentifier spec e)
  · exact outcome _ (.error rowNotFound) (nothing _ ▸ owes_refused taskIdentifier spec _)
  · refine outcome _ (.ok job) (owes_report ((nothing _).trans ?_))
    simp only [Statement.earns, Statement.earnsAdded, queueLabel_toGraphile]
    simp [JobSpec.toGraphile]

theorem settles_getDlqJob (dlqId : Int) : Settles (getDlqJob dlqId) := by
  refine settles_query_report (fun e => rfl) fun (found : Option DlqJob) => ?_
  cases found <;> rfl

theorem settles_requeueDlqJob (dlqId : Int) (notes : Option String) :
    Settles (requeueDlqJob dlqId notes) := by
  refine (settles_getDlqJob dlqId).bind fun found => ?_
  cases found with
  | none => exact rfl
  | some dlqJob =>
      refine (settles_enqueue _ _ _).bind fun outcome => ?_
      cases outcome with
      | alreadyInProgress jobKey => exact rfl
      | enqueued job =>
          exact Metered.Owes.emit_idle rfl fun reply => zero_add _

theorem settles_deleteDlqJob (dlqId : Int) : Settles (deleteDlqJob dlqId) := by
  refine settles_query_report (fun e => rfl) fun (taskIdentifier : Option String) => ?_
  cases taskIdentifier with
  | none => rfl
  | some task => simp [Statement.earns]

theorem settles_deleteDlqByJobKey (jobKey : String) : Settles (deleteDlqByJobKey jobKey) := by
  refine settles_query_report (fun e => rfl) fun (deleted : Nat) => ?_
  simp only [Statement.earns]
  split <;> simp

theorem settles_addToDlq (originalJob : Job) (failureReason : String) (lastError : Option Json) :
    Settles (addToDlq originalJob failureReason lastError) := by
  have name : Settles (queueNameFor originalJob.jobQueueId) := by
    cases originalJob.jobQueueId with
    | none => exact rfl
    | some queueId =>
        refine settles_query_bind (fun e => rfl) fun (queueName : Option String) => ?_
        exact rfl
  refine name.bind fun queueName => ?_
  refine settles_query_report (fun e => rfl) fun (row : DlqJob) => ?_
  simp [Statement.earns, Statement.earnsUpserted]

theorem settles_listDlqJobs (filter : DlqFilter) : Settles (listDlqJobs filter) := by
  refine settles_query_bind (fun e => rfl) fun (jobs : List DlqJob) => ?_
  have ages : ((jobs.map fun job => Metric.recordDlqAge job.taskIdentifier).map Metric.worth).sum =
      0 := by
    refine List.sum_eq_zero fun worth among => ?_
    obtain ⟨metric, member, rfl⟩ := List.mem_map.mp among
    obtain ⟨job, -, rfl⟩ := List.mem_map.mp member
    rfl
  refine Metered.Owes.bind (owes_report ages.symm) fun _ => ?_
  refine settles_query_bind (fun e => rfl) fun (total : Nat) => ?_
  exact rfl

end MeteredClient

end Backfill
