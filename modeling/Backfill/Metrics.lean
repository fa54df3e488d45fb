import Backfill.JobSpec
import Backfill.Errors

/-!
# Metrics (`metrics.rs`)

What the library reports to whatever recorder is installed. A series is a metric under its labels.
The values of histograms are readings of a clock and are left out; a gauge is set to a number, or to
the time of the report.
-/

namespace Backfill

/-- `Queue::metric_label` (`lib.rs:282`). -/
def Queue.metricLabel : Queue → String
  | parallel => "parallel"
  | serial _ => "serial"

/-- A metric with the values of its labels. -/
structure Series where
  name : String
  labels : List (String × String)
deriving DecidableEq

/-- What a recorder is told. -/
inductive Metric
  /-- `counter!(..).increment(n)` -/
  | increment (series : Series) (n : Nat)
  /-- `gauge!(..).set(value)` -/
  | set (series : Series) (value : Int)
  /-- `gauge!(..).set(now)`, in seconds since the epoch -/
  | setNow (series : Series)
  /-- `histogram!(..).record(..)` -/
  | record (series : Series)

/-- `PriorityBand` (`metrics.rs:32`). -/
inductive PriorityBand
  | emergency
  | fastHigh
  | fastDefault
  | bulkDefault
  | bulkLow
  | bulkLowest
  | other
deriving DecidableEq

namespace PriorityBand

/-- `PriorityBand::from_priority`. -/
def fromPriority (priority : Int16) : PriorityBand :=
  if priority ≤ -20 then emergency
  else if priority ≤ -10 then fastHigh
  else if priority ≤ -1 then fastDefault
  else if priority = 0 then bulkDefault
  else if priority ≤ 5 then bulkLow
  else if priority ≤ 10 then bulkLowest
  else other

/-- `PriorityBand::as_str`. -/
def asStr : PriorityBand → String
  | emergency => "emergency"
  | fastHigh => "fast_high"
  | fastDefault => "fast_default"
  | bulkDefault => "bulk_default"
  | bulkLow => "bulk_low"
  | bulkLowest => "bulk_lowest"
  | other => "other"

end PriorityBand

/-- `queue_metric_label_from_name`: the label of the queue name a DLQ row stores. -/
def queueMetricLabelFromName (queueName : String) : String :=
  if queueName.isEmpty then "parallel" else "serial"

namespace Series

def jobsEnqueued (queue task : String) (priority : Int16) : Series :=
  ⟨"backfill_jobs_enqueued", [("queue", queue), ("task", task),
    ("priority_band", (PriorityBand.fromPriority priority).asStr)]⟩

def jobsAlreadyInProgress (queue task : String) : Series :=
  ⟨"backfill_jobs_already_in_progress", [("queue", queue), ("task", task)]⟩

def dlqJobsAdded (queue task reason : String) : Series :=
  ⟨"backfill_dlq_jobs_added", [("queue", queue), ("task", task), ("reason", reason)]⟩

def dlqJobsRequeued (task targetQueue : String) : Series :=
  ⟨"backfill_dlq_jobs_requeued", [("task", task), ("queue", targetQueue)]⟩

def dlqJobsDeleted (task : String) : Series := ⟨"backfill_dlq_jobs_deleted", [("task", task)]⟩

def dbOperations (operation status : String) : Series :=
  ⟨"backfill_db_operations", [("operation", operation), ("status", status)]⟩

def cleanupQueueLocksReleased : Series := ⟨"backfill_cleanup_queue_locks_released", []⟩

def cleanupJobLocksReleased : Series := ⟨"backfill_cleanup_job_locks_released", []⟩

def cleanupFailedJobsDeleted : Series := ⟨"backfill_cleanup_failed_jobs_deleted", []⟩

def cleanupFailures (operation errorType : String) : Series :=
  ⟨"backfill_cleanup_failures", [("operation", operation), ("error_type", errorType)]⟩

end Series

namespace Metric

def recordJobEnqueued (queue task : String) (priority : Int16) : Metric :=
  .increment (.jobsEnqueued queue task priority) 1

def recordJobAlreadyInProgress (queue task : String) : Metric :=
  .increment (.jobsAlreadyInProgress queue task) 1

def recordDlqJobAdded (queue task reason : String) : Metric :=
  .increment (.dlqJobsAdded queue task reason) 1

def recordDlqJobRequeued (task targetQueue : String) : Metric :=
  .increment (.dlqJobsRequeued task targetQueue) 1

def recordDlqJobDeleted (task : String) : Metric := .increment (.dlqJobsDeleted task) 1

def recordDlqAge (task : String) : Metric := .record ⟨"backfill_dlq_age_seconds", [("task", task)]⟩

def recordDbOperation (operation status : String) : Metric :=
  .increment (.dbOperations operation status) 1

def recordDbOperationDuration (operation : String) : Metric :=
  .record ⟨"backfill_db_operation_duration_seconds", [("operation", operation)]⟩

/-- `record_cleanup_queue_locks_released`: the gauge keeps the last count that was not zero. -/
def recordCleanupQueueLocksReleased (count : Nat) : List Metric :=
  .increment .cleanupQueueLocksReleased count ::
    if 0 < count then [.set ⟨"backfill_cleanup_queue_locks_last_released", []⟩ count] else []

def recordCleanupJobLocksReleased (count : Nat) : List Metric :=
  .increment .cleanupJobLocksReleased count ::
    if 0 < count then [.set ⟨"backfill_cleanup_job_locks_last_released", []⟩ count] else []

def recordCleanupFailedJobsDeleted (count : Nat) : Metric :=
  .increment .cleanupFailedJobsDeleted count

def recordCleanupFailure (operation errorType : String) : Metric :=
  .increment (.cleanupFailures operation errorType) 1

def updateCleanupHealthTimestamp : Metric :=
  .setNow ⟨"backfill_cleanup_last_success_timestamp", []⟩

end Metric

/-- The tests of `classify_error_for_metrics`, in their order, each with its label. -/
def metricsErrorTypes : List (List String × String) :=
  [(["timeout", "timed out"], "timeout"), (["network", "connection"], "network"),
    (["not found", "404"], "not_found"), (["unauthorized", "401"], "unauthorized"),
    (["forbidden", "403"], "forbidden"), (["validation", "invalid"], "validation"),
    (["rate limit", "429"], "rate_limit"), (["unavailable", "503"], "unavailable")]

/-- `classify_error_for_metrics` (`metrics.rs:228`). -/
def classifyErrorForMetrics (tables : CharTables) (error : String) : String :=
  let msg := tables.toLowercase error
  ((metricsErrorTypes.find? fun test => test.1.any (contains msg)).map Prod.snd).getD "unknown"

end Backfill
