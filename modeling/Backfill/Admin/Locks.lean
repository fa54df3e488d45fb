import Backfill.Client.Cleanup
import Backfill.Worker.Startup

/-!
# Manual lock cleanup (`admin.rs:1220`)

`POST /locks/cleanup` runs the startup cleanup on demand. It does not run the DLQ pre-move
that the startup of a worker runs before it.
-/

namespace Backfill

/-- `DEFAULT_QUEUE_LOCK_STALE_MINUTES`. -/
def defaultQueueLockStaleMinutes : UInt64 := 5

/-- `DEFAULT_JOB_LOCK_STALE_MINUTES`. -/
def defaultJobLockStaleMinutes : UInt64 := 30

/-- The body of `POST /locks/cleanup`. -/
structure LocksCleanupRequest where
  queueLockThresholdMinutes : Option UInt64
  jobLockThresholdMinutes : Option UInt64
  dryRun : Option Bool

structure LocksCleanupResponse where
  queueLocksReleased : Nat
  jobLocksReleased : Nat
  failedJobsDeleted : Nat
  dryRun : Bool
deriving DecidableEq

/-- A status code with the message and the code of its `ErrorResponse`. -/
structure AdminError where
  status : Nat
  error : String
  code : String
deriving DecidableEq

/-- A handler of the admin API: the statements are the client's, the errors are responses. -/
abbrev Handler (α : Type) : Type := Program Statement Statement.Reply AdminError α

/-- `Duration::from_secs(minutes * 60)`; a release build multiplies modulo `2 ^ 64`. -/
def minutesDuration (minutes : UInt64) : Duration := .fromSecs (minutes * 60)

namespace LocksCleanupRequest

def queueLockTimeout (req : LocksCleanupRequest) : Duration :=
  minutesDuration (req.queueLockThresholdMinutes.getD defaultQueueLockStaleMinutes)

def jobLockTimeout (req : LocksCleanupRequest) : Duration :=
  minutesDuration (req.jobLockThresholdMinutes.getD defaultJobLockStaleMinutes)

end LocksCleanupRequest

namespace Handler

/-- A count for a dry run, its error mapped to a response. -/
def count (s : Statement) : Handler s.Rows :=
  .call s fun
    | .ok n => .done n
    | .error e => .fail ⟨500, "Query failed: " ++ e.display, "QUERY_ERROR"⟩

/-- `locks_cleanup` (`admin.rs:1220`). A dry run interpolates the seconds it counts with, the
real run binds them as `i64`. -/
def locksCleanup (req : LocksCleanupRequest) : Handler LocksCleanupResponse := do
  let dryRun := req.dryRun.getD false
  if dryRun then
    let queueCount : Nat ← count (.countStaleQueueLocks req.queueLockTimeout.asSecs)
    let jobCount : Nat ← count (.countStaleJobLocks req.jobLockTimeout.asSecs)
    let failedCount : Nat ← count .countFailedJobs
    pure ⟨queueCount, jobCount, failedCount, true⟩
  else
    let (queueReleased, jobReleased, failedDeleted) ←
      (Client.startupCleanupWithTimeouts req.queueLockTimeout req.jobLockTimeout).mapError fun e =>
        ⟨500, "Cleanup failed: " ++ e.display, "CLEANUP_FAILED"⟩
    pure ⟨queueReleased, jobReleased, failedDeleted, false⟩

end Handler

namespace Session

/-- A real run leaves the database the startup cleanup leaves. -/
theorem run_locksCleanup {session : Session} {req : LocksCleanupRequest}
    (real : req.dryRun.getD false = false) :
    (session.run (Handler.locksCleanup req)).2 =
      (session.run (Client.startupCleanupWithTimeouts req.queueLockTimeout
        req.jobLockTimeout)).2 := by
  simp only [Handler.locksCleanup, real, Bool.false_eq_true, if_false, run]
  exact (Program.run_bind_done exec _ _ session).trans
    (congrArg Prod.snd (Program.run_mapError exec _ _ session))

/-- Every exhausted job that is in the queue of `before` and not in that of `after` was
recorded before. -/
def RemovesOnlyRecorded (before after : Database) : Prop :=
  ∀ row ∈ before.jobs.rows, row.failed = true → (∀ r ∈ after.jobs.rows, r.id ≠ row.id) →
    before.Recorded row.id

/-- A manual cleanup deletes no unrecorded job exactly when one of its statements is refused
or every exhausted job without a lock, or with one that is stale by the thresholds of the
request, has been recorded already. -/
theorem locksCleanup_removesOnlyRecorded_iff (session : Session) {req : LocksCleanupRequest}
    (real : req.dryRun.getD false = false) :
    RemovesOnlyRecorded session.db (session.run (Handler.locksCleanup req)).2.db ↔
      (session.AcceptsCleanup req.queueLockTimeout req.jobLockTimeout →
        ∀ row ∈ session.db.jobs.rows, row.failed = true →
          row.Doomed (session.jobLockCutoff req.jobLockTimeout) →
            session.db.Recorded row.id) := by
  rw [run_locksCleanup real]
  have gone_iff : ∀ row ∈ session.db.jobs.rows,
      (∀ r ∈ (session.run (Client.startupCleanupWithTimeouts req.queueLockTimeout
        req.jobLockTimeout)).2.db.jobs.rows, r.id ≠ row.id) ↔
      session.AcceptsCleanup req.queueLockTimeout req.jobLockTimeout ∧
        row.Doomed (session.jobLockCutoff req.jobLockTimeout) := by
    intro row member
    have kept := kept_startupCleanup_iff session req.queueLockTimeout req.jobLockTimeout member
    rw [← not_iff_not, ← kept]
    simp
  constructor
  · intro recorded accepts row member failed doomed
    exact recorded row member failed ((gone_iff row member).mpr ⟨accepts, doomed⟩)
  · intro covered row member failed gone
    obtain ⟨accepts, doomed⟩ := (gone_iff row member).mp gone
    exact covered accepts row member failed doomed

/-- A request without a body of its own: default thresholds, no dry run. -/
def defaultLocksCleanup : LocksCleanupRequest := ⟨none, none, none⟩

/-- An exhausted job whose record is in the DLQ already. -/
def recordedJob : Database :=
  { exhaustedJobs 1 with
    dlq := .ok ((exhaustedJobs 1).findFailedJobs.foldl
      (fun table job => job.toInsert.upsertInto table 0) .empty) }

/-- The cleanup deletes the recorded job, and that is all it deletes. -/
theorem locksCleanup_removesOnlyRecorded_recordedJob :
    RemovesOnlyRecorded recordedJob
      ((undisturbed 0 recordedJob).run (Handler.locksCleanup defaultLocksCleanup)).2.db :=
  (locksCleanup_removesOnlyRecorded_iff (undisturbed 0 recordedJob) rfl).mpr
    fun _ => by decide

/-- The cleanup of a queue with one exhausted job deletes it unrecorded. -/
theorem locksCleanup_deletes_unrecorded :
    (exhaustedJobs 1).dlq.isOk = true ∧ defaultLocksCleanup.dryRun.getD false = false ∧
      ¬ RemovesOnlyRecorded (exhaustedJobs 1)
        ((undisturbed 0 (exhaustedJobs 1)).run
          (Handler.locksCleanup defaultLocksCleanup)).2.db := by
  refine ⟨rfl, rfl, fun recorded => ?_⟩
  exact absurd (recorded (exhaustedJob 1) (.head _) rfl (by decide)) (by decide)

end Session

end Backfill
