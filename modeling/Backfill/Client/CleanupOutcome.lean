import Backfill.Client.Cleanup
import Backfill.Client.Dlq
import Mathlib.Data.List.Perm.Basic

/-!
# What a startup cleanup leaves

The delete of a cleanup looks at the rows as the release before it has left them, so a job whose
worker died in its last attempt goes with its stale lock. What has been done when a statement is
refused stays done.
-/

namespace Backfill

/-- The lock was taken more than `timeout` ago. -/
def olderThan (now : Timestamp) (timeout : Duration) (lockedAt : Option Timestamp) : Bool :=
  lockedAt.any fun taken => decide (timeout.asMicros < now - taken)

/-- Of a timeout in whole seconds that an `i64` can hold, the bound seconds are the timeout. -/
theorem lockedBefore_lockCutoff {now : Timestamp} {timeout : Duration}
    {lockedAt : Option Timestamp} (whole : timeout.nanos = 0) (fits : timeout.secs < 2 ^ 63) :
    lockedBefore (lockCutoff now (asI64 timeout.asSecs)) lockedAt =
      olderThan now timeout lockedAt := by
  cases lockedAt with
  | none => simp only [lockedBefore, olderThan, Option.any_none]
  | some taken =>
      have micros : timeout.asMicros = timeout.secs * 1000000 := by
        simp [Duration.asMicros, whole]
      rw [Duration.asSecs, asI64_of_lt fits]
      simp only [lockedBefore, olderThan, Option.any_some, micros, decide_eq_decide]
      exact lt_lockCutoff_iff

namespace Session

/-- What a cleanup that is answered throughout leaves, and returns as `counts`. -/
structure CleanupOutcome (session : Session) (queueLockTimeout jobLockTimeout : Duration)
    (after : Database) (counts : Nat × Nat × Nat) : Prop where
  /-- no lock is older than its timeout when it is looked at -/
  queueLocks : ∀ queue ∈ after.jobQueues.rows,
    olderThan (session.upcoming 0).now queueLockTimeout queue.lockedAt = false
  jobLocks : ∀ row ∈ after.jobs.rows,
    olderThan (session.upcoming 1).now jobLockTimeout row.lockedAt = false
  /-- a job that is left has an attempt left, or is being executed -/
  remaining : ∀ row ∈ after.jobs.rows, row.attempts < row.maxAttempts ∨
    ∃ taken : Int, row.lockedAt = some taken ∧
      (session.upcoming 1).now - taken ≤ jobLockTimeout.asMicros
  /-- a job with an attempt left is not deleted -/
  kept : ∀ row ∈ session.db.jobs.rows, row.attempts < row.maxAttempts →
    ∃ r ∈ after.jobs.rows, r.id = row.id
  /-- a row that is left is as it was, or has lost a stale lock -/
  jobs : ∀ r ∈ after.jobs.rows, ∃ row ∈ session.db.jobs.rows, r = row ∨
    (olderThan (session.upcoming 1).now jobLockTimeout row.lockedAt = true ∧
      r = { row with lockedAt := none, lockedBy := none })
  jobQueues : ∀ q ∈ after.jobQueues.rows, ∃ queue ∈ session.db.jobQueues.rows, q = queue ∨
    (olderThan (session.upcoming 0).now queueLockTimeout queue.lockedAt = true ∧
      q = { queue with lockedAt := none, lockedBy := none })
  /-- no queue is lost -/
  queues : after.jobQueues.rows.map JobQueueRow.id = session.db.jobQueues.rows.map JobQueueRow.id
  tasks : after.tasks = session.db.tasks
  dlq : after.dlq = session.db.dlq
  /-- the counts are the locks released and the rows deleted -/
  queuesReleased : counts.1 = (session.db.jobQueues.rows.filter fun queue =>
    olderThan (session.upcoming 0).now queueLockTimeout queue.lockedAt).length
  jobsReleased : counts.2.1 = (session.db.jobs.rows.filter fun row =>
    olderThan (session.upcoming 1).now jobLockTimeout row.lockedAt).length
  deleted : after.jobs.rows.length + counts.2.2 = session.db.jobs.rows.length

/-- How a cleanup can end: the statements it has sent, what it returns and what it leaves. -/
inductive CleanupRun (session : Session) (queueLockTimeout jobLockTimeout : Duration) :
    List Statement → Except BackfillError (Nat × Nat × Nat) → Database → Prop
  | queueLocksRefused (error : ForeignError)
      (refused : (session.upcoming 0).fault
        (.releaseQueueLocks (asI64 queueLockTimeout.asSecs)) = some error) :
      CleanupRun session queueLockTimeout jobLockTimeout
        [.releaseQueueLocks (asI64 queueLockTimeout.asSecs)]
        (.error (.sqlxError error)) session.db
  | jobLocksRefused (error : ForeignError)
      (refused : (session.upcoming 1).fault
        (.releaseJobLocks (asI64 jobLockTimeout.asSecs)) = some error) :
      CleanupRun session queueLockTimeout jobLockTimeout
        [.releaseQueueLocks (asI64 queueLockTimeout.asSecs),
          .releaseJobLocks (asI64 jobLockTimeout.asSecs)]
        (.error (.sqlxError error))
        (session.db.releasedQueues (session.queueLockCutoff queueLockTimeout))
  | deleteRefused (error : ForeignError)
      (refused : (session.upcoming 2).fault .deleteFailedJobs = some error) :
      CleanupRun session queueLockTimeout jobLockTimeout
        [.releaseQueueLocks (asI64 queueLockTimeout.asSecs),
          .releaseJobLocks (asI64 jobLockTimeout.asSecs), .deleteFailedJobs]
        (.error (.sqlxError error))
        ((session.db.releasedQueues (session.queueLockCutoff queueLockTimeout)).releasedJobs
          (session.jobLockCutoff jobLockTimeout))
  | finished (after : Database) (counts : Nat × Nat × Nat) (lookups : List Statement)
      (outcome : session.CleanupOutcome queueLockTimeout jobLockTimeout after counts)
      (last : ∀ s ∈ lookups, s = .dlqRelation) :
      CleanupRun session queueLockTimeout jobLockTimeout
        (.releaseQueueLocks (asI64 queueLockTimeout.asSecs) ::
          .releaseJobLocks (asI64 jobLockTimeout.asSecs) :: .deleteFailedJobs :: lookups)
        (.ok counts) after

variable {session : Session} {queueLockTimeout jobLockTimeout : Duration}

/-- The delete and the lookup that may follow it. -/
theorem run_cleanup_answered {α : Type} {f : Nat → α}
    (accepted : session.Accepts 0 .deleteFailedJobs) :
    ∃ lookups, (∀ s ∈ lookups, s = .dlqRelation) ∧
      session.sent (Client.cleanupPermanentlyFailedJobs >>= fun n => pure (f n)) =
        .deleteFailedJobs :: lookups ∧
      (session.run (Client.cleanupPermanentlyFailedJobs >>= fun n => pure (f n))).1 =
        .ok (f session.db.abandonedJobs.length) ∧
      (session.run (Client.cleanupPermanentlyFailedJobs >>= fun n => pure (f n))).2.db =
        session.db.withoutAbandoned := by
  rw [Client.cleanupPermanentlyFailedJobs, Program.bind_assoc, run_query accepted rfl,
    sent_query accepted rfl]
  split
  · refine ⟨[.dlqRelation], by simp, rfl, rfl, ?_⟩
    simp only [Program.bind_call, Program.bind_done, Program.pure_eq, run_call_ignored, exec,
      Statement.answer]
    split <;> rfl
  · exact ⟨[], by simp, rfl, rfl, rfl⟩

/-- What the three statements of a cleanup leave and count. -/
theorem cleanupOutcome (session : Session) (wholeQueue : queueLockTimeout.nanos = 0)
    (fitsQueue : queueLockTimeout.secs < 2 ^ 63) (wholeJob : jobLockTimeout.nanos = 0)
    (fitsJob : jobLockTimeout.secs < 2 ^ 63) :
    CleanupOutcome session queueLockTimeout jobLockTimeout
      ((session.db.releasedQueues (session.queueLockCutoff queueLockTimeout)).releasedJobs
        (session.jobLockCutoff jobLockTimeout)).withoutAbandoned
      ((session.db.staleQueues (session.queueLockCutoff queueLockTimeout)).length,
        (session.db.staleJobs (session.jobLockCutoff jobLockTimeout)).length,
        ((session.db.releasedQueues (session.queueLockCutoff queueLockTimeout)).releasedJobs
          (session.jobLockCutoff jobLockTimeout)).abandonedJobs.length) := by
  have staleQueue : ∀ lockedAt, lockedBefore (session.queueLockCutoff queueLockTimeout) lockedAt =
      olderThan (session.upcoming 0).now queueLockTimeout lockedAt := fun _ =>
    lockedBefore_lockCutoff wholeQueue fitsQueue
  have staleJob : ∀ lockedAt, lockedBefore (session.jobLockCutoff jobLockTimeout) lockedAt =
      olderThan (session.upcoming 1).now jobLockTimeout lockedAt := fun _ =>
    lockedBefore_lockCutoff wholeJob fitsJob
  set queueCutoff := session.queueLockCutoff queueLockTimeout
  set jobCutoff := session.jobLockCutoff jobLockTimeout
  have queueRows : ∀ q, q ∈ (session.db.releasedQueues queueCutoff).jobQueues.rows ↔
      ∃ queue ∈ session.db.jobQueues.rows, q =
        if lockedBefore queueCutoff queue.lockedAt then JobQueueRow.unlock.apply queue else queue :=
    fun q => SerialTable.mem_update
  have jobRows : ∀ r, r ∈ ((session.db.releasedQueues queueCutoff).releasedJobs
      jobCutoff).withoutAbandoned.jobs.rows ↔ ∃ row ∈ session.db.jobs.rows,
        ¬ row.Doomed jobCutoff ∧
          r = if lockedBefore jobCutoff row.lockedAt then JobRow.unlock.apply row else row :=
    fun r => Database.mem_withoutAbandoned
  refine
    { queueLocks := fun q member => ?_
      jobLocks := fun r member => ?_
      remaining := fun r member => ?_
      kept := fun row member live => ?_
      jobs := fun r member => ?_
      jobQueues := fun q member => ?_
      queues := ?_
      tasks := rfl
      dlq := rfl
      queuesReleased := ?_
      jobsReleased := ?_
      deleted := ?_ }
  · obtain ⟨queue, -, rfl⟩ := (queueRows q).mp member
    rw [← staleQueue]
    split
    next => rfl
    next fresh => exact Bool.eq_false_iff.mpr fresh
  · obtain ⟨row, -, -, rfl⟩ := (jobRows r).mp member
    rw [← staleJob]
    split
    next => rfl
    next fresh => exact Bool.eq_false_iff.mpr fresh
  · obtain ⟨row, -, safe, rfl⟩ := (jobRows r).mp member
    by_cases live : row.attempts < row.maxAttempts
    · left
      split <;> exact live
    · right
      have spent : row.exhausted = true := JobRow.exhausted_iff.mpr (not_lt.mp live)
      have fresh : ¬ lockedBefore jobCutoff row.lockedAt = true := fun stale =>
        safe ⟨spent, .inr stale⟩
      obtain ⟨taken, held⟩ := Option.ne_none_iff_exists'.mp fun unlocked =>
        safe ⟨spent, .inl unlocked⟩
      rw [if_neg fresh]
      rw [staleJob, held, olderThan, Option.any_some, decide_eq_true_eq, not_lt] at fresh
      exact ⟨taken, held, fresh⟩
  · refine (@Database.kept_withoutAbandoned_iff (session.db.releasedQueues queueCutoff) jobCutoff
      row member).mpr fun doomed => ?_
    have spent := JobRow.exhausted_iff.mp doomed.1
    omega
  · obtain ⟨row, rowMember, -, rfl⟩ := (jobRows r).mp member
    refine ⟨row, rowMember, ?_⟩
    rw [← staleJob]
    split
    · exact .inr ⟨‹_›, rfl⟩
    · exact .inl rfl
  · obtain ⟨queue, queueMember, rfl⟩ := (queueRows q).mp member
    refine ⟨queue, queueMember, ?_⟩
    rw [← staleQueue]
    split
    · exact .inr ⟨‹_›, rfl⟩
    · exact .inl rfl
  · exact session.db.jobQueues.map_id_update
  · simp only [Database.staleQueues, staleQueue]
  · simp only [Database.staleJobs, staleJob]
  · have split := List.length_eq_length_filter_add (fun row => row.exhausted && row.lockedAt.isNone)
      (l := ((session.db.releasedQueues queueCutoff).releasedJobs jobCutoff).jobs.rows)
    have rows : ((session.db.releasedQueues queueCutoff).releasedJobs
        jobCutoff).jobs.rows.length = session.db.jobs.rows.length := List.length_map ..
    simp only [Database.withoutAbandoned, SerialTable.delete, Database.abandonedJobs]
    omega

/-- A cleanup without a concurrent writer runs its statements in order, up to the first that is
refused; with whole-second timeouts that fit their parameter it leaves no stale lock and no
abandoned job. -/
theorem startupCleanup_run (session : Session) (wholeQueue : queueLockTimeout.nanos = 0)
    (fitsQueue : queueLockTimeout.secs < 2 ^ 63) (wholeJob : jobLockTimeout.nanos = 0)
    (fitsJob : jobLockTimeout.secs < 2 ^ 63) :
    CleanupRun session queueLockTimeout jobLockTimeout
      (session.sent (Client.startupCleanupWithTimeouts queueLockTimeout jobLockTimeout))
      (session.run (Client.startupCleanupWithTimeouts queueLockTimeout jobLockTimeout)).1
      (session.run (Client.startupCleanupWithTimeouts queueLockTimeout jobLockTimeout)).2.db := by
  rw [Client.startupCleanupWithTimeouts]
  cases f0 : (session.upcoming 0).fault (.releaseQueueLocks (asI64 queueLockTimeout.asSecs)) with
  | some error =>
      rw [Client.releaseStaleQueueLocks, run_query_refused f0, sent_query_refused f0]
      exact .queueLocksRefused error f0
  | none =>
      rw [Client.releaseStaleQueueLocks, run_query f0 rfl, sent_query f0 rfl]
      set session₁ := session.after 1 _
      cases f1 : (session.upcoming 1).fault (.releaseJobLocks (asI64 jobLockTimeout.asSecs)) with
      | some error =>
          have refused : (session₁.upcoming 0).fault
            (.releaseJobLocks (asI64 jobLockTimeout.asSecs)) = some error := f1
          rw [Client.releaseStaleJobLocks, run_query_refused refused, sent_query_refused refused]
          exact .jobLocksRefused error f1
      | none =>
          have accepted : session₁.Accepts 0
            (.releaseJobLocks (asI64 jobLockTimeout.asSecs)) := f1
          rw [Client.releaseStaleJobLocks, run_query accepted rfl, sent_query accepted rfl]
          set session₂ := session₁.after 1 _
          cases f2 : (session.upcoming 2).fault .deleteFailedJobs with
          | some error =>
              have refused : (session₂.upcoming 0).fault .deleteFailedJobs = some error := f2
              rw [Client.cleanupPermanentlyFailedJobs, Program.bind_assoc,
                run_query_refused refused, sent_query_refused refused]
              exact .deleteRefused error f2
          | none =>
              have accepted₂ : session₂.Accepts 0 .deleteFailedJobs := f2
              obtain ⟨lookups, last, sent, returned, left⟩ := run_cleanup_answered
                (f := fun n => ((session.db.staleQueues (session.queueLockCutoff
                  queueLockTimeout)).length, (session.db.staleJobs (session.jobLockCutoff
                    jobLockTimeout)).length, n)) accepted₂
              have finished := CleanupRun.finished _ _ lookups
                (session.cleanupOutcome wholeQueue fitsQueue wholeJob fitsJob) last
              rw [← sent] at finished
              exact returned.symm ▸ left.symm ▸ finished

/-- A job whose worker has died in its only attempt. -/
def crashedJob : Database :=
  let db := (Database.fresh.addJob 0 singleAttempt).2
  { db with jobs := db.jobs.update (fun _ => true) (JobRow.fetched "worker" 0) }

/-- An hour later the cleanup of a starting worker takes its lock and deletes it. -/
theorem startupCleanup_run_crashedJob :
    CleanupRun (undisturbed 3600000000 crashedJob) defaultStaleQueueLockTimeout
      defaultStaleJobLockTimeout
      ((undisturbed 3600000000 crashedJob).sent (Client.startupCleanupWithTimeouts
        defaultStaleQueueLockTimeout defaultStaleJobLockTimeout))
      ((undisturbed 3600000000 crashedJob).run (Client.startupCleanupWithTimeouts
        defaultStaleQueueLockTimeout defaultStaleJobLockTimeout)).1
      ((undisturbed 3600000000 crashedJob).run (Client.startupCleanupWithTimeouts
        defaultStaleQueueLockTimeout defaultStaleJobLockTimeout)).2.db :=
  startupCleanup_run _ rfl (by decide) rfl (by decide)

end Session

end Backfill
