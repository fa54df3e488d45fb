import Backfill.Client.Session

/-!
# Stale locks and failed rows (`client/cleanup.rs`)
-/

namespace Backfill

/-- `DEFAULT_STALE_QUEUE_LOCK_TIMEOUT`: 5 minutes. -/
def defaultStaleQueueLockTimeout : Duration := .fromSecs 300

/-- `DEFAULT_STALE_JOB_LOCK_TIMEOUT`: 30 minutes. -/
def defaultStaleJobLockTimeout : Duration := .fromSecs 1800

/-- `DEFAULT_STALE_LOCK_CLEANUP_INTERVAL`: 1 minute. -/
def defaultStaleLockCleanupInterval : Duration := .fromSecs 60

namespace Client

/-- `BackfillClient::release_stale_queue_locks` (`cleanup.rs:57`). -/
def releaseStaleQueueLocks (timeout : Duration) : Client Nat :=
  query (.releaseQueueLocks (asI64 timeout.asSecs))

/-- `BackfillClient::release_stale_job_locks` (`cleanup.rs:104`). -/
def releaseStaleJobLocks (timeout : Duration) : Client Nat :=
  query (.releaseJobLocks (asI64 timeout.asSecs))

/-- `BackfillClient::cleanup_permanently_failed_jobs` (`cleanup.rs:165`). Whether the DLQ
exists only decides how loud the log line is, and a refused lookup counts as no. -/
def cleanupPermanentlyFailedJobs : Client Nat := do
  let deleted : Nat ← query .deleteFailedJobs
  if 0 < deleted then
    .call .dlqRelation fun _ => .done deleted
  else
    pure deleted

/-- `BackfillClient::startup_cleanup_with_timeouts` (`cleanup.rs:253`). -/
def startupCleanupWithTimeouts (queueLockTimeout jobLockTimeout : Duration) :
    Client (Nat × Nat × Nat) := do
  let queueLocksReleased ← releaseStaleQueueLocks queueLockTimeout
  let jobLocksReleased ← releaseStaleJobLocks jobLockTimeout
  let jobsDeleted ← cleanupPermanentlyFailedJobs
  pure (queueLocksReleased, jobLocksReleased, jobsDeleted)

/-- The statements of a startup cleanup. -/
theorem calls_startupCleanupWithTimeouts {I : Statement → Prop}
    {queueLockTimeout jobLockTimeout : Duration}
    (queues : I (.releaseQueueLocks (asI64 queueLockTimeout.asSecs)))
    (jobs : I (.releaseJobLocks (asI64 jobLockTimeout.asSecs))) (deletes : I .deleteFailedJobs)
    (relation : I .dlqRelation) :
    (startupCleanupWithTimeouts queueLockTimeout jobLockTimeout).Calls I := by
  refine (calls_query queues).bind fun _ => (calls_query jobs).bind fun _ =>
    Program.Calls.bind ((calls_query deletes).bind fun deleted => ?_) fun _ => trivial
  split
  · exact ⟨relation, fun _ => trivial⟩
  · trivial

/-- One tick of the task `start_stale_lock_cleanup` spawns (`cleanup.rs:318`): the second
release runs whether or not the first was refused. -/
def staleLockCleanupTick (queueLockTimeout jobLockTimeout : Duration) : Client Unit := do
  let _ ← (releaseStaleQueueLocks queueLockTimeout).attempt
  let _ ← (releaseStaleJobLocks jobLockTimeout).attempt
  pure ()

end Client

namespace Session

/-- The first three statements to come, those of a cleanup, are not refused. -/
def AcceptsCleanup (session : Session) (queueLockTimeout jobLockTimeout : Duration) : Prop :=
  session.Accepts 0 (.releaseQueueLocks (asI64 queueLockTimeout.asSecs)) ∧
    session.Accepts 1 (.releaseJobLocks (asI64 jobLockTimeout.asSecs)) ∧
    session.Accepts 2 .deleteFailedJobs

/-- Queue locks taken before this moment are stale to the first statement of a cleanup. -/
def queueLockCutoff (session : Session) (queueLockTimeout : Duration) : Timestamp :=
  lockCutoff (session.upcoming 0).now (asI64 queueLockTimeout.asSecs)

/-- Job locks taken before this moment are stale to the second statement of a cleanup. -/
def jobLockCutoff (session : Session) (jobLockTimeout : Duration) : Timestamp :=
  lockCutoff (session.upcoming 1).now (asI64 jobLockTimeout.asSecs)

end Session

/-- A cleanup with this cutoff deletes the row: it is exhausted, and either unlocked or
about to be. -/
def JobRow.Doomed (row : JobRow) (cutoff : Timestamp) : Prop :=
  row.exhausted = true ∧ (row.lockedAt = none ∨ lockedBefore cutoff row.lockedAt = true)

instance (row : JobRow) (cutoff : Timestamp) : Decidable (row.Doomed cutoff) :=
  inferInstanceAs (Decidable (_ ∧ _))

namespace Database

/-- The queue locks taken before `cutoff` are released. -/
def releasedQueues (db : Database) (cutoff : Timestamp) : Database :=
  { db with
    jobQueues := db.jobQueues.update (fun row => lockedBefore cutoff row.lockedAt)
      JobQueueRow.unlock }

/-- The job locks taken before `cutoff` are released. -/
def releasedJobs (db : Database) (cutoff : Timestamp) : Database :=
  { db with
    jobs := db.jobs.update (fun row => lockedBefore cutoff row.lockedAt) JobRow.unlock }

/-- The exhausted unlocked rows are deleted. -/
def withoutAbandoned (db : Database) : Database :=
  { db with jobs := db.jobs.delete fun row => row.exhausted && row.lockedAt.isNone }

/-- The rows a cleanup leaves: those that are not doomed, without their locks where these were
stale. -/
theorem mem_withoutAbandoned {db : Database} {cutoff : Timestamp} {r : JobRow} :
    r ∈ (db.releasedJobs cutoff).withoutAbandoned.jobs.rows ↔
      ∃ old ∈ db.jobs.rows, ¬ old.Doomed cutoff ∧
        r = if lockedBefore cutoff old.lockedAt then JobRow.unlock.apply old else old := by
  simp only [withoutAbandoned, releasedJobs, SerialTable.mem_delete, SerialTable.mem_update]
  constructor
  · rintro ⟨⟨old, oldMember, rfl⟩, kept⟩
    refine ⟨old, oldMember, ?_, rfl⟩
    rintro ⟨spent, unlocked | stale⟩
    · simp [unlocked, lockedBefore, spent] at kept
    · simp [stale, JobRow.unlock, JobRow.exhausted] at kept spent
      omega
  · rintro ⟨old, oldMember, safe, rfl⟩
    refine ⟨⟨old, oldMember, rfl⟩, ?_⟩
    by_cases stale : lockedBefore cutoff old.lockedAt = true
    · have live : old.exhausted = false := by
        rw [Bool.eq_false_iff]
        exact fun spent => safe ⟨spent, .inr stale⟩
      simpa [stale, JobRow.unlock, JobRow.exhausted] using live
    · by_cases spent : old.exhausted = true
      · have held : old.lockedAt ≠ none := fun unlocked => safe ⟨spent, .inl unlocked⟩
        simp [stale, Option.isSome_iff_ne_none, held]
      · simp [stale, spent]

/-- A row survives a cleanup exactly when it is not doomed. -/
theorem kept_withoutAbandoned_iff {db : Database} {cutoff : Timestamp} {row : JobRow}
    (member : row ∈ db.jobs.rows) :
    (∃ r ∈ (db.releasedJobs cutoff).withoutAbandoned.jobs.rows, r.id = row.id) ↔
      ¬ row.Doomed cutoff := by
  constructor
  · rintro ⟨r, kept, same⟩
    obtain ⟨old, oldMember, safe, rfl⟩ := mem_withoutAbandoned.mp kept
    have key : old.id = row.id := by
      split at same <;> exact same
    rwa [← db.jobs.eq_of_id_eq oldMember member key]
  · intro safe
    refine ⟨_, mem_withoutAbandoned.mpr ⟨row, member, safe, rfl⟩, ?_⟩
    split <;> rfl

end Database

namespace Session

/-- The delete, with or without the lookup that follows it. -/
theorem run_cleanupPermanentlyFailedJobs {session : Session} {α : Type} {f : Nat → Client α}
    (accepted : session.Accepts 0 .deleteFailedJobs) (returns : ∀ n, ∃ value, f n = .done value) :
    (session.run (Client.cleanupPermanentlyFailedJobs >>= f)).2.db =
      { session.db with
        jobs := session.db.jobs.delete fun row => row.exhausted && row.lockedAt.isNone } := by
  obtain ⟨value, silent⟩ := returns session.db.abandonedJobs.length
  rw [Client.cleanupPermanentlyFailedJobs, Program.bind_assoc, run_query accepted rfl]
  dsimp only
  split
  · simp only [Program.bind_call, Program.bind_done, silent, run_call_ignored, exec,
      Statement.answer]
    split <;> rfl
  · rw [Program.pure_eq, Program.bind_done, silent]
    rfl

/-- A refused delete ends the cleanup. -/
theorem run_cleanupPermanentlyFailedJobs_refused {session : Session} {α : Type}
    {f : Nat → Client α} {error : ForeignError}
    (refused : (session.upcoming 0).fault .deleteFailedJobs = some error) :
    (session.run (Client.cleanupPermanentlyFailedJobs >>= f)).2.db = session.db := by
  rw [Client.cleanupPermanentlyFailedJobs, Program.bind_assoc, run_query_refused refused]
  rfl

/-- The database a cleanup leaves, for every way its statements may be refused: each
statement that runs has its effect, and the first that is refused is the last. -/
theorem run_startupCleanup_db (session : Session) (queueLockTimeout jobLockTimeout : Duration) :
    (session.run (Client.startupCleanupWithTimeouts queueLockTimeout jobLockTimeout)).2.db =
      match (session.upcoming 0).fault (.releaseQueueLocks (asI64 queueLockTimeout.asSecs)),
        (session.upcoming 1).fault (.releaseJobLocks (asI64 jobLockTimeout.asSecs)),
        (session.upcoming 2).fault .deleteFailedJobs with
      | some _, _, _ => session.db
      | none, some _, _ => session.db.releasedQueues (session.queueLockCutoff queueLockTimeout)
      | none, none, some _ =>
          (session.db.releasedQueues (session.queueLockCutoff queueLockTimeout)).releasedJobs
            (session.jobLockCutoff jobLockTimeout)
      | none, none, none =>
          ((session.db.releasedQueues (session.queueLockCutoff queueLockTimeout)).releasedJobs
            (session.jobLockCutoff jobLockTimeout)).withoutAbandoned := by
  rw [Client.startupCleanupWithTimeouts]
  cases f0 : (session.upcoming 0).fault (.releaseQueueLocks (asI64 queueLockTimeout.asSecs)) with
  | some error =>
      rw [Client.releaseStaleQueueLocks, run_query_refused f0]
      rfl
  | none =>
      rw [Client.releaseStaleQueueLocks, run_query f0 rfl]
      set session₁ := session.after 1 _
      cases f1 : (session.upcoming 1).fault (.releaseJobLocks (asI64 jobLockTimeout.asSecs)) with
      | some error =>
          have refused : (session₁.upcoming 0).fault
            (.releaseJobLocks (asI64 jobLockTimeout.asSecs)) = some error := f1
          rw [Client.releaseStaleJobLocks, run_query_refused refused]
          rfl
      | none =>
          have accepted : session₁.Accepts 0
            (.releaseJobLocks (asI64 jobLockTimeout.asSecs)) := f1
          rw [Client.releaseStaleJobLocks, run_query accepted rfl]
          set session₂ := session₁.after 1 _
          cases f2 : (session.upcoming 2).fault .deleteFailedJobs with
          | some error =>
              have refused : (session₂.upcoming 0).fault .deleteFailedJobs = some error := f2
              rw [run_cleanupPermanentlyFailedJobs_refused refused]
              rfl
          | none =>
              have accepted : session₂.Accepts 0 .deleteFailedJobs := f2
              exact (run_cleanupPermanentlyFailedJobs accepted fun _ => ⟨_, rfl⟩).trans rfl

/-- A row is still there after a cleanup unless it was doomed and all three statements
ran. -/
theorem kept_startupCleanup_iff (session : Session) (queueLockTimeout jobLockTimeout : Duration)
    {row : JobRow} (member : row ∈ session.db.jobs.rows) :
    (∃ r ∈ (session.run (Client.startupCleanupWithTimeouts queueLockTimeout
        jobLockTimeout)).2.db.jobs.rows, r.id = row.id) ↔
      ¬ (session.AcceptsCleanup queueLockTimeout jobLockTimeout ∧
        row.Doomed (session.jobLockCutoff jobLockTimeout)) := by
  rw [run_startupCleanup_db]
  split
  next error refused =>
    have early : ¬ session.AcceptsCleanup queueLockTimeout jobLockTimeout := by
      rintro ⟨accepted, -⟩
      exact Option.some_ne_none _ (refused.symm.trans accepted)
    exact ⟨fun _ both => early both.1, fun _ => ⟨row, member, rfl⟩⟩
  next error _ refused =>
    have early : ¬ session.AcceptsCleanup queueLockTimeout jobLockTimeout := by
      rintro ⟨-, accepted, -⟩
      exact Option.some_ne_none _ (refused.symm.trans accepted)
    exact ⟨fun _ both => early both.1, fun _ => ⟨row, member, rfl⟩⟩
  next error _ _ refused =>
    have early : ¬ session.AcceptsCleanup queueLockTimeout jobLockTimeout := by
      rintro ⟨-, -, accepted⟩
      exact Option.some_ne_none _ (refused.symm.trans accepted)
    exact ⟨fun _ both => early both.1, fun _ => SerialTable.kept_update member⟩
  next f0 f1 f2 =>
    have all : session.AcceptsCleanup queueLockTimeout jobLockTimeout := ⟨f0, f1, f2⟩
    exact (Database.kept_withoutAbandoned_iff member).trans (by simp only [all, true_and])

/-- A cleanup adds no row. -/
theorem exists_of_mem_startupCleanup {session : Session} {queueLockTimeout jobLockTimeout : Duration}
    {r : JobRow} (left : r ∈ (session.run (Client.startupCleanupWithTimeouts queueLockTimeout
      jobLockTimeout)).2.db.jobs.rows) : ∃ old ∈ session.db.jobs.rows, r.id = old.id := by
  rw [run_startupCleanup_db] at left
  split at left
  · exact ⟨r, left, rfl⟩
  · exact ⟨r, left, rfl⟩
  · obtain ⟨old, member, rfl⟩ := SerialTable.mem_update.mp left
    refine ⟨old, member, ?_⟩
    split <;> rfl
  · obtain ⟨old, member, -, rfl⟩ := Database.mem_withoutAbandoned.mp left
    refine ⟨old, member, ?_⟩
    split <;> rfl

/-- No statement of a cleanup writes the DLQ. -/
theorem dlq_startupCleanup (session : Session) (queueLockTimeout jobLockTimeout : Duration) :
    (session.run (Client.startupCleanupWithTimeouts queueLockTimeout jobLockTimeout)).2.db.dlq =
      session.db.dlq := by
  rw [run_startupCleanup_db]
  split <;> rfl

end Session

end Backfill
