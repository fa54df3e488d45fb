import Backfill.Cluster.Journal
import Backfill.Misc.Sweeping

/-!
# How long a lock can be left behind

A worker that dies leaves its locks in the tables, and the stale-lock cleanup of the others
releases them (`cleanup.rs:294`). The cleanup finds a lock only once it is older than its timeout,
and then at its next tick; no lock lives longer than that, whatever the other workers, the hooks
and the requeues do.
-/

namespace Backfill

/-- The two lock columns: that of `_private_job_queues` and that of `_private_jobs`. -/
inductive LockKind
  | queue
  | job
deriving DecidableEq

namespace LockKind

/-- When the locks of the kind were taken. -/
def stamps : LockKind → Database → List Timestamp
  | queue, db => db.jobQueues.rows.filterMap JobQueueRow.lockedAt
  | job, db => db.jobs.rows.filterMap JobRow.lockedAt

/-- The statement releases the locks of the kind that are older than `secs` seconds. -/
def releasedBy (secs : Int) : LockKind → Statement → Bool
  | queue, .releaseQueueLocks bound => decide (bound = secs)
  | job, .releaseJobLocks bound => decide (bound = secs)
  | _, _ => false

variable {kind : LockKind} {s : Statement} {now : Timestamp} {fault : Option ForeignError}
  {db : Database} {taken : Timestamp}

theorem mem_stamps_queue :
    taken ∈ queue.stamps db ↔ ∃ row ∈ db.jobQueues.rows, row.lockedAt = some taken :=
  List.mem_filterMap

theorem mem_stamps_job :
    taken ∈ job.stamps db ↔ ∃ row ∈ db.jobs.rows, row.lockedAt = some taken :=
  List.mem_filterMap

/-- An enqueue creates queue rows without a lock. -/
theorem stamps_queue_addJob {new : NewJob}
    (held : taken ∈ queue.stamps (db.addJob now new).2) : taken ∈ queue.stamps db := by
  obtain ⟨row, member, locked⟩ := mem_stamps_queue.mp held
  have prepared : row ∈ (db.prepared new).jobQueues.rows := member
  unfold Database.prepared at prepared
  split at prepared
  · exact mem_stamps_queue.mpr ⟨row, prepared, locked⟩
  · rcases SerialTable.mem_upsert.mp prepared with ⟨-, old, oldMember, rfl⟩ | ⟨-, old | rfl⟩
    · refine mem_stamps_queue.mpr ⟨old, oldMember, ?_⟩
      rw [← locked]
      split <;> rfl
    · exact mem_stamps_queue.mpr ⟨row, old, locked⟩
    · cases locked

/-- Unlocking some queues takes no lock. -/
theorem stamps_queue_unlock {p : JobQueueRow → Bool}
    (held : taken ∈ queue.stamps
      { db with jobQueues := db.jobQueues.update p JobQueueRow.unlock }) :
    taken ∈ queue.stamps db := by
  obtain ⟨row, member, locked⟩ := mem_stamps_queue.mp held
  obtain ⟨old, oldMember, rfl⟩ := SerialTable.mem_update.mp member
  split at locked
  · cases locked
  · exact mem_stamps_queue.mpr ⟨old, oldMember, locked⟩

/-- No statement takes a lock. -/
theorem stamps_answer (held : taken ∈ kind.stamps (s.answer now fault db).2) :
    taken ∈ kind.stamps db := by
  cases kind with
  | job =>
      obtain ⟨row, member, locked⟩ := mem_stamps_job.mp held
      rcases Statement.row_answer member with ⟨old, oldMember, change⟩ | ⟨_, _, _, _, _, -, rfl⟩
      · cases change with
        | released => cases locked
        | overwritten unlocked =>
            refine mem_stamps_job.mpr ⟨_, oldMember, ?_⟩
            rw [← locked]
            simp only [NewJob.overwrite]
            split <;> rfl
        | _ => exact mem_stamps_job.mpr ⟨_, oldMember, locked⟩
      · cases locked
  | queue =>
      cases fault with
      | some error => exact held
      | none =>
          rw [Statement.answer_none] at held
          cases s with
          | releaseQueueLocks secs => exact stamps_queue_unlock held
          | addJob identifier payload spec => exact stamps_queue_addJob held
          | moveFailedJob values =>
              simp only [Statement.exec, Database.moveFailedJob] at held
              split at held
              next => exact held
              next => split at held <;> exact held
          | listDlqJobs filter =>
              simp only [Statement.exec] at held
              split at held
              next => exact held
              next => split_ifs at held <;> exact held
          | findFailedJobs | upsertDlq | getDlqJob | recordRequeue | deleteDlqJob
          | deleteDlqByJobKey | countDlqJobs =>
              simp only [Statement.exec] at held
              split at held <;> exact held
          | _ => exact held

/-- A release leaves no lock behind that is older than its timeout. -/
theorem stamps_released {secs : Int} (releases : kind.releasedBy secs s = true)
    (held : taken ∈ kind.stamps (s.exec now db).2) : lockCutoff now secs ≤ taken := by
  have spared : ∀ lockedAt : Option Timestamp, lockedAt = some taken →
      ¬ lockedBefore (lockCutoff now secs) lockedAt = true → lockCutoff now secs ≤ taken := by
    rintro _ rfl fresh
    exact Int.not_lt.mp fun early => fresh (lockedBefore_iff.mpr ⟨taken, rfl, early⟩)
  unfold releasedBy at releases
  split at releases
  next bound =>
    obtain rfl := of_decide_eq_true releases
    obtain ⟨row, member, locked⟩ := mem_stamps_queue.mp held
    obtain ⟨old, oldMember, rfl⟩ := SerialTable.mem_update.mp member
    split at locked
    next => cases locked
    next fresh => exact spared _ locked fresh
  next bound =>
    obtain rfl := of_decide_eq_true releases
    obtain ⟨row, member, locked⟩ := mem_stamps_job.mp held
    obtain ⟨old, oldMember, rfl⟩ := SerialTable.mem_update.mp member
    split at locked
    next => cases locked
    next fresh => exact spared _ locked fresh
  next => cases releases

/-- A completion takes no lock. -/
theorem stamps_completeJob {worker : String} {jobId : Int}
    (held : taken ∈ kind.stamps (db.completeJob worker jobId)) : taken ∈ kind.stamps db := by
  cases kind with
  | job =>
      obtain ⟨row, member, locked⟩ := mem_stamps_job.mp held
      exact mem_stamps_job.mpr ⟨row, (Database.mem_completeJob.mp member).1, locked⟩
  | queue =>
      unfold Database.completeJob at held
      split at held
      · exact held
      · exact stamps_queue_unlock held

/-- Nor does a failure. -/
theorem stamps_failJob {worker error : String} {jobId : Int} {retryAt : Timestamp}
    (held : taken ∈ kind.stamps (db.failJob worker jobId error retryAt now)) :
    taken ∈ kind.stamps db := by
  cases kind with
  | job =>
      obtain ⟨row, member, locked⟩ := mem_stamps_job.mp held
      obtain ⟨old, oldMember, rfl | ⟨-, -, rfl⟩⟩ := Database.of_mem_failJob member
      · exact mem_stamps_job.mpr ⟨row, oldMember, locked⟩
      · cases locked
  | queue =>
      unfold Database.failJob at held
      split at held
      · exact held
      · split at held
        · exact stamps_queue_unlock held
        · exact held

/-- A fetch takes its locks now. -/
theorem stamps_lockJob {worker : String} {row : JobRow}
    (held : taken ∈ kind.stamps (db.lockJob worker now row)) :
    taken ∈ kind.stamps db ∨ taken = now := by
  cases kind with
  | job =>
      obtain ⟨r, member, locked⟩ := mem_stamps_job.mp held
      obtain ⟨old, oldMember, rfl⟩ := Database.mem_lockJob.mp member
      split at locked
      · exact .inr (Option.some.inj locked).symm
      · exact .inl (mem_stamps_job.mpr ⟨old, oldMember, locked⟩)
  | queue =>
      obtain ⟨r, member, locked⟩ := mem_stamps_queue.mp held
      obtain ⟨old, oldMember, rfl⟩ := SerialTable.mem_update.mp member
      split at locked
      · exact .inr (Option.some.inj locked).symm
      · exact .inl (mem_stamps_queue.mpr ⟨old, oldMember, locked⟩)

/-- An enqueue takes none: a row it writes over is unlocked and stays so. -/
theorem stamps_addJob {new : NewJob} (held : taken ∈ kind.stamps (db.addJob now new).2) :
    taken ∈ kind.stamps db := by
  cases kind with
  | queue => exact stamps_queue_addJob held
  | job =>
      obtain ⟨row, member, locked⟩ := mem_stamps_job.mp held
      rcases Database.of_mem_addJob member with
        kept | ⟨old, oldMember, -, rfl⟩ | ⟨old, oldMember, unlocked, -, -, dedupe, _, _, rfl⟩ |
          ⟨_, _, rfl⟩
      · exact mem_stamps_job.mpr ⟨row, kept, locked⟩
      · exact mem_stamps_job.mpr ⟨old, oldMember, locked⟩
      · simp [NewJob.overwrite, dedupe, unlocked] at locked
      · cases locked

end LockKind

/-- Only a fetch takes locks. -/
theorem Cluster.stamps_step {tables : CharTables} {s s' : Cluster} {a : Action} {kind : LockKind}
    {taken : Timestamp} (moved : s.step tables a = some s') (held : taken ∈ kind.stamps s'.db) :
    taken ∈ kind.stamps s.db ∨ taken = s.now := by
  cases a with
  | fetch worker jobId =>
      obtain ⟨row, -, _, -, -, -, -, -, rfl⟩ := fetch_some moved
      exact LockKind.stamps_lockJob held
  | complete i =>
      obtain ⟨e, -, rfl⟩ := Option.map_eq_some_iff.mp moved
      exact .inl (LockKind.stamps_completeJob held)
  | fail i error retryAt =>
      obtain ⟨e, -, rfl⟩ := Option.map_eq_some_iff.mp moved
      exact .inl (LockKind.stamps_failJob held)
  | enqueue job =>
      obtain rfl := Option.some.inj moved
      exact .inl (LockKind.stamps_addJob held)
  | send i fault =>
      obtain ⟨op, next, -, rfl⟩ := send_op moved
      exact .inl (LockKind.stamps_answer held)
  | crash i | jobFail i =>
      obtain ⟨_, -, rfl⟩ := Option.map_eq_some_iff.mp moved
      exact .inl held
  | advance micros | start routine =>
      obtain rfl := Option.some.inj moved
      exact .inl held

namespace Journal

variable {tables : CharTables} {j j' : Journal} {a : JournalAction} {kind : LockKind}
  {taken : Timestamp}

theorem stamps_step (moved : j.step tables a = some j') (held : taken ∈ kind.stamps j'.db) :
    taken ∈ kind.stamps j.db ∨ taken = j.cluster.now := by
  cases a with
  | base b =>
      obtain ⟨cluster, stepped, rfl⟩ := base_some moved
      exact Cluster.stamps_step stepped held
  | requeue dlqId notes =>
      obtain rfl := Option.some.inj moved
      exact .inl held
  | hookSend i fault =>
      obtain ⟨hook, op, next, -, -, rfl⟩ := hookSend_some moved
      exact .inl (LockKind.stamps_answer held)
  | requeueSend i fault =>
      obtain ⟨requeue, op, next, -, -, rfl⟩ := requeueSend_some moved
      exact .inl (LockKind.stamps_answer held)

/-- The step sends a release with the timeout, and it is not refused. -/
def releases (kind : LockKind) (timeout : Duration) (j : Journal) (a : JournalAction) : Bool :=
  a.fault.isNone && (j.sends? a).any (kind.releasedBy (asI64 timeout.asSecs))

/-- Bound as an `i64`, a timeout is never longer than it was. -/
theorem asI64_asSecs_le (timeout : Duration) :
    Timestamp.seconds (asI64 timeout.asSecs) ≤ timeout.asMicros := by
  show asI64 timeout.secs * 1000000 ≤ (timeout.secs * 1000000 + timeout.nanos / 1000 : Int)
  have below := timeout.secs_lt
  rcases Nat.lt_or_ge timeout.secs (2 ^ 63) with fits | high
  · rw [asI64_of_lt fits]
    omega
  · rw [asI64_of_le high below]
    omega

/-- The locks of a kind as stamps, which are swept by the releases of the cleanup. -/
def lockSweeper (tables : CharTables) (kind : LockKind) (timeout : Duration) :
    Sweeping.Sweeper (Journal.step tables) where
  clock j := j.cluster.now
  Holds j taken := taken ∈ kind.stamps j.db
  sweeps j a := j.releases kind timeout a
  timeout := timeout.asMicros
  timeout_nonneg := timeout.asMicros_nonneg
  onward := now_step
  stamped := stamps_step
  swept {j a j' taken} releases moved held := by
    simp only [Journal.releases, Bool.and_eq_true, Option.isNone_iff_eq_none,
      Option.any_eq_true] at releases
    obtain ⟨accepted, op, sends, released⟩ := releases
    rw [sends_step sends moved, accepted, Statement.answer_none] at held
    have spared := LockKind.stamps_released released held
    have bound := asI64_asSecs_le timeout
    exact (Int.le_add_of_sub_right_le spared).trans (Int.add_le_add_left bound taken)

/-- As long as no period passes without a release of the kind that is not refused, no lock gets
older than its timeout and the period, whichever worker has died with it. -/
theorem lock_age_le (tables : CharTables) (kind : LockKind) (timeout : Duration) {period : Int}
    (nonneg : 0 ≤ period) {now : Timestamp} {db : Database}
    (young : ∀ taken ∈ kind.stamps db, now - taken ≤ timeout.asMicros) {as : List JournalAction}
    {s : Sweeping.Watched Journal}
    (path : Transition.Run (lockSweeper tables kind timeout).watch
      ((lockSweeper tables kind timeout).InTime period) ⟨initial now db, now⟩ as s)
    {taken : Timestamp} (held : taken ∈ kind.stamps s.state.db) :
    s.state.cluster.now - taken ≤ timeout.asMicros + period := by
  have clean : (lockSweeper tables kind timeout).Clean period ⟨initial now db, now⟩ :=
    { past := le_refl _
      recent := Int.le_add_of_nonneg_right nonneg
      young := fun taken held => Int.le_add_of_sub_left_le (young taken held) }
  exact clean.age_le path held

/-- A worker dies with a job. Its lock outlives one tick of a cleanup with a timeout of one second,
and with a tick every two seconds it is never older than three. -/
theorem lock_age_le_singleAttempt :
    ∃ as s, Transition.Run (lockSweeper .ascii .job (.fromSecs 1)).watch
        ((lockSweeper .ascii .job (.fromSecs 1)).InTime 2000000)
        ⟨initial 0 (Database.fresh.addJob 0 singleAttempt).2, 0⟩ as s ∧
      LockKind.job.stamps s.state.db = [0] ∧ s.state.cluster.now = 2500000 ∧
      s.state.cluster.now - 0 ≤ (Duration.fromSecs 1).asMicros + 2000000 := by
  have path : Transition.Run (lockSweeper .ascii .job (.fromSecs 1)).watch
      ((lockSweeper .ascii .job (.fromSecs 1)).InTime 2000000)
      ⟨initial 0 (Database.fresh.addJob 0 singleAttempt).2, 0⟩
      [.base (.fetch "worker" 1), .base (.crash 0), .base (.advance 1000000),
        .base (.start (Client.staleLockCleanupRoutine (.fromSecs 1) (.fromSecs 1))),
        .base (.send 0 none), .base (.send 0 none), .base (.advance 1500000)] _ :=
    .of_checked _ (lockSweeper .ascii .job (.fromSecs 1)).inTime_sound rfl
  refine ⟨_, _, path, rfl, rfl, lock_age_le .ascii .job (.fromSecs 1) (by decide)
    (fun _ held => (List.not_mem_nil held).elim) path ?_⟩
  show (0 : Timestamp) ∈ [0]
  exact List.mem_singleton.mpr rfl

end Journal

end Backfill
