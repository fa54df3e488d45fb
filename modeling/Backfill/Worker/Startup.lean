import Backfill.Client.Scan
import Backfill.Graphile
import Backfill.Worker

/-!
# What a startup loses (`worker.rs:601`)

The pre-move scans for exhausted jobs and takes at most a hundred of them; the cleanup
deletes every exhausted job that is unlocked by then. A job outside the batch survives
only by its lock, or has to be recorded already, by a record that no job of the batch
takes over. A job of the batch keeps its record unless a later one of the batch is stored
under the same key.
-/

namespace Backfill

namespace Session

/-- The startup sequence is the pre-move, if there is one, and then the cleanup, whatever
the first has met. -/
theorem run_startup (ties : ScanOrder) (session : Session) (config : WorkerConfig) :
    ((Client.startup config).run (execScan ties) session).2 =
      ((if config.dlqProcessorInterval.isSome then session.pass ties
        else session).run (Client.startupCleanupWithTimeouts config.staleQueueLockTimeout
          config.staleJobLockTimeout)).2 := by
  have cleanup : ∀ session : Session, (Client.startupCleanupWithTimeouts
      config.staleQueueLockTimeout config.staleJobLockTimeout).run (execScan ties) session =
        session.run (Client.startupCleanupWithTimeouts config.staleQueueLockTimeout
          config.staleJobLockTimeout) :=
    Program.run_congr (I := fun s => s ≠ .findFailedJobs)
      (by intro s session other; cases s <;> first | rfl | exact absurd rfl other)
      (Client.calls_startupCleanupWithTimeouts nofun nofun nofun nofun)
  unfold Client.startup
  split
  · simp only [Program.run_bind, Program.run_attempt, Program.pure_eq, Program.run_done, cleanup]
    rfl
  · simp only [Program.run_bind, Program.run_attempt, Program.pure_eq, Program.run_done, cleanup]

/-- Nothing is lost between two databases: every exhausted job of the first is still in the
queue of the second or recorded in its DLQ. -/
def NothingLost (before after : Database) : Prop :=
  ∀ row ∈ before.jobs.rows, row.failed = true →
    (∃ r ∈ after.jobs.rows, r.id = row.id) ∨ after.Recorded row.id

/-- A job that need not fear the cleanup: it is in the batch of the pre-move of `db`, or it has a
record that no job of the batch takes over. -/
def CoveredByBatch (db : Database) (batch : List FailedJob) (row : JobRow) : Prop :=
  (∃ job ∈ batch, job.id = row.id) ∨
    ∃ record ∈ db.dlqRows, record.originalJobId = some row.id ∧
      ∀ job ∈ batch, record.jobKey = none ∨ record.jobKey ≠ storedKey job.jobKey

instance (db : Database) (batch : List FailedJob) (row : JobRow) :
    Decidable (CoveredByBatch db batch row) :=
  inferInstanceAs (Decidable (_ ∨ _))

/-- Job locks taken before this moment are stale to the cleanup of a startup that starts
now, its scan and its moves before it. -/
def startupCutoff (session : Session) (batch : List FailedJob) (config : WorkerConfig) :
    Timestamp :=
  (session.after (batch.length + 1) session.db).jobLockCutoff config.staleJobLockTimeout

/-- A job that a startup with this cutoff does not lose: no later job of the batch takes its new
record over, and the cleanup deletes it only where it is covered. -/
def Saved (db : Database) (batch : List FailedJob) (cutoff : Timestamp) (row : JobRow) : Prop :=
  (∀ job ∈ batch, job.id = row.id → job.LastIn batch) ∧
    (row.Doomed cutoff → CoveredByBatch db batch row)

/-- One exhausted job through a startup that meets no refusal: it is kept or recorded unless
a later job of the batch takes its record over or the cleanup deletes it without cover. -/
theorem startup_keeps_iff {session : Session} {table : DlqTable} {config : WorkerConfig}
    (ties : ScanOrder) (calm : session.Calm) (present : session.db.dlq = .ok table)
    (enabled : config.dlqProcessorInterval.isSome = true) {row : JobRow}
    (member : row ∈ session.db.jobs.rows) :
    ((∃ r ∈ ((Client.startup config).run (execScan ties) session).2.db.jobs.rows, r.id = row.id) ∨
        ((Client.startup config).run (execScan ties) session).2.db.Recorded row.id) ↔
      Saved session.db (ties.batch session.db)
        (session.startupCutoff (ties.batch session.db) config) row := by
  obtain ⟨done, sent, db', table', -, ran, passed, complete⟩ := exists_passed ties present
  obtain ⟨rfl, rfl⟩ := complete calm
  rw [run_startup, if_pos enabled, ran]
  set batch := ties.batch session.db with scan
  set middle := session.after (batch.length + 1) db'
  have accepts : middle.AcceptsCleanup config.staleQueueLockTimeout config.staleJobLockTimeout :=
    ⟨calm _ _, calm _ _, calm _ _⟩
  have recorded : (middle.run (Client.startupCleanupWithTimeouts config.staleQueueLockTimeout
      config.staleJobLockTimeout)).2.db.Recorded row.id ↔ db'.Recorded row.id := by
    simp only [Database.Recorded, Database.dlqRows, dlq_startupCleanup]
    rfl
  rw [recorded]
  by_cases among : ∃ job ∈ batch, job.id = row.id
  · obtain ⟨job, scanned, same⟩ := among
    have apart : batch.Pairwise FailedJob.Apart := ties.pairwise_batch session.db
    have only : ∀ other ∈ batch, other.id = row.id → other = job := by
      intro other otherAmong sameId
      by_contra differ
      exact apart.forall otherAmong scanned differ (sameId.trans same.symm)
    have unrecorded : ¬ session.db.Recorded job.id := by
      obtain ⟨found, -, -, unrecorded, joined⟩ := ScanOrder.of_mem_batch scanned
      rwa [Database.failedJob?_id joined]
    have gone : ¬ ∃ r ∈ (middle.run (Client.startupCleanupWithTimeouts
        config.staleQueueLockTimeout config.staleJobLockTimeout)).2.db.jobs.rows,
        r.id = row.id := by
      rintro ⟨r, left, key⟩
      obtain ⟨old, before, kept⟩ := exists_of_mem_startupCleanup left
      exact ((passed.jobs_iff old).mp before).2 job scanned
        (kept.symm.trans (key.trans same.symm))
    have isLast : db'.Recorded row.id ↔ job.LastIn batch :=
      same ▸ passed.recorded_iff_lastIn present apart scanned unrecorded
    rw [or_iff_right gone, isLast]
    constructor
    · intro last
      exact ⟨fun other otherAmong sameId => only other otherAmong sameId ▸ last,
        fun _ => .inl ⟨job, scanned, same⟩⟩
    · exact fun saved => saved.1 job scanned same
  · have outside : ∀ job ∈ batch, job.id ≠ row.id := by
      simpa using among
    have stays : row ∈ middle.db.jobs.rows :=
      (passed.jobs_iff row).mpr ⟨member, fun job scanned => (outside job scanned).symm⟩
    rw [kept_startupCleanup_iff middle _ _ stays, passed.recorded_iff present outside, Saved,
      and_iff_right fun job scanned same => absurd same (outside job scanned)]
    simp only [CoveredByBatch, among, false_or, accepts, true_and]
    exact imp_iff_not_or.symm

/-- With the DLQ enabled and no statement refused, the startup sequence loses no exhausted
job exactly when every job of the batch is the last one under its key there, and every one the
cleanup will delete is covered by the pre-move. -/
theorem startup_nothingLost_iff {session : Session} {table : DlqTable} {config : WorkerConfig}
    (ties : ScanOrder) (calm : session.Calm) (present : session.db.dlq = .ok table)
    (enabled : config.dlqProcessorInterval.isSome = true) :
    NothingLost session.db ((Client.startup config).run (execScan ties) session).2.db ↔
      ∀ row ∈ session.db.jobs.rows, row.failed = true →
        Saved session.db (ties.batch session.db)
          (session.startupCutoff (ties.batch session.db) config) row :=
  forall₃_congr fun _ member _ => startup_keeps_iff ties calm present enabled member

/-- The rows only the pre-move can save: exhausted, unlocked and not recorded. -/
def unsaved (db : Database) : List JobRow :=
  db.jobs.rows.filter fun row => row.failed && row.lockedAt.isNone && !decide (db.Recorded row.id)

/-- A batch holds a hundred jobs, so with more than a hundred unsaved rows some job is
lost. -/
theorem startup_loses_beyond_batch {session : Session} {table : DlqTable}
    {config : WorkerConfig} (ties : ScanOrder) (calm : session.Calm)
    (present : session.db.dlq = .ok table)
    (enabled : config.dlqProcessorInterval.isSome = true)
    (many : 100 < (unsaved session.db).length) :
    ¬ NothingLost session.db ((Client.startup config).run (execScan ties) session).2.db := by
  intro kept
  have covered : ∀ row ∈ unsaved session.db,
      row.id ∈ (ties.batch session.db).map FailedJob.id := by
    intro row unsavedRow
    obtain ⟨member, condition⟩ := List.mem_filter.mp unsavedRow
    simp only [Bool.and_eq_true, Option.isNone_iff_eq_none, Bool.not_eq_true',
      decide_eq_false_iff_not] at condition
    obtain ⟨⟨failed, unlocked⟩, unrecorded⟩ := condition
    have doomed : row.Doomed (session.startupCutoff (ties.batch session.db) config) :=
      ⟨JobRow.exhausted_iff.mpr (JobRow.failed_iff.mp failed).1, .inl unlocked⟩
    have saved := (startup_keeps_iff ties calm present enabled member).mp (kept row member failed)
    rcases saved.2 doomed with ⟨job, scanned, same⟩ | ⟨record, recordMember, origin, -⟩
    · exact List.mem_map.mpr ⟨job, scanned, same⟩
    · exact absurd ⟨record, recordMember, origin⟩ unrecorded
  have distinct : ((unsaved session.db).map JobRow.id).Nodup :=
    List.pairwise_map.mpr ((session.db.jobs.apart.filter _).imp fun apart same =>
      apart (.inl same))
  have among : (unsaved session.db).map JobRow.id ⊆ (ties.batch session.db).map FailedJob.id := by
    intro id listed
    obtain ⟨row, unsavedRow, rfl⟩ := List.mem_map.mp listed
    exact covered row unsavedRow
  have bounded := (List.subperm_of_subset distinct among).length_le
  simp only [List.length_map] at bounded
  have batch : (ties.batch session.db).length ≤ 100 := List.length_take_le ..
  omega

/-- A job that has used up its only attempt, the one with the number `id` at the time `id`. -/
def exhaustedJob (id : Int) : JobRow where
  id := id
  jobQueueId := none
  taskId := 1
  payload := .null
  priority := 0
  runAt := 0
  attempts := 1
  maxAttempts := 1
  lastError := none
  createdAt := 0
  updatedAt := id
  key := none
  lockedAt := none
  lockedBy := none

/-- A queue of `n` exhausted jobs, none of them locked or recorded. -/
def exhaustedJobs (n : Nat) : Database :=
  { Database.fresh.withTask "send_email" with
    jobs :=
      { rows := (List.range n).map fun i : Nat => exhaustedJob (i + 1)
        nextId := n + 1
        id_lt := by
          simp only [List.mem_map, List.mem_range]
          rintro _ ⟨i, below, rfl⟩
          simp only [exhaustedJob]
          omega
        apart := by
          rw [List.pairwise_map]
          have distinct : (List.range n).Pairwise (· ≠ ·) := List.nodup_range
          refine distinct.imp fun differ clash => ?_
          rcases clash with same | ⟨keyed, -⟩
          · simp only [exhaustedJob] at same
            omega
          · exact keyed rfl } }

/-- Two failed jobs, whose keys the DLQ stores as one. -/
def blankedJobs : Database :=
  { Database.fresh.withTask "send_email" with
    jobs :=
      { rows := [{ exhaustedJob 1 with key := some fullKey },
          { exhaustedJob 2 with key := some blankedKey }]
        nextId := 3
        id_lt := by simp [exhaustedJob]
        apart := by simp [Clash, exhaustedJob, blankedKey_ne.symm] } }

/-- Two exhausted jobs fit in the batch, so both are recorded before the cleanup. -/
theorem startup_keeps_two :
    NothingLost (exhaustedJobs 2)
      ((Client.startup .default).run (execScan default)
        (undisturbed 0 (exhaustedJobs 2))).2.db :=
  have calm : (undisturbed 0 (exhaustedJobs 2)).Calm := fun _ _ => rfl
  have keyless : ∀ job ∈ (exhaustedJobs 2).findFailedJobs, job.jobKey = none := by decide
  have covered : ∀ row ∈ (exhaustedJobs 2).jobs.rows,
      CoveredByBatch (exhaustedJobs 2) (exhaustedJobs 2).findFailedJobs row := by
    decide
  (startup_nothingLost_iff default calm rfl rfl).mpr fun row member _ =>
    ⟨fun job scanned _ => FailedJob.lastIn_of_keyless scanned (keyless job scanned),
      fun _ => covered row member⟩

/-- The hundred and first exhausted job is beyond the batch, and the cleanup deletes it. -/
theorem startup_loses_one_of_101 :
    (undisturbed 0 (exhaustedJobs 101)).Calm ∧
      WorkerConfig.default.dlqProcessorInterval.isSome = true ∧
      ∀ ties, ¬ NothingLost (exhaustedJobs 101)
        ((Client.startup .default).run (execScan ties)
          (undisturbed 0 (exhaustedJobs 101))).2.db := by
  have calm : (undisturbed 0 (exhaustedJobs 101)).Calm := fun _ _ => rfl
  refine ⟨calm, rfl, fun ties => startup_loses_beyond_batch ties calm rfl rfl ?_⟩
  decide +kernel

end Session

end Backfill
