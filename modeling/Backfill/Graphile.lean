import Backfill.Schema

/-!
# What is assumed of the job queue underneath

The job queue is a library of its own; its source is not part of this repository. These
are the four operations the library relies on, as its comments and tests describe them: a
fetch takes an available row, stamps the locks and counts the attempt; a completion
deletes the row; a failure clears the locks and leaves `attempts` alone; an enqueue upserts
on the job key.
-/

namespace Backfill

/-- `JobKeyMode`. -/
inductive JobKeyMode
  | replace
  | preserveRunAt
  | unsafeDedupe
deriving DecidableEq

/-- The arguments of `add_job`. -/
structure NewJob where
  identifier : String
  payload : Json
  queueName : Option String
  runAt : Timestamp
  maxAttempts : Int
  key : Option String
  mode : JobKeyMode
  priority : Int

/-- `graphile_worker::JobSpec`: what is not set is left to `add_job`. -/
structure GraphileJobSpec where
  runAt : Option Timestamp
  priority : Option Int16
  queueName : Option String
  maxAttempts : Option Int16
  jobKey : Option String
  jobKeyMode : Option JobKeyMode

/-- The arguments of `add_job` once its defaults are filled in: due at once, 25 attempts,
priority 0, replacing. -/
def GraphileJobSpec.newJob (spec : GraphileJobSpec) (identifier : String) (payload : Json)
    (now : Timestamp) : NewJob where
  identifier := identifier
  payload := payload
  queueName := spec.queueName
  runAt := spec.runAt.getD now
  maxAttempts := (spec.maxAttempts.getD 25).toInt
  key := spec.jobKey
  mode := spec.jobKeyMode.getD .replace
  priority := (spec.priority.getD 0).toInt

/-- `SET locked_at = now(), locked_by = worker, attempts = attempts + 1`. -/
def JobRow.fetched (worker : String) (now : Timestamp) : RowEdit JobRow.id JobRow.key where
  apply row :=
    { row with attempts := row.attempts + 1, lockedAt := some now, lockedBy := some worker }
  id_eq _ := rfl
  index_eq _ := .inr rfl

/-- `SET locked_at = now(), locked_by = worker` on a queue row. -/
def JobQueueRow.lock (worker : String) (now : Timestamp) :
    RowEdit JobQueueRow.id fun row => some row.queueName where
  apply row := { row with lockedAt := some now, lockedBy := some worker }
  id_eq _ := rfl
  index_eq _ := .inr rfl

/-- `SET last_error = error, run_at = retryAt, locked_at = NULL, locked_by = NULL`. -/
def JobRow.failedWith (error : String) (retryAt now : Timestamp) :
    RowEdit JobRow.id JobRow.key where
  apply row :=
    { row with
      lastError := some error
      runAt := retryAt
      updatedAt := now
      lockedAt := none
      lockedBy := none }
  id_eq _ := rfl
  index_eq _ := .inr rfl

/-- A locked row that loses its key to a newer job keeps running and is not retried. -/
def JobRow.superseded (now : Timestamp) : RowEdit JobRow.id JobRow.key where
  apply row := { row with key := none, attempts := row.maxAttempts, updatedAt := now }
  id_eq _ := rfl
  index_eq _ := .inl rfl

namespace NewJob

/-- A new row for the job, with `attempts = 0`. -/
def draft (job : NewJob) (taskId : Int) (jobQueueId : Option Int) (now : Timestamp) :
    RowDraft JobRow.id JobRow.key where
  row id :=
    { id := id
      jobQueueId := jobQueueId
      taskId := taskId
      payload := job.payload
      priority := job.priority
      runAt := job.runAt
      attempts := 0
      maxAttempts := job.maxAttempts
      lastError := none
      createdAt := now
      updatedAt := now
      key := job.key
      lockedAt := none
      lockedBy := none }
  indexValue := job.key
  id_eq _ := rfl
  index_eq _ := rfl

/-- What an enqueue does to the unlocked row that already has its key: the row keeps its
id and becomes the new job. `unsafeDedupe` leaves it as it is. -/
def overwrite (job : NewJob) (taskId : Int) (jobQueueId : Option Int) (now : Timestamp) :
    RowEdit JobRow.id JobRow.key where
  apply row :=
    if job.mode = .unsafeDedupe then row
    else
      { row with
        jobQueueId := jobQueueId
        taskId := taskId
        payload := job.payload
        priority := job.priority
        runAt := if job.mode = .preserveRunAt ∧ row.attempts = 0 then row.runAt else job.runAt
        attempts := 0
        maxAttempts := job.maxAttempts
        lastError := none
        updatedAt := now }
  id_eq row := by split <;> rfl
  index_eq row := .inr (by split <;> rfl)

@[simp] theorem overwrite_id {job : NewJob} {taskId : Int} {jobQueueId : Option Int}
    {now : Timestamp} {row : JobRow} :
    ((job.overwrite taskId jobQueueId now).apply row).id = row.id :=
  RowEdit.id_eq ..

/-- The job replaces this row in place: the row has its key and is not locked. -/
def Rewrites (job : NewJob) (row : JobRow) : Prop :=
  row.lockedAt = none ∧ job.key ≠ none ∧ row.key = job.key ∧ job.mode ≠ .unsafeDedupe

end NewJob

namespace Database

/-- A parallel job, or a job whose queue has a row that is not locked. -/
def queueFree (db : Database) (jobQueueId : Option Int) : Bool :=
  match jobQueueId with
  | none => true
  | some queueId => (db.jobQueues.get? queueId).any fun queue => queue.lockedAt.isNone

/-- `worker` locks a job row and its queue row. -/
def lockJob (db : Database) (worker : String) (now : Timestamp) (row : JobRow) : Database :=
  { db with
    jobs := db.jobs.update (fun r => r.id = row.id) (JobRow.fetched worker now)
    jobQueues := db.jobQueues.update (fun q => some q.id = row.jobQueueId)
      (JobQueueRow.lock worker now) }

/-- `get_job`, for the row it has chosen: the row is available and due and its queue, if
any, is not locked. -/
def getJob (db : Database) (worker : String) (now : Timestamp) (jobId : Int) :
    Option (Job × Database) := do
  let row ← db.jobs.get? jobId
  let identifier ← db.taskIdentifier? row.taskId
  if row.isAvailable ∧ row.runAt ≤ now ∧ db.queueFree row.jobQueueId then
    some ({ (JobRow.fetched worker now).apply row with taskIdentifier := identifier },
      db.lockJob worker now row)
  else none

/-- The queue lock `worker` holds for `jobQueueId` is cleared. -/
def clearQueueLock (db : Database) (worker : String) (jobQueueId : Option Int) : Database :=
  { db with
    jobQueues := db.jobQueues.update
      (fun q => some q.id = jobQueueId && decide (q.lockedBy = some worker)) JobQueueRow.unlock }

/-- `complete_job`: the row is deleted and its queue lock cleared. -/
def completeJob (db : Database) (worker : String) (jobId : Int) : Database :=
  match db.jobs.get? jobId with
  | none => db
  | some row =>
      { db.clearQueueLock worker row.jobQueueId with
        jobs := db.jobs.delete fun r => r.id = jobId }

/-- `fail_job`: a row the worker still holds is unlocked for its next attempt, and its queue
lock cleared. -/
def failJob (db : Database) (worker : String) (jobId : Int) (error : String)
    (retryAt now : Timestamp) : Database :=
  match db.jobs.get? jobId with
  | none => db
  | some row =>
      if row.lockedBy = some worker then
        { db.clearQueueLock worker row.jobQueueId with
          jobs := db.jobs.update (fun r => r.id = jobId) (JobRow.failedWith error retryAt now) }
      else db

/-- The row of a task, created when it is missing. -/
def withTask (db : Database) (identifier : String) : Database :=
  { db with
    tasks := db.tasks.upsert
      { row := fun id => { id, identifier }
        indexValue := some identifier
        id_eq := fun _ => rfl
        index_eq := fun _ => rfl }
      (.refl _ _) }

/-- The row of a queue, created when it is missing. -/
def withJobQueue (db : Database) (queueName : String) : Database :=
  { db with
    jobQueues := db.jobQueues.upsert
      { row := fun id => { id, queueName, lockedAt := none, lockedBy := none }
        indexValue := some queueName
        id_eq := fun _ => rfl
        index_eq := fun _ => rfl }
      (.refl _ _) }

/-- The task and queue rows an enqueue refers to, created when they are missing. -/
def prepared (db : Database) (job : NewJob) : Database :=
  match job.queueName with
  | none => db.withTask job.identifier
  | some queueName => (db.withTask job.identifier).withJobQueue queueName

/-- The id of a task that has a row. -/
def taskId (db : Database) (identifier : String) : Int :=
  ((db.tasks.rows.find? fun row => row.identifier = identifier).map TaskRow.id).getD 0

/-- The id of a queue that has a row. -/
def jobQueueId (db : Database) (queueName : Option String) : Option Int :=
  queueName.bind fun name =>
    (db.jobQueues.rows.find? fun row => row.queueName = name).map JobQueueRow.id

/-- The jobs table after a locked row with the key of a new job has lost it. -/
def supersede (db : Database) (job : NewJob) (now : Timestamp) : JobTable :=
  db.jobs.update
    (fun row => job.key.isSome && decide (row.key = job.key) && row.lockedAt.isSome
      && decide (job.mode ≠ .unsafeDedupe))
    (JobRow.superseded now)

/-- `add_job`. Returns the row it wrote, `none` when the job was dropped as a duplicate. -/
def addJob (db : Database) (now : Timestamp) (job : NewJob) : Option JobRow × Database :=
  let db := db.prepared job
  let jobs := db.supersede job now
  let draft := job.draft (db.taskId job.identifier) (db.jobQueueId job.queueName) now
  let overwrite := job.overwrite (db.taskId job.identifier) (db.jobQueueId job.queueName) now
  (if job.mode = .unsafeDedupe ∧ jobs.holds job.key then none
    else some (jobs.upserted draft overwrite),
    { db with jobs := jobs.upsert draft overwrite })

/-- Everything a successful fetch has checked and done. -/
theorem getJob_some {db db' : Database} {worker : String} {now : Timestamp} {jobId : Int}
    {job : Job} (taken : db.getJob worker now jobId = some (job, db')) :
    ∃ row ∈ db.jobs.rows, row.id = jobId ∧ row.isAvailable = true ∧ row.runAt ≤ now ∧
      db.queueFree row.jobQueueId = true ∧
      job.toJobRow = (JobRow.fetched worker now).apply row ∧
      db' = db.lockJob worker now row := by
  simp only [getJob, Option.bind_eq_bind, Option.bind_eq_some_iff] at taken
  obtain ⟨row, found, identifier, _, decided⟩ := taken
  split at decided
  next conditions =>
    obtain ⟨rfl, rfl⟩ := Prod.mk.inj (Option.some.inj decided)
    obtain ⟨member, key⟩ := SerialTable.get?_eq_some.mp found
    exact ⟨row, member, key, conditions.1, conditions.2.1, conditions.2.2, rfl, rfl⟩
  next => cases decided

/-- A fetch rewrites exactly the row it takes. -/
theorem mem_lockJob {db : Database} {worker : String} {now : Timestamp} {row r : JobRow} :
    r ∈ (db.lockJob worker now row).jobs.rows ↔
      ∃ old ∈ db.jobs.rows,
        r = if old.id = row.id then (JobRow.fetched worker now).apply old else old := by
  simp [lockJob, SerialTable.mem_update]

/-- A completion removes exactly the row of its job. -/
theorem mem_completeJob {db : Database} {worker : String} {jobId : Int} {r : JobRow} :
    r ∈ (db.completeJob worker jobId).jobs.rows ↔ r ∈ db.jobs.rows ∧ r.id ≠ jobId := by
  cases found : db.jobs.get? jobId with
  | none =>
      have absent := SerialTable.get?_eq_none.mp found
      simp only [completeJob, found]
      exact ⟨fun member => ⟨member, absent r member⟩, And.left⟩
  | some row => simp [completeJob, found]

/-- A failure unlocks the row of its job, if its worker still holds it, and nothing else. -/
theorem of_mem_failJob {db : Database} {worker error : String} {jobId : Int}
    {retryAt now : Timestamp} {r : JobRow}
    (member : r ∈ (db.failJob worker jobId error retryAt now).jobs.rows) :
    ∃ old ∈ db.jobs.rows, r = old ∨
      (old.id = jobId ∧ old.lockedBy = some worker ∧
        r = (JobRow.failedWith error retryAt now).apply old) := by
  cases found : db.jobs.get? jobId with
  | none =>
      simp only [failJob, found] at member
      exact ⟨r, member, .inl rfl⟩
  | some row =>
      obtain ⟨present, key⟩ := SerialTable.get?_eq_some.mp found
      by_cases held : row.lockedBy = some worker
      · simp only [failJob, found, if_pos held] at member
        obtain ⟨old, oldMember, rfl⟩ := SerialTable.mem_update.mp member
        by_cases same : old.id = jobId
        · obtain rfl := db.jobs.eq_of_id_eq oldMember present (same.trans key.symm)
          exact ⟨old, oldMember, .inr ⟨same, held, by simp [same]⟩⟩
        · exact ⟨old, oldMember, .inl (by simp [same])⟩
      · simp only [failJob, found, if_neg held] at member
        exact ⟨r, member, .inl rfl⟩

/-- A failure keeps every row in the queue. -/
theorem kept_failJob {db : Database} {worker error : String} {jobId : Int}
    {retryAt now : Timestamp} {row : JobRow} (member : row ∈ db.jobs.rows) :
    ∃ r ∈ (db.failJob worker jobId error retryAt now).jobs.rows, r.id = row.id := by
  unfold failJob
  split
  · exact ⟨row, member, rfl⟩
  · split
    · exact SerialTable.kept_update member
    · exact ⟨row, member, rfl⟩

/-- A queue row after the lock of `worker` on `jobQueueId` is cleared: only that row can have
changed. -/
theorem mem_clearQueueLock_of_ne {db : Database} {worker : String} {jobQueueId : Option Int}
    {queue : JobQueueRow} (member : queue ∈ db.jobQueues.rows)
    (other : some queue.id ≠ jobQueueId) :
    queue ∈ (db.clearQueueLock worker jobQueueId).jobQueues.rows :=
  SerialTable.mem_update.mpr ⟨queue, member, by simp [other]⟩

@[simp] theorem dlq_failJob (db : Database) (worker error : String) (jobId : Int)
    (retryAt now : Timestamp) : (db.failJob worker jobId error retryAt now).dlq = db.dlq := by
  unfold failJob
  split
  · rfl
  · split <;> rfl

@[simp] theorem dlq_completeJob (db : Database) (worker : String) (jobId : Int) :
    (db.completeJob worker jobId).dlq = db.dlq := by
  unfold completeJob
  split <;> rfl

@[simp] theorem dlq_addJob (db : Database) (now : Timestamp) (job : NewJob) :
    (db.addJob now job).2.dlq = db.dlq := by
  simp only [addJob, prepared]
  split <;> rfl

@[simp] theorem jobs_prepared (db : Database) (job : NewJob) :
    (db.prepared job).jobs = db.jobs := by
  unfold prepared
  split <;> rfl

@[simp] theorem nextId_supersede (db : Database) (job : NewJob) (now : Timestamp) :
    (db.supersede job now).nextId = db.jobs.nextId := rfl

/-- A row that still has the key of a new job after locked rows have lost it was there
before, and it is unlocked unless the job is only to be dropped as a duplicate. -/
theorem of_mem_supersede {db : Database} {job : NewJob} {now : Timestamp} {row : JobRow}
    (member : row ∈ (db.supersede job now).rows) :
    (row ∈ db.jobs.rows ∧ (row.key = none ∨ row.key ≠ job.key ∨ row.lockedAt = none ∨
      job.mode = .unsafeDedupe)) ∨
    ∃ old ∈ db.jobs.rows, old.lockedAt ≠ none ∧ row = (JobRow.superseded now).apply old := by
  obtain ⟨old, oldMember, rfl⟩ := SerialTable.mem_update.mp member
  split
  next hit =>
    simp only [Bool.and_eq_true, Option.isSome_iff_ne_none] at hit
    exact .inr ⟨old, oldMember, hit.1.2, rfl⟩
  next miss =>
    refine .inl ⟨oldMember, ?_⟩
    simp only [Bool.and_eq_true, decide_eq_true_eq, Option.isSome_iff_ne_none] at miss
    by_contra open'
    simp only [not_or, not_not] at open'
    exact miss ⟨⟨⟨open'.2.1 ▸ open'.1, open'.2.1⟩, open'.2.2.1⟩, open'.2.2.2⟩

/-- Where the rows of the queue come from after an enqueue. -/
theorem of_mem_addJob {db : Database} {job : NewJob} {now : Timestamp} {r : JobRow}
    (member : r ∈ (db.addJob now job).2.jobs.rows) :
    r ∈ db.jobs.rows ∨
    (∃ old ∈ db.jobs.rows, old.lockedAt ≠ none ∧ r = (JobRow.superseded now).apply old) ∨
    (∃ old ∈ db.jobs.rows, old.lockedAt = none ∧ job.key ≠ none ∧ old.key = job.key ∧
      job.mode ≠ .unsafeDedupe ∧
      ∃ taskId jobQueueId, r = (job.overwrite taskId jobQueueId now).apply old) ∨
    ∃ taskId jobQueueId, r = (job.draft taskId jobQueueId now).row db.jobs.nextId := by
  have fromSuperseded : ∀ {row : JobRow}, row ∈ ((db.prepared job).supersede job now).rows →
      row ∈ db.jobs.rows ∨
        ∃ old ∈ db.jobs.rows, old.lockedAt ≠ none ∧ row = (JobRow.superseded now).apply old := by
    intro row among
    rcases of_mem_supersede among with ⟨old, -⟩ | superseded
    · exact .inl (by simpa using old)
    · exact .inr (by simpa using superseded)
  rcases SerialTable.mem_upsert.mp member with ⟨held, old, oldMember, rfl⟩ | ⟨free, old | new⟩
  · split
    next same =>
      rcases of_mem_supersede oldMember with ⟨before, state⟩ | ⟨older, -, -, rfl⟩
      · rw [jobs_prepared] at before
        have keyed : job.key ≠ none := (SerialTable.holds_iff.mp held).1
        have sameKey : old.key = job.key := same
        by_cases dedupe : job.mode = .unsafeDedupe
        · left
          simpa [NewJob.overwrite, dedupe] using before
        · refine .inr (.inr (.inl ⟨old, before, ?_, keyed, sameKey, dedupe, _, _, rfl⟩))
          rcases state with absent | differ | unlocked | duplicate
          · exact absurd (sameKey.symm.trans absent) keyed
          · exact absurd sameKey differ
          · exact unlocked
          · exact absurd duplicate dedupe
      · exact absurd same.symm (SerialTable.holds_iff.mp held).1
    next other => exact (fromSuperseded oldMember).imp_right .inl
  · exact (fromSuperseded old).imp_right .inl
  · rw [nextId_supersede, jobs_prepared] at new
    exact .inr (.inr (.inr ⟨_, _, new⟩))

/-- An enqueue keeps every row in the queue. -/
theorem kept_addJob {db : Database} {job : NewJob} {now : Timestamp} {row : JobRow}
    (member : row ∈ db.jobs.rows) : ∃ r ∈ (db.addJob now job).2.jobs.rows, r.id = row.id := by
  have present : row ∈ (db.prepared job).jobs.rows := by simpa using member
  obtain ⟨among, amongMember, same⟩ :
      ∃ r ∈ ((db.prepared job).supersede job now).rows, r.id = row.id :=
    SerialTable.kept_update present
  obtain ⟨r, rMember, same'⟩ := SerialTable.kept_upsert amongMember
  exact ⟨r, rMember, same'.trans same⟩

/-- The row an enqueue reports is one it has rewritten in place, or a new one. -/
theorem addJob_reported {db : Database} {job : NewJob} {now : Timestamp} {written : JobRow}
    (reported : (db.addJob now job).1 = some written) :
    (∃ old ∈ db.jobs.rows, job.Rewrites old ∧
      written = (job.overwrite ((db.prepared job).taskId job.identifier)
        ((db.prepared job).jobQueueId job.queueName) now).apply old) ∨
    written = (job.draft ((db.prepared job).taskId job.identifier)
      ((db.prepared job).jobQueueId job.queueName) now).row db.jobs.nextId := by
  simp only [addJob] at reported
  split at reported
  next => cases reported
  next fresh =>
    obtain rfl := Option.some.inj reported
    rcases SerialTable.upserted_cases ((db.prepared job).supersede job now)
        (job.draft ((db.prepared job).taskId job.identifier)
          ((db.prepared job).jobQueueId job.queueName) now)
        (job.overwrite ((db.prepared job).taskId job.identifier)
          ((db.prepared job).jobQueueId job.queueName) now) with
      ⟨old, member, keyed, same, held, copy⟩ | ⟨-, copy⟩
    · have replaces : job.mode ≠ .unsafeDedupe := fun dedupe => fresh ⟨dedupe, held⟩
      have sameKey : old.key = job.key := same
      rcases of_mem_supersede member with ⟨before, state⟩ | ⟨_, -, -, rfl⟩
      · rw [jobs_prepared] at before
        refine .inl ⟨old, before, ⟨?_, keyed, sameKey, replaces⟩, copy⟩
        rcases state with absent | differ | unlocked | dedupe
        · exact absurd (sameKey.symm.trans absent) keyed
        · exact absurd sameKey differ
        · exact unlocked
        · exact absurd dedupe replaces
      · exact absurd sameKey.symm keyed
    · rw [nextId_supersede, jobs_prepared] at copy
      exact .inr copy

/-- Only a duplicate is dropped without a report. -/
theorem addJob_reports {db : Database} {job : NewJob} {now : Timestamp}
    (replaces : job.mode ≠ .unsafeDedupe) : ∃ written, (db.addJob now job).1 = some written := by
  simp only [addJob, replaces, false_and, if_false]
  exact ⟨_, rfl⟩

/-- The row an enqueue reports is in the queue, unlocked and with no attempt made. -/
theorem addJob_written {db : Database} {job : NewJob} {now : Timestamp} {written : JobRow}
    (reported : (db.addJob now job).1 = some written) :
    written ∈ (db.addJob now job).2.jobs.rows ∧ written.attempts = 0 ∧ written.lockedAt = none := by
  refine ⟨?_, ?_⟩
  · simp only [addJob] at reported ⊢
    split at reported
    · cases reported
    · obtain rfl := Option.some.inj reported
      exact SerialTable.upserted_mem
  · rcases addJob_reported reported with
      ⟨old, -, ⟨unlocked, -, -, replaces⟩, rfl⟩ | rfl
    · simp [NewJob.overwrite, replaces, unlocked]
    · exact ⟨rfl, rfl⟩

/-- The row an enqueue reports can be fetched as soon as the job allows one attempt. -/
theorem isAvailable_written {db : Database} {job : NewJob} {now : Timestamp} {written : JobRow}
    (reported : (db.addJob now job).1 = some written) (allows : 0 < job.maxAttempts) :
    written.isAvailable = true := by
  obtain ⟨-, fresh, unlocked⟩ := addJob_written reported
  refine JobRow.isAvailable_iff.mpr ⟨unlocked, ?_⟩
  rw [fresh]
  rcases addJob_reported reported with ⟨old, -, ⟨-, -, -, replaces⟩, rfl⟩ | rfl
  · simpa [NewJob.overwrite, replaces] using allows
  · exact allows

/-- The row an enqueue reports has the key of the job; it is a new one unless there is a key to
find an old one by. -/
theorem addJob_written_key {db : Database} {job : NewJob} {now : Timestamp} {written : JobRow}
    (reported : (db.addJob now job).1 = some written) :
    written.key = job.key ∧ (written.id = db.jobs.nextId ∨ job.key ≠ none) := by
  rcases addJob_reported reported with ⟨old, -, ⟨-, keyed, same, replaces⟩, rfl⟩ | rfl
  · refine ⟨?_, .inr keyed⟩
    simp [NewJob.overwrite, replaces, same]
  · exact ⟨rfl, .inl rfl⟩

/-- A row without the key of a new job is not touched by locked rows losing it. -/
theorem mem_supersede_of_ne {db : Database} {job : NewJob} {now : Timestamp} {row : JobRow}
    (member : row ∈ db.jobs.rows)
    (kept : job.key = none ∨ row.key ≠ job.key ∨ row.lockedAt = none) :
    row ∈ (db.supersede job now).rows := by
  refine SerialTable.mem_update.mpr ⟨row, member, ?_⟩
  rw [if_neg]
  simp only [Bool.and_eq_true, decide_eq_true_eq, Option.isSome_iff_ne_none]
  rintro ⟨⟨⟨keyed, same⟩, locked⟩, -⟩
  rcases kept with absent | differ | unlocked
  · exact keyed absent
  · exact differ same
  · exact locked unlocked

/-- An enqueue leaves the rows alone that do not have its key. -/
theorem mem_addJob_of_ne {db : Database} {job : NewJob} {now : Timestamp} {row : JobRow}
    (member : row ∈ db.jobs.rows) (other : job.key = none ∨ row.key ≠ job.key) :
    row ∈ (db.addJob now job).2.jobs.rows := by
  refine SerialTable.mem_upsert_of_ne ?_ other
  exact mem_supersede_of_ne (by simpa using member) (other.imp_right .inl)

/-- An enqueue that finds its key on an unlocked row reports that row. -/
theorem addJob_reported_id {db : Database} {job : NewJob} {now : Timestamp}
    {written row : JobRow} (reported : (db.addJob now job).1 = some written)
    (member : row ∈ db.jobs.rows) (unlocked : row.lockedAt = none) (keyed : job.key ≠ none)
    (same : row.key = job.key) : written.id = row.id := by
  have kept : row ∈ ((db.prepared job).supersede job now).rows :=
    mem_supersede_of_ne (by simpa using member) (.inr (.inr unlocked))
  simp only [addJob] at reported
  split at reported
  next => cases reported
  next =>
    obtain rfl := Option.some.inj reported
    rcases SerialTable.upserted_cases ((db.prepared job).supersede job now)
        (job.draft ((db.prepared job).taskId job.identifier)
          ((db.prepared job).jobQueueId job.queueName) now)
        (job.overwrite ((db.prepared job).taskId job.identifier)
          ((db.prepared job).jobQueueId job.queueName) now) with
      ⟨old, among, -, sameKey, -, copy⟩ | ⟨free, -⟩
    · have sameRow : old = row := SerialTable.eq_of_index_eq _ among kept
        (sameKey ▸ keyed) (sameKey.trans same.symm)
      rw [copy, NewJob.overwrite_id, sameRow]
    · rw [Bool.eq_false_iff] at free
      exact absurd (SerialTable.holds_iff.mpr ⟨keyed, row, kept, same⟩) free

/-- An enqueue never takes an id back. -/
theorem nextId_addJob (db : Database) (now : Timestamp) (job : NewJob) :
    (db.addJob now job).2.jobs.nextId = db.jobs.nextId + 1 := by
  simp only [addJob, SerialTable.upsert]
  split <;> simp [SerialTable.skip, SerialTable.insert, SerialTable.update]

/-- Every job names a task that has a row. -/
def TasksPresent (db : Database) : Prop :=
  ∀ row ∈ db.jobs.rows, ∃ task ∈ db.tasks.rows, task.id = row.taskId

theorem TasksPresent.identifier {db : Database} {row : JobRow} (tasked : db.TasksPresent)
    (member : row ∈ db.jobs.rows) :
    ∃ identifier, db.taskIdentifier? row.taskId = some identifier := by
  obtain ⟨task, among, same⟩ := tasked row member
  exact ⟨task.identifier, by
    simp [taskIdentifier?, SerialTable.get?_eq_some.mpr ⟨among, same⟩]⟩

theorem tasks_prepared (db : Database) (job : NewJob) :
    (db.prepared job).tasks = (db.withTask job.identifier).tasks := by
  unfold prepared
  split <;> rfl

/-- Preparing an enqueue keeps the rows of all tasks. -/
theorem mem_tasks_prepared {db : Database} {job : NewJob} {task : TaskRow}
    (member : task ∈ db.tasks.rows) : task ∈ (db.prepared job).tasks.rows := by
  rw [tasks_prepared]
  refine SerialTable.mem_upsert.mpr ?_
  by_cases held : db.tasks.holds (some job.identifier) = true
  · exact .inl ⟨held, task, member, by split <;> rfl⟩
  · exact .inr ⟨Bool.eq_false_iff.mpr held, .inl member⟩

/-- Once an enqueue is prepared, its task has a row. -/
theorem taskId_prepared (db : Database) (job : NewJob) :
    ∃ task ∈ (db.prepared job).tasks.rows,
      task.id = (db.prepared job).taskId job.identifier ∧ task.identifier = job.identifier := by
  obtain ⟨row, member, named⟩ : ∃ row ∈ (db.prepared job).tasks.rows,
      row.identifier = job.identifier := by
    rw [tasks_prepared]
    refine ⟨_, SerialTable.upserted_mem, ?_⟩
    rcases SerialTable.upserted_cases db.tasks _ _ with ⟨old, -, -, same, -, copy⟩ | ⟨-, copy⟩ <;>
      rw [copy]
    exact Option.some.inj same
  cases found : (db.prepared job).tasks.rows.find? fun row => row.identifier = job.identifier with
  | none =>
      have unnamed := List.find?_eq_none.mp found row member
      simp [named] at unnamed
  | some task =>
      refine ⟨task, List.mem_of_find?_eq_some found, ?_, by simpa using List.find?_some found⟩
      simp [taskId, found]

/-- So its queue, if it has one. -/
theorem jobQueueId_prepared (db : Database) (job : NewJob) {queueName : String}
    (serial : job.queueName = some queueName) :
    ∃ queue ∈ (db.prepared job).jobQueues.rows,
      (db.prepared job).jobQueueId job.queueName = some queue.id ∧
        queue.queueName = queueName := by
  have queues : (db.prepared job).jobQueues =
      ((db.withTask job.identifier).withJobQueue queueName).jobQueues := by
    simp only [prepared, serial]
  obtain ⟨row, member, named⟩ : ∃ row ∈ (db.prepared job).jobQueues.rows,
      row.queueName = queueName := by
    rw [queues]
    refine ⟨_, SerialTable.upserted_mem, ?_⟩
    rcases SerialTable.upserted_cases (db.withTask job.identifier).jobQueues _ _ with
      ⟨old, -, -, same, -, copy⟩ | ⟨-, copy⟩ <;> rw [copy]
    exact Option.some.inj same
  cases found : (db.prepared job).jobQueues.rows.find? fun row => row.queueName = queueName with
  | none =>
      have unnamed := List.find?_eq_none.mp found row member
      simp [named] at unnamed
  | some queue =>
      refine ⟨queue, List.mem_of_find?_eq_some found, ?_, by simpa using List.find?_some found⟩
      simp [jobQueueId, serial, found]

/-- An enqueue keeps them so. -/
theorem TasksPresent.addJob {db : Database} (tasked : db.TasksPresent) (now : Timestamp)
    (job : NewJob) : (db.addJob now job).2.TasksPresent := by
  have before : ∀ row ∈ db.jobs.rows,
      ∃ task ∈ (db.prepared job).tasks.rows, task.id = row.taskId := by
    intro row member
    obtain ⟨task, among, same⟩ := tasked row member
    exact ⟨task, mem_tasks_prepared among, same⟩
  have superseded : ∀ row ∈ ((db.prepared job).supersede job now).rows,
      ∃ task ∈ (db.prepared job).tasks.rows, task.id = row.taskId := by
    intro row member
    rcases of_mem_supersede member with ⟨old, -⟩ | ⟨old, oldMember, -, rfl⟩
    · exact before row (by simpa using old)
    · exact before old (by simpa using oldMember)
  obtain ⟨task, among, same, -⟩ := taskId_prepared db job
  have prepared : ∃ task ∈ (db.prepared job).tasks.rows,
      task.id = (db.prepared job).taskId job.identifier := ⟨task, among, same⟩
  intro row member
  rcases SerialTable.mem_upsert.mp member with ⟨-, old, oldMember, rfl⟩ | ⟨-, old | rfl⟩
  · split
    · simp only [NewJob.overwrite]
      split
      · exact superseded old oldMember
      · exact prepared
    · exact superseded old oldMember
  · exact superseded row old
  · exact prepared

end Database

end Backfill
