import Backfill.Client.Scan

/-!
# What a record says about its job

A requeue rebuilds a job from its DLQ row. The insert arm of both captures copies the job into the
row, as far as its columns are long enough; the conflict arm keeps what an earlier job with the same
key has left there. So a record describes its job exactly when the rows it meets already did and,
where it meets none, the job's names fit the columns.
-/

namespace Backfill

/-- The record has the job's task, payload, queue, priority and attempts; the queue of a
parallel job is recorded as the empty name. -/
structure Describes (db : Database) (job : Job) (record : DlqJob) : Prop where
  taskIdentifier : record.taskIdentifier = job.taskIdentifier
  payload : record.payload = job.payload
  parallel : job.jobQueueId = none → record.queueName = ""
  serial : ∀ name, db.queueName? job.jobQueueId = some name → record.queueName = name
  priority : record.priority = job.priority
  maxAttempts : record.maxAttempts = some job.maxAttempts

namespace Describes

variable {db : Database} {job : Job} {values : DlqInsert} {now : Timestamp} {record other : DlqJob}

/-- Bound values that were read from the job. -/
structure Bound (db : Database) (job : Job) (values : DlqInsert) : Prop where
  originalJobId : values.originalJobId = job.id
  jobKey : values.jobKey = job.key
  taskIdentifier : values.taskIdentifier = job.taskIdentifier
  payload : values.payload = job.payload
  parallel : job.jobQueueId = none → values.queueName = ""
  serial : ∀ name, db.queueName? job.jobQueueId = some name → values.queueName = name
  priority : values.priority = job.priority
  maxAttempts : values.maxAttempts = job.maxAttempts

/-- Whether a record describes a job is a matter of its description. -/
theorem congr (same : record.description = other.description) :
    Describes db job record ↔ Describes db job other := by
  simp only [DlqJob.description, Prod.mk.injEq] at same
  obtain ⟨task, payload, queue, priority, attempts⟩ := same
  constructor <;> rintro ⟨task', payload', parallel, serial, priority', attempts'⟩
  · exact ⟨task ▸ task', payload ▸ payload', queue ▸ parallel, queue ▸ serial,
      priority ▸ priority', attempts ▸ attempts'⟩
  · exact ⟨task ▸ task', payload ▸ payload', queue ▸ parallel, queue ▸ serial,
      priority ▸ priority', attempts ▸ attempts'⟩

/-- The values the scan binds for a row are those of the job. -/
theorem bound_failedJob {row : FailedJob} (joined : db.failedJob? job.toJobRow = some row)
    (named : db.taskIdentifier? job.taskId = some job.taskIdentifier) :
    Bound db job row.toInsert := by
  obtain ⟨identifier, found, rfl⟩ := Option.map_eq_some_iff.mp joined
  have same : identifier = job.taskIdentifier := Option.some.inj (found.symm.trans named)
  refine ⟨rfl, rfl, same, rfl, ?_, ?_, rfl, rfl⟩
  · intro parallel
    simp [FailedJob.toInsert, Database.queueName?, parallel]
  · intro name serial
    simp [FailedJob.toInsert, serial]

/-- The values `add_to_dlq` binds are those of the job. -/
theorem bound_toInsert {queueName reason : String} {lastError : Option Json}
    (parallel : job.jobQueueId = none → queueName = "")
    (serial : ∀ name, db.queueName? job.jobQueueId = some name → queueName = name) :
    Bound db job (job.toInsert queueName reason lastError) :=
  ⟨rfl, rfl, rfl, rfl, parallel, serial, rfl, rfl⟩

end Describes

namespace Session

/-- A successful insertion, which is the last statement of `add_to_dlq`. -/
theorem run_upsertDlq {session : Session} {table : DlqTable} {values : DlqInsert}
    {result : DlqJob} (present : session.db.dlq = .ok table)
    (added : (session.run (Client.query (.upsertDlq values))).1 = .ok result) :
    ∃ now, result = values.upsertedIn table now ∧
      (session.run (Client.query (.upsertDlq values))).2.db =
        { session.db with dlq := .ok (values.upsertInto table now) } := by
  simp only [run, Client.query, Program.run_call] at added ⊢
  rcases answered : exec (.upsertDlq values) session with ⟨reply, left⟩
  rw [answered] at added
  cases reply with
  | error error => cases added
  | ok row =>
      obtain ⟨db, executed, rfl⟩ := exec_ok answered
      simp only [Statement.exec, present, Prod.mk.injEq, Except.ok.injEq] at executed
      obtain ⟨rfl, rfl⟩ := executed
      exact ⟨_, (Except.ok.inj added).symm, rfl⟩

/-- A successful `add_to_dlq` is one insertion of values read from the job. -/
theorem run_addToDlq {session : Session} {table : DlqTable} {job : Job} {reason : String}
    {lastError : Option Json} {result : DlqJob} (present : session.db.dlq = .ok table)
    (added : (session.run (Client.addToDlq job reason lastError)).1 = .ok result) :
    ∃ values now, Describes.Bound session.db job values ∧ result = values.upsertedIn table now ∧
      (session.run (Client.addToDlq job reason lastError)).2.db =
        { session.db with dlq := .ok (values.upsertInto table now) } := by
  unfold Client.addToDlq at added ⊢
  cases queued : job.jobQueueId with
  | none =>
      simp only [queued, Client.queueNameFor, Program.pure_eq, Program.bind_done] at added ⊢
      obtain ⟨now, left⟩ := run_upsertDlq present added
      refine ⟨_, now, Describes.bound_toInsert (fun _ => rfl) ?_, left⟩
      intro name serial
      simp [Database.queueName?, queued] at serial
  | some queueId =>
      simp only [queued, Client.queueNameFor, Program.bind_assoc, Program.pure_eq,
        Program.bind_done] at added ⊢
      obtain ⟨queueName, db, executed, rest⟩ := run_query_ok added
      rw [rest] at added ⊢
      obtain ⟨rfl, rfl⟩ : (session.db.jobQueues.get? queueId).map JobQueueRow.queueName =
          queueName ∧ session.db = db := by
        simpa only [Statement.exec, Prod.mk.injEq, Except.ok.injEq] using executed
      have later : (session.after 1 session.db).db.dlq = .ok table := present
      obtain ⟨now, left⟩ := run_upsertDlq later added
      refine ⟨_, now, Describes.bound_toInsert ?_ ?_, left⟩
      · intro parallel
        simp [queued] at parallel
      · intro name serial
        have named : (session.db.jobQueues.get? queueId).map JobQueueRow.queueName =
            some name := by
          simpa [Database.queueName?, queued] using serial
        simp [named]

end Session

namespace Session

/-- What a pass that takes a job out of the queue is. -/
theorem passed_of_gone {session : Session} {table : DlqTable} {job : Job} {ties : ScanOrder}
    (present : session.db.dlq = .ok table) (queued : job.toJobRow ∈ session.db.jobs.rows)
    (gone : ∀ r ∈ (session.pass ties).db.jobs.rows, r.id ≠ job.id) :
    ∃ table', (session.pass ties).db.dlqRows = table'.rows ∧
      Passed session.db table (session.passMoved (ties.batch session.db))
        (session.pass ties).db table' ∧
      ∃ row ∈ session.passMoved (ties.batch session.db),
        session.db.failedJob? job.toJobRow = some row ∧ ¬ session.db.Recorded job.id := by
  have accepted : session.Accepts 0 .findFailedJobs := by
    by_contra refused
    obtain ⟨error, fault⟩ := Option.ne_none_iff_exists'.mp refused
    rw [pass_refused fault] at gone
    exact gone job.toJobRow queued rfl
  obtain ⟨ran, passed⟩ := pass_accepted ties present accepted
  rw [ran] at gone ⊢
  obtain ⟨row, among, same⟩ : ∃ row ∈ session.passMoved (ties.batch session.db),
      row.id = job.id := by
    by_contra kept
    refine gone job.toJobRow ((passed.jobs_iff _).mpr ⟨queued, ?_⟩) rfl
    exact fun row among same => kept ⟨row, among, same.symm⟩
  obtain ⟨old, member, -, unrecorded, joined⟩ :=
    ScanOrder.of_mem_batch ((session.passMoved_sublist _).subset among)
  obtain rfl : old = job.toJobRow :=
    session.db.jobs.eq_of_id_eq member queued ((Database.failedJob?_id joined).symm.trans same)
  exact ⟨_, Database.dlqRows_ok passed.present, passed, row, among, joined, unrecorded⟩

/-- A job with the columns of the one in `failedInvoice payload`, whose id is `1`. -/
def invoice (id : Int) (payload : Json) : Job where
  id := id
  jobQueueId := none
  taskId := 1
  payload := payload
  priority := 0
  runAt := 0
  attempts := 1
  maxAttempts := 1
  lastError := some "boom"
  createdAt := 0
  updatedAt := 0
  key := some "invoice"
  lockedAt := none
  lockedBy := none
  taskIdentifier := "send_email"

end Session

end Backfill
