import Backfill.Admin.Dlq
import Backfill.Admin.DlqEntry
import Backfill.Admin.Jobs
import Backfill.Admin.LockTimeouts
import Backfill.Client.CounterTruth
import Backfill.Misc.AllOrNothing

/-!
# Requests that fail (`admin.rs:504`, `admin.rs:660`, `admin.rs:1220`)

A handler of the admin API sends its statements one by one, without a transaction around them. Any
number of requests may be served at once, next to everybody else who works on the database. A
request that is answered with an error has changed nothing all the same: the statements that change
the database come so late in a handler that it cannot fail behind them. The lock cleanup is the
exception. It may have released locks when it fails, and has done nothing else.
-/

namespace Backfill

/-- The requests whose handlers work through the client. A cleanup of the DLQ has its cutoff date by
then. -/
inductive AdminRequest
  | enqueueJob (req : EnqueueJobRequest)
  | listDlqJobs (params : DlqQueryParams)
  | getDlqJob (dlqId : Int)
  | deleteDlqJob (dlqId : Int)
  | requeueDlqJob (dlqId : Int)
  | cleanupDlq (req : DlqCleanupRequest) (cutoffDate : Timestamp)
  | batchRequeueDlqJobs (req : DlqBatchRequeueRequest)
  | batchDeleteDlqJobs (req : DlqBatchDeleteRequest)
  | locksCleanup (req : LocksCleanupRequest)

/-- What they are answered with when all is well. -/
inductive AdminResponse
  | enqueued (response : EnqueueJobResponse)
  | page (response : DlqPageResponse)
  | entry (job : DlqJob)
  | noContent
  | requeued (response : DlqRequeueResponse)
  | cleanedUp (response : DlqCleanupResponse)
  | batchRequeued (response : DlqBatchRequeueResponse)
  | batchDeleted (response : DlqBatchDeleteResponse)
  | locksCleanedUp (response : LocksCleanupResponse)

/-- Nothing has happened to the database but that locks were released. -/
structure Database.OnlyUnlocks (before after : Database) : Prop where
  tasks : after.tasks = before.tasks
  dlq : after.dlq = before.dlq
  jobs : ∃ released, after.jobs = before.jobs.update released JobRow.unlock
  jobQueues : ∃ released, after.jobQueues = before.jobQueues.update released JobQueueRow.unlock

namespace AdminRequest

/-- The handler of a request. -/
def handler : AdminRequest → Handler AdminResponse
  | enqueueJob req => do
      let response ← Handler.enqueueJob req
      pure (.enqueued response)
  | listDlqJobs params => do
      let response ← Handler.listDlqJobs params
      pure (.page response)
  | getDlqJob dlqId => do
      let job ← Handler.getDlqJob dlqId
      pure (.entry job)
  | deleteDlqJob dlqId => do
      let _ ← Handler.deleteDlqJob dlqId
      pure .noContent
  | requeueDlqJob dlqId => do
      let response ← Handler.requeueDlqJob dlqId
      pure (.requeued response)
  | cleanupDlq req cutoffDate => do
      let response ← Handler.cleanupDlqBefore req cutoffDate
      pure (.cleanedUp response)
  | batchRequeueDlqJobs req => do
      let response ← Handler.batchRequeueDlqJobs req
      pure (.batchRequeued response)
  | batchDeleteDlqJobs req => do
      let response ← Handler.batchDeleteDlqJobs req
      pure (.batchDeleted response)
  | locksCleanup req => do
      let response ← Handler.locksCleanup req
      pure (.locksCleanedUp response)

/-- What the statements of a request may make of the database when it fails in the end. -/
def Spares : AdminRequest → Database → Database → Prop
  | locksCleanup req, before, after =>
      if req.dryRun.getD false then before = after else before.OnlyUnlocks after
  | _, before, after => before = after

end AdminRequest

/-- The requests that are served on one database, beside whoever else writes to it. -/
abbrev AdminService : Type :=
  Service Database AdminRequest Statement Statement.Reply AdminError AdminResponse

abbrev AdminServiceAction : Type :=
  ServiceAction Database AdminRequest (Timestamp × Option ForeignError)

/-- One step of the service. -/
abbrev AdminService.step : AdminService → AdminServiceAction → Option AdminService :=
  Service.step AdminRequest.handler MeteredClient.perform

open MeteredClient (perform)

/-- The statements that only read. -/
def Statement.Reads : Statement → Bool
  | findFailedJobs | queueName _ | dlqRelation | countStaleQueueLocks _ | countStaleJobLocks _
  | countFailedJobs | getDlqJob _ | listDlqJobs _ | countDlqJobs _ => true
  | _ => false

theorem Statement.exec_of_reads {s : Statement} (reads : s.Reads = true) (now : Timestamp)
    (db : Database) : (s.exec now db).2 = db := by
  cases s with
  | findFailedJobs => simp only [exec]; split <;> rfl
  | getDlqJob dlqId => simp only [exec]; split <;> rfl
  | countDlqJobs filter => simp only [exec]; split <;> rfl
  | listDlqJobs filter =>
      simp only [exec]
      split
      · rfl
      · split
        · rfl
        · split <;> rfl
  | queueName jobQueueId => rfl
  | dlqRelation => rfl
  | countStaleQueueLocks secs => rfl
  | countStaleJobLocks secs => rfl
  | countFailedJobs => rfl
  | _ => cases reads

/-- They leave the database alone, refused or not. -/
theorem perform_of_reads {s : Statement} (reads : s.Reads = true)
    (e : Timestamp × Option ForeignError) (db : Database) : (perform e s db).2 = db := by
  obtain ⟨now, fault⟩ := e
  cases fault with
  | some error => rfl
  | none => exact s.exec_of_reads reads now db

namespace Database.OnlyUnlocks

variable {db : Database}

theorem refl : db.OnlyUnlocks db where
  tasks := rfl
  dlq := rfl
  jobs := ⟨fun _ => false, (SerialTable.update_of_unmet fun _ _ => rfl).symm⟩
  jobQueues := ⟨fun _ => false, (SerialTable.update_of_unmet fun _ _ => rfl).symm⟩

theorem releasedQueues (cutoff : Timestamp) : db.OnlyUnlocks (db.releasedQueues cutoff) :=
  { refl with jobQueues := ⟨_, rfl⟩ }

theorem releasedJobs (cutoff : Timestamp) : db.OnlyUnlocks (db.releasedJobs cutoff) :=
  { refl with jobs := ⟨_, rfl⟩ }

end Database.OnlyUnlocks

namespace Client

section Queries

variable {spares : Database → Database → Prop} {α β ε : Type}

/-- A query that is not refused spares the database, or else returns rows that meet `post`. -/
theorem allOrNothing_query {s : Statement} {post : s.Rows → Prop}
    (idle : ∀ db, spares db db)
    (answered : ∀ now db, spares db (s.exec now db).2 ∨
      ∃ rows, (s.exec now db).1 = .ok rows ∧ post rows) :
    (query s).AllOrNothing perform spares post := by
  rintro ⟨now, fault⟩ db
  cases fault with
  | some error => exact .inl ⟨idle db, trivial⟩
  | none =>
      simp only [perform, Statement.answer_none]
      rcases answered now db with spared | ⟨rows, ok, met⟩
      · refine .inl ⟨spared, ?_⟩
        cases (s.exec now db).1 <;> trivial
      · rw [ok]
        exact .inr met

/-- A query that only reads. -/
theorem calls_reads {s : Statement} (reads : s.Reads = true) :
    (query s).Calls fun s => s.Reads = true :=
  calls_query (I := fun s => s.Reads = true) reads

/-- What sends nothing but such queries leaves it open what comes next. -/
theorem allOrNothing_bind_of_reads {p : Program Statement Statement.Reply ε α}
    {f : α → Program Statement Statement.Reply ε β} {post : β → Prop}
    (idle : ∀ db, spares db db) (reads : p.Calls fun s => s.Reads = true)
    (second : ∀ value, (f value).AllOrNothing perform spares post) :
    (p >>= f).AllOrNothing perform spares post :=
  reads.bind_allOrNothing
    (fun _ reads e db => (perform_of_reads reads e db).symm ▸ idle db) second

theorem calls_listDlqJobs (filter : DlqFilter) :
    (listDlqJobs filter).Calls fun s => s.Reads = true :=
  (calls_reads rfl).bind fun _ => (calls_reads rfl).bind fun _ => Program.calls_done _

end Queries

section Enqueues

variable {taskIdentifier : String} {payload : Json}

/-- An `add_job` that replaces whatever has the key of the job returns a row. -/
theorem allOrNothing_addRawJob {spec : GraphileJobSpec}
    (replaces : ∀ now, (spec.newJob taskIdentifier payload now).mode ≠ .unsafeDedupe) :
    (addRawJob taskIdentifier payload spec).AllOrNothing perform Eq
      fun result => ∃ job, result = .ok job := by
  rintro ⟨now, fault⟩ db
  cases fault with
  | some error => exact .inl ⟨rfl, trivial⟩
  | none =>
      obtain ⟨written, reported⟩ : ∃ written,
          (db.addJob now (spec.newJob taskIdentifier payload now)).1 = some written :=
        Database.addJob_reports (replaces now)
      simp only [perform, Statement.answer_none, Statement.exec, reported, Option.map_some]
      exact .inr ⟨_, rfl⟩

/-- So an enqueue that changes the queue enqueues. -/
theorem allOrNothing_enqueue {spec : JobSpec}
    (replaces : ∀ now,
      (spec.toGraphile.newJob taskIdentifier payload now).mode ≠ .unsafeDedupe) :
    (enqueue taskIdentifier payload spec).AllOrNothing perform Eq
      fun outcome => ∃ job, outcome = .enqueued job := by
  refine (allOrNothing_addRawJob replaces).bind (fun result => ?_) ?_
  · cases result with
    | ok job => trivial
    | error e =>
        simp only [enqueueOutcome]
        split
        · split <;> trivial
        · trivial
  · rintro result ⟨job, rfl⟩
    exact ⟨job, rfl⟩

/-- A requeue that has enqueued does not fail for the count. -/
theorem allOrNothing_requeueDlqJob (dlqId : Int) (notes : Option String) :
    (requeueDlqJob dlqId notes).AllOrNothing perform Eq fun _ => True := by
  refine allOrNothing_bind_of_reads (fun _ => rfl) (calls_reads rfl) fun dlqJob => ?_
  cases dlqJob with
  | none => trivial
  | some record =>
      refine (allOrNothing_enqueue fun now => ?_).bind (fun outcome => ?_) ?_
      · rw [record.mode_newJob]
        decide
      · cases outcome with
        | enqueued job => exact fun e db => .inr trivial
        | alreadyInProgress jobKey => trivial
      · rintro outcome ⟨job, rfl⟩
        exact fun e db => trivial

end Enqueues

/-- A deletion that changes the DLQ reports one. -/
theorem allOrNothing_deleteDlqJob (dlqId : Int) :
    (deleteDlqJob dlqId).AllOrNothing perform Eq fun deleted => deleted = true := by
  have queried : (query (.deleteDlqJob dlqId)).AllOrNothing perform Eq
      fun task => task.isSome = true := by
    refine allOrNothing_query (fun _ => rfl) fun now db => ?_
    cases present : db.dlq with
    | error missing => simp only [Statement.exec, present, true_or]
    | ok table =>
        simp only [Statement.exec, present]
        cases found : table.get? dlqId with
        | none =>
            -- the entry is missing, and deleting it leaves the table as it is
            left
            rw [SerialTable.delete_of_unmet fun row member => decide_eq_false
              (SerialTable.get?_eq_none.mp found row member), ← present]
        | some row => exact .inr ⟨_, rfl, rfl⟩
  exact queried.bind (fun _ => trivial) fun _ found => found

/-- The deletion of the failed jobs is the last statement of a cleanup whose refusal matters. -/
theorem allOrNothing_cleanupPermanentlyFailedJobs :
    cleanupPermanentlyFailedJobs.AllOrNothing perform Database.OnlyUnlocks fun _ => True := by
  have queried : (query .deleteFailedJobs).AllOrNothing perform Database.OnlyUnlocks
      fun _ => True :=
    allOrNothing_query (fun _ => .refl) fun now db => .inr ⟨_, rfl, trivial⟩
  have looksUp : ∀ deleted : Nat, (if 0 < deleted then
      Program.call .dlqRelation fun _ => .done deleted else pure deleted : Client Nat).Succeeds
        perform fun _ => True := by
    intro deleted
    split
    · exact fun e db => trivial
    · trivial
  exact queried.bind (fun deleted => (looksUp deleted).allOrNothing) fun deleted _ =>
    looksUp deleted

/-- The releases come before it. -/
theorem allOrNothing_startupCleanup (queueLockTimeout jobLockTimeout : Duration) :
    (startupCleanupWithTimeouts queueLockTimeout jobLockTimeout).AllOrNothing perform
      Database.OnlyUnlocks fun _ => True := by
  -- a release is spared whatever it is answered, so nothing is asked of what follows one
  have queues : (releaseStaleQueueLocks queueLockTimeout).AllOrNothing perform
      Database.OnlyUnlocks fun _ => False :=
    allOrNothing_query (fun _ => .refl) fun now db => .inl (.releasedQueues _)
  have jobs : (releaseStaleJobLocks jobLockTimeout).AllOrNothing perform
      Database.OnlyUnlocks fun _ => False :=
    allOrNothing_query (fun _ => .refl) fun now db => .inl (.releasedJobs _)
  refine queues.bind (fun queueLocksReleased => ?_) fun _ never => never.elim
  refine jobs.bind (fun jobLocksReleased => ?_) fun _ never => never.elim
  exact allOrNothing_cleanupPermanentlyFailedJobs.bind (fun _ => trivial) fun _ _ => trivial

end Client

/-- The handler never asks for a mode, and the default replaces. -/
theorem EnqueueJobRequest.mode_newJob (req : EnqueueJobRequest) (now : Timestamp) :
    (req.toSpec.toGraphile.newJob req.taskIdentifier req.payload now).mode = .replace := by
  cases keyed : req.jobKey <;>
    simp [GraphileJobSpec.newJob, JobSpec.toGraphile, EnqueueJobRequest.toSpec, JobSpec.default,
      keyed]

namespace Handler

/-- The loops over a page answer to no refusal. -/
theorem succeeds_deleteJobs (jobs : List DlqJob) (deletedCount : UInt32)
    (affectedTasks : Finset String) :
    (deleteJobs jobs deletedCount affectedTasks).Succeeds perform fun _ => True := by
  induction jobs generalizing deletedCount affectedTasks with
  | nil => trivial
  | cons job jobs ih =>
      refine (Program.Succeeds.attempt _).bind fun result _ => ?_
      split
      · exact ih _ _
      · exact ih _ _

theorem succeeds_requeueJobs (notes : Option String) (jobs : List DlqJob)
    (requeued : Requeued) :
    (requeueJobs notes jobs requeued).Succeeds perform fun _ => True := by
  induction jobs generalizing requeued with
  | nil => trivial
  | cons job jobs ih =>
      refine (Program.Succeeds.attempt _).bind fun result _ => ?_
      cases result with
      | ok job => exact ih _
      | error e => exact ih _

theorem calls_queryDlq_reads (filter : DlqFilter) :
    (queryDlq filter).Calls fun s => s.Reads = true :=
  (Client.calls_listDlqJobs filter).mapError.bind fun _ => Program.calls_done _

/-- What a batch does with its page comes after statements that only read. -/
theorem allOrNothing_batch {α : Type} {spares : Database → Database → Prop} {filter : DlqFilter}
    {f : List DlqJob → Handler α} (idle : ∀ db, spares db db)
    (second : ∀ jobs, (f jobs).Succeeds perform fun _ => True) :
    (queryDlq filter >>= f).AllOrNothing perform spares fun _ => True :=
  Client.allOrNothing_bind_of_reads idle (calls_queryDlq_reads filter) fun jobs =>
    (second jobs).allOrNothing

theorem calls_count_reads {s : Statement} (reads : s.Reads = true) :
    (count s).Calls fun s => s.Reads = true := by
  refine ⟨reads, fun reply => ?_⟩
  cases reply <;> trivial

/-- A dry run only counts. -/
theorem allOrNothing_locksCleanup (req : LocksCleanupRequest) :
    (locksCleanup req).AllOrNothing perform (AdminRequest.locksCleanup req).Spares
      fun _ => True := by
  cases dry : req.dryRun.getD false with
  | true =>
      have spares : (AdminRequest.locksCleanup req).Spares = Eq := by
        funext before after
        simp only [AdminRequest.Spares, dry, if_true]
      simp only [spares, locksCleanup, dry, if_true]
      refine Client.allOrNothing_bind_of_reads (fun _ => rfl) (calls_count_reads rfl) fun _ => ?_
      refine Client.allOrNothing_bind_of_reads (fun _ => rfl) (calls_count_reads rfl) fun _ => ?_
      exact Client.allOrNothing_bind_of_reads (fun _ => rfl) (calls_count_reads rfl)
        fun _ => trivial
  | false =>
      have spares : (AdminRequest.locksCleanup req).Spares = Database.OnlyUnlocks := by
        funext before after
        simp only [AdminRequest.Spares, dry, Bool.false_eq_true, if_false]
      simp only [spares, locksCleanup, dry, Bool.false_eq_true, if_false]
      have cleans := Client.allOrNothing_startupCleanup req.queueLockTimeout req.jobLockTimeout
      exact cleans.mapError.bind (fun _ => trivial) fun _ _ => trivial

/-- To wrap a value into a response sends nothing. -/
theorem allOrNothing_responds {α : Type} {spares : Database → Database → Prop} {p : Handler α}
    {respond : α → AdminResponse} (allOrNothing : p.AllOrNothing perform spares fun _ => True) :
    (p >>= fun value => pure (respond value)).AllOrNothing perform spares fun _ => True :=
  allOrNothing.bind (fun _ => trivial) fun _ _ => trivial

end Handler

/-- Every handler is all or nothing. -/
theorem AdminRequest.allOrNothing (request : AdminRequest) :
    request.handler.AllOrNothing perform request.Spares fun _ => True := by
  cases request with
  | enqueueJob req =>
      have replaces : ∀ now, (req.toSpec.toGraphile.newJob req.taskIdentifier req.payload
          now).mode ≠ .unsafeDedupe := by
        intro now
        rw [req.mode_newJob]
        decide
      refine Handler.allOrNothing_responds ?_
      refine (Client.allOrNothing_enqueue replaces).mapError.bind (fun outcome => ?_) ?_
      · cases outcome <;> trivial
      · rintro outcome ⟨job, rfl⟩
        trivial
  | listDlqJobs params =>
      have reads : (Handler.listDlqJobs params).Calls fun s => s.Reads = true :=
        (Client.calls_listDlqJobs _).mapError.bind fun _ => Program.calls_done _
      exact Client.allOrNothing_bind_of_reads (fun _ => rfl) reads fun _ => trivial
  | getDlqJob dlqId =>
      have reads : (Handler.getDlqJob dlqId).Calls fun s => s.Reads = true := by
        refine (Client.calls_reads rfl).mapError.bind fun found => ?_
        cases found <;> trivial
      exact Client.allOrNothing_bind_of_reads (fun _ => rfl) reads fun _ => trivial
  | deleteDlqJob dlqId =>
      refine Handler.allOrNothing_responds ?_
      refine (Client.allOrNothing_deleteDlqJob dlqId).mapError.bind (fun deleted => ?_) ?_
      · cases deleted <;> trivial
      · rintro deleted rfl
        trivial
  | requeueDlqJob dlqId =>
      refine Handler.allOrNothing_responds ?_
      exact (Client.allOrNothing_requeueDlqJob dlqId none).mapError.bind (fun _ => trivial)
        fun _ _ => trivial
  | cleanupDlq req cutoffDate =>
      refine Handler.allOrNothing_responds ?_
      refine Handler.allOrNothing_batch (fun _ => rfl) fun jobs => ?_
      split
      · trivial
      · exact (Handler.succeeds_deleteJobs jobs 0 ∅).bind fun _ _ => trivial
  | batchRequeueDlqJobs req =>
      refine Handler.allOrNothing_responds ?_
      refine Handler.allOrNothing_batch (fun _ => rfl) fun jobs => ?_
      split
      · trivial
      · exact (Handler.succeeds_requeueJobs req.notes jobs _).bind fun _ _ => trivial
  | batchDeleteDlqJobs req =>
      refine Handler.allOrNothing_responds ?_
      refine Handler.allOrNothing_batch (fun _ => rfl) fun jobs => ?_
      split
      · trivial
      · exact (Handler.succeeds_deleteJobs jobs 0 ∅).bind fun _ _ => trivial
  | locksCleanup req =>
      exact Handler.allOrNothing_responds (Handler.allOrNothing_locksCleanup req)

namespace AdminService

/-- Whatever else is served on the database, and whatever others make of it between two statements:
a request that is answered with an error has changed nothing. A lock cleanup may have released
locks. -/
theorem failed_requests_spare {db : Database} {as : List AdminServiceAction} {s : AdminService}
    (path : Transition.Run step (fun _ _ => True) ⟨db, []⟩ as s) :
    ∀ c ∈ s.calls, ∀ e, c.program = .fail e →
      ∀ change ∈ c.changes, c.request.Spares change.1 change.2 :=
  Service.failed_spares AdminRequest.allOrNothing path

/-- How many queues are locked. -/
def lockedQueues (db : Database) : Nat := db.jobQueues.rows.countP fun row => row.lockedAt.isSome

/-- A lock cleanup is called, releases the lock of a queue and is refused its second statement. -/
def releasedQueue : List AdminServiceAction :=
  [.call (.locksCleanup Session.defaultLocksCleanup), .go 0 (600000000, none),
    .go 0 (600000000, some rowNotFound)]

/-- It fails, and its statements have changed the lock and nothing else. -/
theorem failed_requests_spare_releasedQueue :
    ∃ s, Transition.Run step (fun _ _ => True) ⟨Session.queueLocked 0, []⟩ releasedQueue s ∧
      ∃ c ∈ s.calls, ∃ e, c.program = .fail e ∧
        c.changes.map (fun change => (lockedQueues change.1, lockedQueues change.2)) =
          [(1, 0), (0, 0)] ∧
        ∀ change ∈ c.changes, c.request.Spares change.1 change.2 := by
  have path : Transition.Run step (fun _ _ => True) ⟨Session.queueLocked 0, []⟩ releasedQueue _ :=
    .of_run (by simp) rfl
  have spares := failed_requests_spare path _ (List.mem_of_getElem? (i := 0) rfl) _ rfl
  exact ⟨_, path, _, List.mem_of_getElem? (i := 0) rfl, _, rfl, by decide, spares⟩

end AdminService

end Backfill
