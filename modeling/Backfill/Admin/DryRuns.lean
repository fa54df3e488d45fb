import Backfill.Admin.Dlq
import Backfill.Client.CleanupOutcome
import Backfill.Misc.ListFacts

/-!
# What a dry run predicts

Four endpoints of the admin API take `dry_run`. The three of the DLQ ask for the same page either
way and count its rows, and alone nothing comes between a row and its deletion or requeue; but rows
that failed at the same time may come in another order the second time, and then the page has others
of them. The lock cleanup counts all it would do in the state it starts from, while its real run
deletes jobs whose locks it has released itself.
-/

namespace Backfill

open Paging

/-- In which order the database returns rows that failed at the same time: for each filter and
table one of the orders in which the rows that match are sorted. -/
structure TieOrder where
  order : DlqFilter → DlqTable → List DlqJob
  arranged : ∀ filter table, Arranged DlqJob.failedAt (filter.matching table) (order filter table)

namespace TieOrder

/-- The page of a listing. -/
def page (ties : TieOrder) (filter : DlqFilter) (table : DlqTable) : List DlqJob :=
  ((ties.order filter table).drop (filter.offset.getD 0).toNat).take (filter.limit.getD 50).toNat

/-- The order the rows of a statement come in, if it lists any. -/
def orderFor (ties : TieOrder) : Statement → Database → List DlqJob
  | .listDlqJobs filter, db =>
      match db.dlq with
      | .ok table => ties.order filter table
      | .error _ => []
  | _, _ => []

/-- The order of `DlqFilter.page`. -/
instance : Inhabited TieOrder where
  default :=
    { order := fun filter table =>
        (filter.matching table).insertionSort fun a b => b.failedAt ≤ a.failedAt
      arranged := DlqFilter.arranged }

/-- Any order in which the rows of one listing are sorted is possible. -/
theorem exists_order {filter : DlqFilter} {table : DlqTable} {order : List DlqJob}
    (arranged : Arranged DlqJob.failedAt (filter.matching table) order) :
    ∃ ties : TieOrder, ties.order filter table = order := by
  classical
  refine ⟨⟨fun filter' table' =>
    if Arranged DlqJob.failedAt (filter'.matching table') order then order
    else (filter'.matching table').insertionSort fun a b => b.failedAt ≤ a.failedAt, ?_⟩,
    if_pos arranged⟩
  intro filter' table'
  split
  next same => exact same
  next => exact filter'.arranged table'

/-- The rows of a page stand in the table, each once. -/
theorem page_of_table (ties : TieOrder) (filter : DlqFilter) (table : DlqTable) :
    (∀ job ∈ ties.page filter table, job ∈ table.rows) ∧ (ties.page filter table).Nodup := by
  have perm := (ties.arranged filter table).perm
  have sub : (ties.page filter table).Sublist (ties.order filter table) :=
    (List.take_sublist ..).trans (List.drop_sublist ..)
  refine ⟨fun job member => ?_, sub.nodup (perm.nodup_iff.mpr (table.nodup.filter _))⟩
  exact List.mem_of_mem_filter (perm.mem_iff.mp (sub.subset member))

end TieOrder

/-- The page of the filter names the same tasks whatever order the rows come in that failed at the
same time. -/
def DlqFilter.CutSettled (filter : DlqFilter) (db : Database) : Prop :=
  LabelsSettled DlqJob.failedAt DlqJob.taskIdentifier (db.dlqRows.filter filter.selects)
    (filter.limit.getD 50).toNat

/-- The counts of a response and the tasks it names. -/
structure Report where
  counts : List Nat
  affectedTasks : Finset String
deriving DecidableEq

def LocksCleanupResponse.report (response : LocksCleanupResponse) : Report :=
  ⟨[response.queueLocksReleased, response.jobLocksReleased, response.failedJobsDeleted], ∅⟩

def DlqCleanupResponse.report (response : DlqCleanupResponse) : Report :=
  ⟨[response.deletedCount.toNat], response.affectedTasks⟩

def DlqBatchRequeueResponse.report (response : DlqBatchRequeueResponse) : Report :=
  ⟨[response.requeuedCount.toNat, response.failedCount.toNat], response.affectedTasks⟩

def DlqBatchDeleteResponse.report (response : DlqBatchDeleteResponse) : Report :=
  ⟨[response.deletedCount.toNat], response.affectedTasks⟩

/-- A request to one of the endpoints that take `dry_run`. -/
inductive BatchRequest
  | locksCleanup (req : LocksCleanupRequest)
  | dlqCleanup (req : DlqCleanupRequest)
  | batchRequeue (req : DlqBatchRequeueRequest)
  | batchDelete (req : DlqBatchDeleteRequest)

namespace BatchRequest

/-- The handler of the request, sent with this `dry_run`; `none` where it panics. -/
def serve (chrono : Chrono) (requestedAt : Timestamp) (dryRun : Bool) :
    BatchRequest → Option (Handler Report)
  | locksCleanup req =>
      some (LocksCleanupResponse.report <$>
        Handler.locksCleanup { req with dryRun := some dryRun })
  | dlqCleanup req =>
      (Handler.cleanupDlq chrono requestedAt { req with dryRun := some dryRun }).map
        (DlqCleanupResponse.report <$> ·)
  | batchRequeue req =>
      some (DlqBatchRequeueResponse.report <$>
        Handler.batchRequeueDlqJobs { req with dryRun := some dryRun })
  | batchDelete req =>
      some (DlqBatchDeleteResponse.report <$>
        Handler.batchDeleteDlqJobs { req with dryRun := some dryRun })

/-- The state a dry run can foretell the real run from. No exhausted job has a lock that the real
run releases, and it releases no lock that the dry run does not count: the two read the seconds of a
threshold differently from `2 ^ 63` on. And no task of the page depends on the order of rows that
failed at the same time. -/
def Foretold (now : Timestamp) (db : Database) (chrono : Chrono) (requestedAt : Timestamp) :
    BatchRequest → Prop
  | locksCleanup req =>
      (∀ row ∈ db.jobQueues.rows,
        lockedBefore (lockCutoff now (asI64 req.queueLockTimeout.asSecs)) row.lockedAt = true →
          lockedBefore (lockCutoff now req.queueLockTimeout.asSecs) row.lockedAt = true) ∧
      (∀ row ∈ db.jobs.rows,
        lockedBefore (lockCutoff now (asI64 req.jobLockTimeout.asSecs)) row.lockedAt = true →
          lockedBefore (lockCutoff now req.jobLockTimeout.asSecs) row.lockedAt = true) ∧
      ∀ row ∈ db.jobs.rows, row.exhausted = true →
        lockedBefore (lockCutoff now (asI64 req.jobLockTimeout.asSecs)) row.lockedAt = false
  | dlqCleanup req => ∀ cutoffDate, req.cutoffDate chrono requestedAt = some cutoffDate →
      (req.filter cutoffDate).CutSettled db
  | batchRequeue req => req.filter.CutSettled db
  | batchDelete req => req.filter.CutSettled db

end BatchRequest

namespace Session

/-- Send one statement, with this order of rows that tie. -/
def execBy (ties : TieOrder) (s : Statement) (session : Session) :
    Statement.Reply s × Session :=
  match (session.upcoming 0).fault s with
  | some error => (.error error, session.after 1 session.db)
  | none =>
      let answer := s.execIn (ties.orderFor s session.db) (session.upcoming 0).now session.db
      (answer.1, session.after 1 answer.2)

/-- Run a routine with no other writer and this order of rows that tie. -/
def runBy {ε α : Type} (ties : TieOrder) (session : Session)
    (routine : Program Statement Statement.Reply ε α) : Except ε α × Session :=
  routine.run (execBy ties) session

/-- The response to a request; there is none where the handler panics. -/
def respond {α : Type} (ties : TieOrder) (session : Session) :
    Option (Handler α) → Option (Except AdminError α) × Session
  | none => (none, session)
  | some handler => (some (session.runBy ties handler).1, (session.runBy ties handler).2)

/-- A dry run and then the real run, while nobody else writes and rows that tie come in any order
each time: the dry run leaves the database alone, and the real run reports what it has reported. -/
def Predicts (now : Timestamp) (db : Database) (chrono : Chrono) (requestedAt : Timestamp)
    (request : BatchRequest) : Prop :=
  ∀ ties ties' : TieOrder,
    let dry := (undisturbed now db).respond ties (request.serve chrono requestedAt true)
    dry.2.db = db ∧ dry.1 = (dry.2.respond ties' (request.serve chrono requestedAt false)).1

variable {now : Timestamp} {db : Database}

/-- What lists no page runs the same in every order. -/
theorem runBy_eq {ε α : Type} (ties : TieOrder) (session : Session)
    {p : Program Statement Statement.Reply ε α}
    (calls : p.Calls fun s => ∀ filter, s ≠ .listDlqJobs filter) :
    session.runBy ties p = session.run p := by
  refine Program.run_congr (fun s session other => ?_) calls session
  unfold execBy
  cases fault : (session.upcoming 0).fault s with
  | some error => rw [exec_refused fault]
  | none =>
      rw [exec_accepted fault]
      cases s with
      | listDlqJobs filter => exact absurd rfl (other filter)
      | _ => rfl

theorem runBy_map {ε α β : Type} (ties : TieOrder) (session : Session) (g : α → β)
    (p : Program Statement Statement.Reply ε α) :
    session.runBy ties (g <$> p) = ((session.runBy ties p).1.map g, (session.runBy ties p).2) :=
  Program.run_map (execBy ties) g p session

/-- The page a batch is about is read without a change, or it is refused in every order. -/
theorem runBy_queryDlq (now : Timestamp) (db : Database) (filter : DlqFilter) :
    (∃ error, (db.dlqRows = [] ∨ filter.limit.getD 50 < 0 ∨ filter.offset.getD 0 < 0) ∧
      ∀ ties, (undisturbed now db).runBy ties (Handler.queryDlq filter) =
        (.error error, undisturbed now db)) ∨
    ∃ table, db.dlq = .ok table ∧ ∀ ties,
      (undisturbed now db).runBy ties (Handler.queryDlq filter) =
        (.ok (ties.page filter table), undisturbed now db) := by
  have refused : ∀ e, (∀ order, Statement.execIn order now (.listDlqJobs filter) db =
      (.error e, db)) → ∃ error, ∀ ties, (undisturbed now db).runBy ties
        (Handler.queryDlq filter) = (.error error, undisturbed now db) := by
    intro e answered
    refine ⟨⟨500, "Failed to query DLQ: " ++ (BackfillError.sqlxError e).display, "QUERY_ERROR"⟩,
      fun ties => ?_⟩
    simp only [runBy, Handler.queryDlq, Client.listDlqJobs, Client.query, Program.bind_call,
      Program.run_bind, Program.run_mapError, Program.run_call, execBy, undisturbed, answered]
    rfl
  cases present : db.dlq with
  | error missing =>
      obtain ⟨error, ran⟩ := refused missing fun order => by
        simp only [Statement.execIn, Statement.exec, present]
      exact .inl ⟨error, .inl (by simp only [Database.dlqRows, present]), ran⟩
  | ok table =>
      by_cases start : filter.offset.getD 0 < 0
      · obtain ⟨error, ran⟩ := refused (.database "OFFSET must not be negative") fun order => by
          simp only [Statement.execIn, Statement.exec, present, if_pos start]
        exact .inl ⟨error, .inr (.inr start), ran⟩
      · by_cases rows : filter.limit.getD 50 < 0
        · obtain ⟨error, ran⟩ := refused (.database "LIMIT must not be negative") fun order => by
            simp only [Statement.execIn, Statement.exec, present, if_neg start, if_pos rows]
          exact .inl ⟨error, .inr (.inl rows), ran⟩
        · refine .inr ⟨table, rfl, fun ties => ?_⟩
          have listed : Statement.execIn (ties.order filter table) now (.listDlqJobs filter) db =
              (.ok (ties.page filter table), db) := by
            simp only [Statement.execIn, Statement.exec, present, if_neg start, if_neg rows]
            rfl
          have counted : Statement.execIn [] now (.countDlqJobs filter) db =
              (.ok (filter.matching table).length, db) := by
            simp only [Statement.execIn, Statement.exec, present]
            rfl
          simp only [runBy, Handler.queryDlq, Client.listDlqJobs, Client.query, Program.bind_call,
            Program.run_bind, Program.run_mapError, Program.run_call, execBy, undisturbed,
            TieOrder.orderFor, present, listed, Program.bind_done, after, counted]
          rfl

variable {session : Session} {table : DlqTable}

/-- A record that is there is deleted. -/
theorem run_deleteDlqJob (calm : session.Calm) (present : session.db.dlq = .ok table)
    {record : DlqJob} (member : record ∈ table.rows) :
    session.run (Client.deleteDlqJob record.id) = (.ok true, session.after 1
      { session.db with dlq := .ok (table.delete fun row => row.id = record.id) }) := by
  have found : table.get? record.id = some record := SerialTable.get?_eq_some.mpr ⟨member, rfl⟩
  have answered : (Statement.deleteDlqJob record.id).exec (session.upcoming 0).now session.db =
      (.ok (some record.taskIdentifier),
        { session.db with dlq := .ok (table.delete fun row => row.id = record.id) }) := by
    simp only [Statement.exec, present, found, Option.map_some]
  rw [Client.deleteDlqJob, run_query (calm 0 _) (congrArg Prod.fst answered), answered]
  rfl

/-- All rows of a page are deleted. -/
theorem run_deleteJobs (jobs : List DlqJob) (calm : session.Calm)
    (present : session.db.dlq = .ok table) (among : ∀ job ∈ jobs, job ∈ table.rows)
    (distinct : jobs.Nodup) (deletedCount : UInt32) (affectedTasks : Finset String) :
    (session.run (Handler.deleteJobs jobs deletedCount affectedTasks)).1 =
      .ok (deletedCount + .ofNat jobs.length, affectedTasks ∪ taskIdentifiers jobs) := by
  induction jobs generalizing session table deletedCount affectedTasks with
  | nil => simp [Handler.deleteJobs, run, taskIdentifiers]
  | cons job jobs ih =>
      obtain ⟨first, distinct⟩ := List.nodup_cons.mp distinct
      obtain ⟨member, among⟩ := List.forall_mem_cons.mp among
      have deleted := run_deleteDlqJob calm present member
      have others : ∀ other ∈ jobs, other ∈ (table.delete fun row => row.id = job.id).rows := by
        intro other later
        refine SerialTable.mem_delete.mpr ⟨among other later, ?_⟩
        rw [decide_eq_false_iff_not]
        intro same
        exact first (table.eq_of_id_eq (among other later) member same ▸ later)
      have rest := @ih (session.after 1 { session.db with
        dlq := .ok (table.delete fun row => row.id = job.id) }) _ (calm.after 1 _) rfl others
        distinct (deletedCount + 1) (insert job.taskIdentifier affectedTasks)
      unfold run at deleted rest ⊢
      rw [Handler.deleteJobs, Program.run_bind, Program.run_attempt, deleted]
      refine rest.trans ?_
      rw [List.length_cons, counted_cons, tasks_cons]

/-- An enqueue that nothing refuses reports the row it has written. -/
theorem run_enqueue_ok (calm : session.Calm) {taskIdentifier : String} {payload : Json}
    {spec : JobSpec} {written : JobRow} (reported : (session.db.addJob (session.upcoming 0).now
      (spec.toGraphile.newJob taskIdentifier payload (session.upcoming 0).now)).1 = some written) :
    session.run (Client.enqueue taskIdentifier payload spec) =
      (.ok (.enqueued { written with taskIdentifier := taskIdentifier }), session.after 1
        (session.db.addJob (session.upcoming 0).now (spec.toGraphile.newJob taskIdentifier payload
          (session.upcoming 0).now)).2) := by
  simp only [run, Client.enqueue, Client.addRawJob, Program.bind_call, Program.run_call,
    exec_accepted (calm 0 _), Statement.exec, reported, Option.map_some]
  rfl

/-- A record that is there is requeued, and every record stays. -/
theorem run_requeueDlqJob_ok (calm : session.Calm) (present : session.db.dlq = .ok table)
    {record : DlqJob} (member : record ∈ table.rows) (notes : Option String) :
    ∃ job db table', session.run (Client.requeueDlqJob record.id notes) =
        (.ok job, session.after 3 db) ∧ db.dlq = .ok table' ∧
      table'.rows.map DlqJob.id = table.rows.map DlqJob.id := by
  have found : table.get? record.id = some record := SerialTable.get?_eq_some.mpr ⟨member, rfl⟩
  have read : (Statement.getDlqJob record.id).exec (session.upcoming 0).now session.db =
      (.ok (some record), session.db) := by simp only [Statement.exec, present, found]
  have replaces : (record.toSpec.toGraphile.newJob record.taskIdentifier record.payload
      (session.upcoming 1).now).mode ≠ .unsafeDedupe := by
    rw [record.mode_newJob]
    decide
  obtain ⟨written, reported⟩ := @Database.addJob_reports session.db _ (session.upcoming 1).now
    replaces
  have enqueued := run_enqueue_ok (calm.after 1 session.db) reported
  have requeues : Client.requeue record.id notes (some record) =
      Client.enqueue record.taskIdentifier record.payload record.toSpec >>=
        Client.recordRequeue record.id notes := rfl
  rw [Client.requeueDlqJob, Client.getDlqJob, run_query (calm 0 _) (congrArg Prod.fst read), read,
    requeues]
  unfold run at enqueued ⊢
  rw [Program.run_bind, enqueued]
  set added := (session.db.addJob (session.upcoming 1).now (record.toSpec.toGraphile.newJob
    record.taskIdentifier record.payload (session.upcoming 1).now)).2
  have kept : added.dlq = .ok table := (Database.dlq_addJob ..).trans present
  have counted : ((Statement.recordRequeue notes record.id).exec (session.upcoming 2).now added).2 =
      { added with dlq := .ok (table.update (fun row => row.id = record.id)
        (DlqJob.requeued notes (session.upcoming 2).now)) } := by
    simp only [Statement.exec, kept]
  have recorded : (exec (.recordRequeue notes record.id) (session.after 2 added)).2 =
      session.after 3 { added with dlq := .ok (table.update (fun row => row.id = record.id)
        (DlqJob.requeued notes (session.upcoming 2).now)) } := by
    rw [exec_accepted (calm.after 2 added 0 _)]
    exact congrArg (session.after 3) counted
  exact ⟨_, _, _, congrArg (Prod.mk _) recorded, rfl, table.map_id_update⟩

/-- All records of a page are requeued. -/
theorem run_requeueJobs (notes : Option String) (jobs : List DlqJob) (calm : session.Calm)
    (present : session.db.dlq = .ok table)
    (among : ∀ job ∈ jobs, job.id ∈ table.rows.map DlqJob.id) (requeued : Handler.Requeued) :
    (session.run (Handler.requeueJobs notes jobs requeued)).1 =
      .ok { requeued with
        requeuedCount := requeued.requeuedCount + .ofNat jobs.length
        affectedTasks := requeued.affectedTasks ∪ taskIdentifiers jobs } := by
  induction jobs generalizing session table requeued with
  | nil => simp [Handler.requeueJobs, run, taskIdentifiers]
  | cons job jobs ih =>
      obtain ⟨member, among⟩ := List.forall_mem_cons.mp among
      obtain ⟨record, member, same⟩ := List.mem_map.mp member
      obtain ⟨added, db', table', ran, present', ids⟩ :=
        run_requeueDlqJob_ok calm present member notes
      have rest := @ih (session.after 3 db') table' (calm.after 3 _) present' (ids ▸ among)
        { requeued with
          requeuedCount := requeued.requeuedCount + 1
          affectedTasks := insert job.taskIdentifier requeued.affectedTasks }
      rw [same] at ran
      unfold run at ran rest ⊢
      rw [Handler.requeueJobs, Program.run_bind, Program.run_attempt, ran]
      refine rest.trans ?_
      rw [List.length_cons, counted_cons, tasks_cons]

/-- What a startup cleanup returns that nothing refuses. -/
theorem returned_startupCleanup (calm : session.Calm) (queueLockTimeout jobLockTimeout : Duration) :
    (session.run (Client.startupCleanupWithTimeouts queueLockTimeout jobLockTimeout)).1 =
      .ok ((session.db.staleQueues (session.queueLockCutoff queueLockTimeout)).length,
        (session.db.staleJobs (session.jobLockCutoff jobLockTimeout)).length,
        (session.db.releasedJobs (session.jobLockCutoff jobLockTimeout)).abandonedJobs.length) := by
  rw [Client.startupCleanupWithTimeouts, Client.releaseStaleQueueLocks, run_query (calm 0 _) rfl,
    Client.releaseStaleJobLocks, run_query (calm.after 1 _ 0 _) rfl]
  obtain ⟨_, -, -, returned, -⟩ := run_cleanup_answered
    (f := fun n => ((session.db.staleQueues (session.queueLockCutoff queueLockTimeout)).length,
      (session.db.staleJobs (session.jobLockCutoff jobLockTimeout)).length, n))
    ((calm.after 1 _).after 1 _ 0 _)
  exact returned

/-- The counts of the real run are those of the startup cleanup. -/
theorem run_locksCleanup_real (calm : session.Calm) {req : LocksCleanupRequest}
    (real : req.dryRun.getD false = false) :
    (session.run (Handler.locksCleanup req)).1 =
      .ok ⟨(session.db.staleQueues (session.queueLockCutoff req.queueLockTimeout)).length,
        (session.db.staleJobs (session.jobLockCutoff req.jobLockTimeout)).length,
        (session.db.releasedJobs (session.jobLockCutoff req.jobLockTimeout)).abandonedJobs.length,
        false⟩ := by
  have returned := returned_startupCleanup calm req.queueLockTimeout req.jobLockTimeout
  unfold run at returned ⊢
  simp only [Handler.locksCleanup, real, Bool.false_eq_true, if_false, Program.run_bind,
    Program.run_mapError, returned]
  rfl

/-- The jobs a cleanup deletes are those that it finds abandoned, or makes so by a release. -/
theorem abandonedJobs_releasedJobs (db : Database) (cutoff : Timestamp) :
    (db.releasedJobs cutoff).abandonedJobs.length = (db.jobs.rows.filter fun row =>
      row.exhausted && (row.lockedAt.isNone || lockedBefore cutoff row.lockedAt)).length := by
  simp only [Database.abandonedJobs, Database.releasedJobs, SerialTable.update, List.filter_map,
    List.length_map]
  refine congrArg List.length (List.filter_congr fun row _ => ?_)
  simp only [Function.comp_apply]
  by_cases stale : lockedBefore cutoff row.lockedAt = true
  · simp [stale, JobRow.unlock, JobRow.exhausted]
  · simp [stale]

/-- What a dry run counts as stale, the real run finds stale. -/
theorem lockedBefore_bound (now : Timestamp) (timeout : Duration) {lockedAt : Option Timestamp}
    (stale : lockedBefore (lockCutoff now timeout.asSecs) lockedAt = true) :
    lockedBefore (lockCutoff now (asI64 timeout.asSecs)) lockedAt = true := by
  obtain ⟨taken, rfl, early⟩ := lockedBefore_iff.mp stale
  refine lockedBefore_iff.mpr ⟨taken, rfl, lt_lockCutoff_iff.mpr ?_⟩
  have age := lt_lockCutoff_iff.mp early
  have whole := timeout.secs_lt
  unfold Duration.asSecs at age ⊢
  by_cases fits : timeout.secs < 2 ^ 63
  · rwa [asI64_of_lt fits]
  · rw [asI64_of_le (Nat.not_lt.mp fits) whole]
    omega

/-- A lock cleanup lists no page. -/
theorem calls_locksCleanup (req : LocksCleanupRequest) :
    (Handler.locksCleanup req).Calls fun s => ∀ filter, s ≠ .listDlqJobs filter := by
  have counts : ∀ s : Statement, (∀ filter, s ≠ .listDlqJobs filter) →
      (Handler.count s).Calls fun s => ∀ filter, s ≠ .listDlqJobs filter := by
    refine fun s other => ⟨other, fun reply => ?_⟩
    cases reply <;> trivial
  unfold Handler.locksCleanup
  dsimp only
  split
  · refine (counts (.countStaleQueueLocks _) nofun).bind fun _ => ?_
    refine (counts (.countStaleJobLocks _) nofun).bind fun _ => ?_
    exact (counts .countFailedJobs nofun).bind fun _ => trivial
  · exact (Client.calls_startupCleanupWithTimeouts nofun nofun nofun nofun).mapError.bind
      fun _ => trivial

/-- A lock cleanup is foretold when it deletes no job whose lock it releases itself, and both its
runs find the same locks stale. -/
theorem predicts_locksCleanup_iff {chrono : Chrono} {requestedAt : Timestamp}
    (req : LocksCleanupRequest) : Predicts now db chrono requestedAt (.locksCleanup req) ↔
      (BatchRequest.locksCleanup req).Foretold now db chrono requestedAt := by
  have real := @run_locksCleanup_real (undisturbed now db) (fun _ _ => rfl)
    { req with dryRun := some false } rfl
  have reports : Predicts now db chrono requestedAt (.locksCleanup req) ↔
      (db.staleQueues (lockCutoff now req.queueLockTimeout.asSecs)).length =
        (db.staleQueues (lockCutoff now (asI64 req.queueLockTimeout.asSecs))).length ∧
      (db.staleJobs (lockCutoff now req.jobLockTimeout.asSecs)).length =
        (db.staleJobs (lockCutoff now (asI64 req.jobLockTimeout.asSecs))).length ∧
      db.abandonedJobs.length = (db.releasedJobs
        (lockCutoff now (asI64 req.jobLockTimeout.asSecs))).abandonedJobs.length := by
    have dry : (undisturbed now db).run (Handler.locksCleanup { req with dryRun := some true }) =
        (.ok ⟨(db.staleQueues (lockCutoff now req.queueLockTimeout.asSecs)).length,
          (db.staleJobs (lockCutoff now req.jobLockTimeout.asSecs)).length,
          db.abandonedJobs.length, true⟩, undisturbed now db) := rfl
    have unchanged : (undisturbed now db).db = db := rfl
    simp only [Predicts, BatchRequest.serve, respond, runBy_map,
      runBy_eq _ _ (calls_locksCleanup _), dry, real, unchanged, true_and, Except.map, LocksCleanupResponse.report, Option.some.injEq,
      Except.ok.injEq, Report.mk.injEq, List.cons.injEq, and_true, forall_const]
    exact Iff.rfl
  rw [reports, abandonedJobs_releasedJobs]
  refine and_congr (ListFacts.length_filter_eq_iff fun _ => lockedBefore_bound now _)
    (and_congr (ListFacts.length_filter_eq_iff fun _ => lockedBefore_bound now _) ?_)
  have grows : ∀ row : JobRow, (row.exhausted && row.lockedAt.isNone) = true →
      (row.exhausted && (row.lockedAt.isNone || lockedBefore (lockCutoff now
        (asI64 req.jobLockTimeout.asSecs)) row.lockedAt)) = true := by
    intro row
    simp only [Bool.and_eq_true, Bool.or_eq_true]
    exact fun abandoned => ⟨abandoned.1, .inl abandoned.2⟩
  refine (ListFacts.length_filter_eq_iff grows).trans ?_
  refine forall_congr' fun row => imp_congr_right fun _ => ?_
  cases held : row.lockedAt with
  | none => simp [lockedBefore]
  | some taken => simp [lockedBefore]

variable {chrono : Chrono} {requestedAt : Timestamp} {request : BatchRequest}

/-- The first page names the same tasks in every order exactly when its tasks are settled. -/
theorem taskIdentifiers_page_iff {filter : DlqFilter} (present : db.dlq = .ok table)
    (start : filter.offset = none) :
    (∀ ties ties' : TieOrder, taskIdentifiers (ties.page filter table) =
      taskIdentifiers (ties'.page filter table)) ↔ filter.CutSettled db := by
  have page : ∀ ties : TieOrder, ties.page filter table =
      (ties.order filter table).take (filter.limit.getD 50).toNat := by
    intro ties
    rw [TieOrder.page, start]
    rfl
  have rows : db.dlqRows.filter filter.selects = filter.matching table := by
    rw [Database.dlqRows_ok present]
    rfl
  rw [DlqFilter.CutSettled, rows, ← labels_take_iff]
  constructor
  · intro same order order' arranged arranged' job among
    obtain ⟨ties, rfl⟩ := TieOrder.exists_order arranged
    obtain ⟨ties', rfl⟩ := TieOrder.exists_order arranged'
    have named : job.taskIdentifier ∈ taskIdentifiers (ties.page filter table) := by
      rw [taskIdentifiers, List.mem_toFinset, page]
      exact List.mem_map_of_mem among
    rw [same ties ties', taskIdentifiers, List.mem_toFinset, page] at named
    exact List.mem_map.mp named
  · intro labels
    have sub : ∀ ties ties' : TieOrder, taskIdentifiers (ties.page filter table) ⊆
        taskIdentifiers (ties'.page filter table) := by
      intro ties ties' task named
      rw [taskIdentifiers, List.mem_toFinset, page] at named ⊢
      obtain ⟨job, among, rfl⟩ := List.mem_map.mp named
      exact List.mem_map.mpr
        (labels _ _ (ties.arranged filter table) (ties'.arranged filter table) job among)
    exact fun ties ties' => (sub ties ties').antisymm (sub ties' ties)

/-- A page has the same number of rows in every order. -/
theorem length_page (ties ties' : TieOrder) (filter : DlqFilter) (table : DlqTable) :
    (ties.page filter table).length = (ties'.page filter table).length := by
  simp only [TieOrder.page, List.length_take, List.length_drop,
    (ties.arranged filter table).perm.length_eq, (ties'.arranged filter table).perm.length_eq]

/-- A batch whose real run reports of its page what the dry run reports of its own is foretold
exactly when the tasks of the page are settled. -/
theorem predicts_of_page {α : Type} {filter : DlqFilter} {report : α → Report}
    {dry : List DlqJob → α} {batch : List DlqJob → Handler α} (start : filter.offset = none)
    (served : request.serve chrono requestedAt true =
      some (report <$> (Handler.queryDlq filter >>= fun jobs => pure (dry jobs))))
    (served' : request.serve chrono requestedAt false =
      some (report <$> (Handler.queryDlq filter >>= batch)))
    (calls : ∀ jobs, (batch jobs).Calls fun s => ∀ filter, s ≠ .listDlqJobs filter)
    (tells : ∀ jobs jobs' : List DlqJob, jobs.length = jobs'.length →
      (report (dry jobs) = report (dry jobs') ↔ taskIdentifiers jobs = taskIdentifiers jobs'))
    (agrees : ∀ table jobs, db.dlq = .ok table → (∀ job ∈ jobs, job ∈ table.rows) → jobs.Nodup →
      ∃ response, ((undisturbed now db).run (batch jobs)).1 = .ok response ∧
        report response = report (dry jobs)) :
    Predicts now db chrono requestedAt request ↔ filter.CutSettled db := by
  rcases runBy_queryDlq now db filter with
    ⟨error, nothing, refused⟩ | ⟨table, present, listed⟩
  · refine iff_of_true (fun ties ties' => ?_) ?_
    · have dryRun := Program.run_bind_error (execBy ties)
        (f := fun jobs => (pure (dry jobs) : Handler α)) (congrArg Prod.fst (refused ties))
      have realRun := Program.run_bind_error (execBy ties') (f := batch)
        (congrArg Prod.fst (refused ties'))
      simp only [served, served', respond, runBy_map]
      unfold runBy at refused ⊢
      rw [refused] at dryRun realRun
      rw [dryRun, realRun]
      exact ⟨rfl, rfl⟩
    · -- no row is on the page
      intro row member above
      rcases nothing with empty | negative | negative
      · rw [empty] at member
        cases member
      · rw [Int.toNat_of_nonpos negative.le] at above
        exact absurd above (Nat.not_lt_zero _)
      · rw [start] at negative
        exact absurd negative (by decide)
  · have dryRun : ∀ ties, (undisturbed now db).runBy ties
        (report <$> (Handler.queryDlq filter >>= fun jobs => pure (dry jobs))) =
          (.ok (report (dry (ties.page filter table))), undisturbed now db) := by
      intro ties
      have ran := Program.run_bind_ok (execBy ties)
        (f := fun jobs => (pure (dry jobs) : Handler α)) (congrArg Prod.fst (listed ties))
      rw [runBy_map]
      unfold runBy at listed ⊢
      rw [ran, listed]
      rfl
    have realRun : ∀ ties, ((undisturbed now db).runBy ties
        (report <$> (Handler.queryDlq filter >>= batch))).1 =
          .ok (report (dry (ties.page filter table))) := by
      intro ties
      obtain ⟨among, distinct⟩ := ties.page_of_table filter table
      obtain ⟨response, ended, same⟩ := agrees table _ present among distinct
      rw [← runBy_eq ties _ (calls _)] at ended
      have ran := Program.run_bind_ok (execBy ties) (f := batch) (congrArg Prod.fst (listed ties))
      rw [runBy_map]
      unfold runBy at listed ended ⊢
      rw [ran, listed, ended, ← same]
      rfl
    have unchanged : (undisturbed now db).db = db := rfl
    rw [← taskIdentifiers_page_iff present start]
    simp only [Predicts, served, served', respond, dryRun, realRun, unchanged, true_and,
      Option.some.injEq, Except.ok.injEq]
    exact forall_congr' fun ties => forall_congr' fun ties' =>
      tells _ _ (length_page ties ties' filter table)

/-- A batch delete of rows of the table deletes them all. -/
theorem run_deleteJobs_all (now : Timestamp) (present : db.dlq = .ok table) {jobs : List DlqJob}
    (among : ∀ job ∈ jobs, job ∈ table.rows) (distinct : jobs.Nodup) :
    ((undisturbed now db).run (Handler.deleteJobs jobs 0 ∅)).1 =
      .ok (.ofNat jobs.length, taskIdentifiers jobs) := by
  have deleted := @run_deleteJobs (undisturbed now db) table jobs (fun _ _ => rfl) present among
    distinct 0 ∅
  rwa [UInt32.zero_add, Finset.empty_union] at deleted

/-- Deleting lists no page. -/
theorem calls_deleteJobs_unlisted (jobs : List DlqJob) :
    (Handler.deleteJobs jobs 0 ∅).Calls fun s => ∀ filter, s ≠ .listDlqJobs filter :=
  Handler.calls_deleteJobs 0 ∅ fun _ _ => nofun

theorem predicts_batchDelete_iff (req : DlqBatchDeleteRequest) :
    Predicts now db chrono requestedAt (.batchDelete req) ↔ req.filter.CutSettled db := by
  refine predicts_of_page rfl rfl rfl
    (fun jobs => (calls_deleteJobs_unlisted jobs).bind fun _ => trivial) ?_ ?_
  · intro jobs jobs' same
    simp [DlqBatchDeleteResponse.report, same]
  · intro table jobs present among distinct
    have deleted := run_deleteJobs_all now present among distinct
    exact ⟨_, congrArg Prod.fst (Program.run_bind_ok exec deleted), rfl⟩

theorem predicts_dlqCleanup_iff (req : DlqCleanupRequest) :
    Predicts now db chrono requestedAt (.dlqCleanup req) ↔
      (BatchRequest.dlqCleanup req).Foretold now db chrono requestedAt := by
  rw [BatchRequest.Foretold]
  cases cutoff : req.cutoffDate chrono requestedAt with
  | none =>
      have panics : ∀ dryRun, (BatchRequest.dlqCleanup req).serve chrono requestedAt dryRun =
          none := fun dryRun => congrArg (Option.map _ ∘ Option.map _) cutoff
      simp only [Predicts, panics, respond]
      exact iff_of_true (fun _ _ => ⟨rfl, trivial⟩) nofun
  | some cutoffDate =>
      have served : ∀ dryRun, (BatchRequest.dlqCleanup req).serve chrono requestedAt dryRun =
          some (DlqCleanupResponse.report <$>
            Handler.cleanupDlqBefore { req with dryRun := some dryRun } cutoffDate) :=
        fun dryRun => congrArg (Option.map _ ∘ Option.map _) cutoff
      simp only [Option.some.injEq, forall_eq']
      refine predicts_of_page rfl (served true) (served false)
        (fun jobs => (calls_deleteJobs_unlisted jobs).bind fun _ => trivial) ?_ ?_
      · intro jobs jobs' same
        simp [DlqCleanupResponse.report, same]
      · intro table jobs present among distinct
        have deleted := run_deleteJobs_all now present among distinct
        exact ⟨_, congrArg Prod.fst (Program.run_bind_ok exec deleted), rfl⟩

theorem predicts_batchRequeue_iff (req : DlqBatchRequeueRequest) :
    Predicts now db chrono requestedAt (.batchRequeue req) ↔ req.filter.CutSettled db := by
  refine predicts_of_page rfl rfl rfl (fun jobs => ?_) ?_ ?_
  · refine (Handler.calls_requeueJobs _ fun job _ => ?_).bind fun _ => trivial
    exact Client.calls_requeueDlqJob _ _ nofun (fun _ _ _ => nofun) nofun
  · intro jobs jobs' same
    simp [DlqBatchRequeueResponse.report, same]
  · intro table jobs present among distinct
    have ids : ∀ job ∈ jobs, job.id ∈ table.rows.map DlqJob.id :=
      fun job member => List.mem_map_of_mem (among job member)
    have requeued := @run_requeueJobs (undisturbed now db) table req.notes jobs (fun _ _ => rfl)
      present ids ⟨0, 0, [], ∅⟩
    refine ⟨_, congrArg Prod.fst (Program.run_bind_ok exec requeued), ?_⟩
    simp only [UInt32.zero_add, Finset.empty_union]
    rfl

/-- A dry run leaves the database alone and foretells what the real run reports, exactly for the
requests and states that `Foretold` describes. -/
theorem dryRun_predicts_iff (now : Timestamp) (db : Database) (chrono : Chrono)
    (requestedAt : Timestamp) (request : BatchRequest) :
    Predicts now db chrono requestedAt request ↔
      request.Foretold now db chrono requestedAt := by
  cases request with
  | locksCleanup req => exact predicts_locksCleanup_iff req
  | dlqCleanup req => exact predicts_dlqCleanup_iff req
  | batchRequeue req => exact predicts_batchRequeue_iff req
  | batchDelete req => exact predicts_batchDelete_iff req

/-- The cleanup takes the lock of a crashed job and deletes the job; its dry run counts the lock
only. -/
theorem locksCleanup_undercounts :
    ¬ ∀ (now : Timestamp) (db : Database) (chrono : Chrono) (requestedAt : Timestamp)
      (request : BatchRequest), Predicts now db chrono requestedAt request := by
  intro predicts
  have foretold := (predicts_locksCleanup_iff defaultLocksCleanup).mp
    (predicts 3600000000 crashedJob ⟨0, 0, 0⟩ 0 (.locksCleanup defaultLocksCleanup))
  exact absurd (foretold.2.2 _ (.head _) (by decide)) (by decide)

end Session

end Backfill
