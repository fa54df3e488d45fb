import Mathlib.Data.Finset.Dedup
import Mathlib.Data.Finset.Insert
import Mathlib.Data.Finset.Lattice.Lemmas
import Backfill.Admin.Locks
import Backfill.Client.DlqPages

/-!
# The DLQ endpoints (`admin.rs:660`, `admin.rs:838`)

A page of the DLQ, and the three operations on all jobs of one page. The tasks a response names are
collected in a `HashSet`, so they are a finite set here.
-/

namespace Backfill

/-- The query of `GET /dlq`. -/
structure DlqQueryParams where
  limit : Option Int
  offset : Option Int
  queueName : Option String
  taskIdentifier : Option String

/-- The body of its response. -/
structure DlqPageResponse where
  jobs : List DlqJob
  totalCount : Nat
  hasMore : Bool

/-- The body of `POST /dlq/cleanup`. -/
structure DlqCleanupRequest where
  olderThanDays : Option Int
  taskIdentifier : Option String
  queueName : Option String
  maxJobs : Option Int
  dryRun : Option Bool

structure DlqCleanupResponse where
  deletedCount : UInt32
  dryRun : Bool
  cutoffDate : Timestamp
  affectedTasks : Finset String

/-- The body of `POST /dlq/batch-requeue`. -/
structure DlqBatchRequeueRequest where
  taskIdentifier : Option String
  queueName : Option String
  failedAfter : Option Timestamp
  failedBefore : Option Timestamp
  notes : Option String
  maxJobs : Option Int
  dryRun : Option Bool

structure BatchOperationError where
  dlqId : Int
  taskIdentifier : String
  error : String

structure DlqBatchRequeueResponse where
  requeuedCount : UInt32
  failedCount : UInt32
  dryRun : Bool
  affectedTasks : Finset String
  errors : List BatchOperationError

/-- The body of `POST /dlq/batch-delete`. -/
structure DlqBatchDeleteRequest where
  taskIdentifier : Option String
  queueName : Option String
  failedAfter : Option Timestamp
  failedBefore : Option Timestamp
  maxJobs : Option Int
  dryRun : Option Bool

structure DlqBatchDeleteResponse where
  deletedCount : UInt32
  dryRun : Bool
  affectedTasks : Finset String

/-- The ranges of `chrono`, in microseconds: of a `Duration`, and of a `DateTime<Utc>`. Its
operators panic when their result is out of range. -/
structure Chrono where
  maxDuration : Int
  minUtc : Timestamp
  maxUtc : Timestamp

namespace Chrono

/-- `Duration::days`; `none` where it panics. -/
def days (chrono : Chrono) (n : Int) : Option Int :=
  let micros := n * 86400 * 1000000
  if -chrono.maxDuration ≤ micros ∧ micros ≤ chrono.maxDuration then some micros else none

/-- `DateTime - Duration`; `none` where it panics. -/
def sub (chrono : Chrono) (time : Timestamp) (micros : Int) : Option Timestamp :=
  if chrono.minUtc ≤ time - micros ∧ time - micros ≤ chrono.maxUtc then some (time - micros)
  else none

end Chrono

/-- The tasks of a page of jobs. -/
def taskIdentifiers (jobs : List DlqJob) : Finset String :=
  (jobs.map DlqJob.taskIdentifier).toFinset

namespace DlqQueryParams

def filter (params : DlqQueryParams) : DlqFilter where
  taskIdentifier := params.taskIdentifier
  queueName := params.queueName
  failedAfter := none
  failedBefore := none
  limit := some (params.limit.getD 50)
  offset := some (params.offset.getD 0)

end DlqQueryParams

/-- `(offset + limit) < total as i32`, in 32 bits. -/
def DlqJobList.hasMore (page : DlqJobList) : Bool :=
  decide (Int32.ofInt page.offset + Int32.ofInt page.limit < Int32.ofInt page.total)

namespace DlqCleanupRequest

/-- `Utc::now() - Duration::days(days)`. -/
def cutoffDate (req : DlqCleanupRequest) (chrono : Chrono) (requestedAt : Timestamp) :
    Option Timestamp := do
  let age ← chrono.days (req.olderThanDays.getD 90)
  chrono.sub requestedAt age

def filter (req : DlqCleanupRequest) (cutoffDate : Timestamp) : DlqFilter where
  taskIdentifier := req.taskIdentifier
  queueName := req.queueName
  failedAfter := none
  failedBefore := some cutoffDate
  limit := some (min (req.maxJobs.getD 1000) 10000)
  offset := none

end DlqCleanupRequest

def DlqBatchRequeueRequest.filter (req : DlqBatchRequeueRequest) : DlqFilter where
  taskIdentifier := req.taskIdentifier
  queueName := req.queueName
  failedAfter := req.failedAfter
  failedBefore := req.failedBefore
  limit := some (min (req.maxJobs.getD 100) 1000)
  offset := none

def DlqBatchDeleteRequest.filter (req : DlqBatchDeleteRequest) : DlqFilter where
  taskIdentifier := req.taskIdentifier
  queueName := req.queueName
  failedAfter := req.failedAfter
  failedBefore := req.failedBefore
  limit := some (min (req.maxJobs.getD 100) 1000)
  offset := none

namespace Handler

/-- `list_dlq_jobs` (`admin.rs:660`). -/
def listDlqJobs (params : DlqQueryParams) : Handler DlqPageResponse := do
  let page ← (Client.listDlqJobs params.filter).mapError fun e =>
    ⟨500, e.display, "DLQ_LIST_FAILED"⟩
  pure ⟨page.jobs, page.total, page.hasMore⟩

/-- The jobs a batch is about. -/
def queryDlq (filter : DlqFilter) : Handler (List DlqJob) := do
  let page ← (Client.listDlqJobs filter).mapError fun e =>
    ⟨500, "Failed to query DLQ: " ++ e.display, "QUERY_ERROR"⟩
  pure page.jobs

/-- `for job in &jobs { if client.delete_dlq_job(job.id).await.unwrap_or(false) { .. } }` -/
def deleteJobs : List DlqJob → UInt32 → Finset String → Handler (UInt32 × Finset String)
  | [], deletedCount, affectedTasks => .done (deletedCount, affectedTasks)
  | job :: jobs, deletedCount, affectedTasks => do
      let result ← (Client.deleteDlqJob job.id).attempt
      match result with
      | .ok true => deleteJobs jobs (deletedCount + 1) (insert job.taskIdentifier affectedTasks)
      | _ => deleteJobs jobs deletedCount affectedTasks

/-- What a batch of requeues has come to. -/
structure Requeued where
  requeuedCount : UInt32
  failedCount : UInt32
  errors : List BatchOperationError
  affectedTasks : Finset String

/-- The loop of a batch requeue. The pauses in it only take time. -/
def requeueJobs (notes : Option String) : List DlqJob → Requeued → Handler Requeued
  | [], requeued => .done requeued
  | job :: jobs, requeued => do
      let result ← (Client.requeueDlqJob job.id notes).attempt
      match result with
      | .ok _ =>
          requeueJobs notes jobs { requeued with
            requeuedCount := requeued.requeuedCount + 1
            affectedTasks := insert job.taskIdentifier requeued.affectedTasks }
      | .error e =>
          requeueJobs notes jobs { requeued with
            failedCount := requeued.failedCount + 1
            errors := requeued.errors ++ [⟨job.id, job.taskIdentifier, e.display⟩] }

/-- `cleanup_dlq` (`admin.rs:838`) from its query on. -/
def cleanupDlqBefore (req : DlqCleanupRequest) (cutoffDate : Timestamp) :
    Handler DlqCleanupResponse := do
  let jobs ← queryDlq (req.filter cutoffDate)
  if req.dryRun.getD false then
    pure ⟨.ofNat jobs.length, true, cutoffDate, taskIdentifiers jobs⟩
  else
    let (deletedCount, affectedTasks) ← deleteJobs jobs 0 ∅
    pure ⟨deletedCount, false, cutoffDate, affectedTasks⟩

/-- `cleanup_dlq`; `none` where it panics. -/
def cleanupDlq (chrono : Chrono) (requestedAt : Timestamp) (req : DlqCleanupRequest) :
    Option (Handler DlqCleanupResponse) :=
  (req.cutoffDate chrono requestedAt).map (cleanupDlqBefore req)

/-- `batch_requeue_dlq_jobs` (`admin.rs:909`). -/
def batchRequeueDlqJobs (req : DlqBatchRequeueRequest) : Handler DlqBatchRequeueResponse := do
  let jobs ← queryDlq req.filter
  if req.dryRun.getD false then
    pure ⟨.ofNat jobs.length, 0, true, taskIdentifiers jobs, []⟩
  else
    let requeued ← requeueJobs req.notes jobs ⟨0, 0, [], ∅⟩
    pure ⟨requeued.requeuedCount, requeued.failedCount, false, requeued.affectedTasks,
      requeued.errors⟩

/-- `batch_delete_dlq_jobs` (`admin.rs:1000`). -/
def batchDeleteDlqJobs (req : DlqBatchDeleteRequest) : Handler DlqBatchDeleteResponse := do
  let jobs ← queryDlq req.filter
  if req.dryRun.getD false then
    pure ⟨.ofNat jobs.length, true, taskIdentifiers jobs⟩
  else
    let (deletedCount, affectedTasks) ← deleteJobs jobs 0 ∅
    pure ⟨deletedCount, false, affectedTasks⟩

/-- The loop sends the deletes of its jobs. -/
theorem calls_deleteJobs {I : Statement → Prop} {jobs : List DlqJob} (deletedCount : UInt32)
    (affectedTasks : Finset String) (deletes : ∀ job ∈ jobs, I (.deleteDlqJob job.id)) :
    (deleteJobs jobs deletedCount affectedTasks).Calls I := by
  induction jobs generalizing deletedCount affectedTasks with
  | nil => trivial
  | cons job jobs ih =>
      obtain ⟨first, deletes⟩ := List.forall_mem_cons.mp deletes
      have single : (Client.deleteDlqJob job.id).Calls I := by
        refine ⟨first, fun deleted => ?_⟩
        cases deleted <;> trivial
      refine single.attempt.bind fun result => ?_
      split
      · exact ih _ _ deletes
      · exact ih _ _ deletes

/-- The loop of a batch requeue sends requeues. -/
theorem calls_requeueJobs {I : Statement → Prop} {jobs : List DlqJob} {notes : Option String}
    (requeued : Requeued)
    (requeues : ∀ job ∈ jobs, (Client.requeueDlqJob job.id notes).Calls I) :
    (requeueJobs notes jobs requeued).Calls I := by
  induction jobs generalizing requeued with
  | nil => trivial
  | cons job jobs ih =>
      obtain ⟨first, requeues⟩ := List.forall_mem_cons.mp requeues
      refine first.attempt.bind fun result => ?_
      cases result with
      | ok added => exact ih _ requeues
      | error e => exact ih _ requeues

end Handler

/-- One more row of a page, in 32 bits. -/
theorem counted_cons (count : UInt32) (n : Nat) :
    count + 1 + .ofNat n = count + .ofNat (n + 1) := by
  rw [UInt32.ofNat_add, UInt32.add_assoc, UInt32.add_comm 1]
  rfl

/-- Its task. -/
theorem tasks_cons (tasks : Finset String) (job : DlqJob) (jobs : List DlqJob) :
    insert job.taskIdentifier tasks ∪ taskIdentifiers jobs =
      tasks ∪ taskIdentifiers (job :: jobs) := by
  simp [taskIdentifiers, Finset.insert_union, Finset.union_insert]

/-- The rows of a page stand in the table, each once. -/
theorem page_of_table (filter : DlqFilter) (table : DlqTable) :
    (∀ job ∈ filter.page table.rows, job ∈ table.rows) ∧ (filter.page table.rows).Nodup := by
  have sorted := (filter.arranged table).perm
  have sub : (filter.page table.rows).Sublist ((filter.matching table).insertionSort
      fun a b => b.failedAt ≤ a.failedAt) :=
    (List.take_sublist ..).trans (List.drop_sublist ..)
  refine ⟨fun job member => ?_, sub.nodup (sorted.nodup_iff.mpr (table.nodup.filter _))⟩
  exact List.mem_of_mem_filter (sorted.mem_iff.mp (sub.subset member))

/-- A listing that is answered with rows is a page of the table. -/
theorem Statement.listDlqJobs_ok {filter : DlqFilter} {now : Timestamp} {db db' : Database}
    {jobs : List DlqJob} (listed : (listDlqJobs filter).exec now db = (.ok jobs, db')) :
    ∃ table, db.dlq = .ok table ∧ jobs = filter.page table.rows ∧ db' = db := by
  cases present : db.dlq with
  | error missing =>
      simp only [exec, present] at listed
      cases listed
  | ok table =>
      simp only [exec, present] at listed
      split at listed
      · cases listed
      · split at listed
        · cases listed
        · obtain ⟨rows, left⟩ := Prod.mk.inj listed
          exact ⟨table, rfl, (Except.ok.inj rows).symm, left.symm⟩

namespace Session

variable {session : Session}

/-- A page that is listed and the number of all rows that match come from one database. -/
theorem run_listDlqJobs {filter : DlqFilter} {page : DlqJobList}
    (ran : (session.run (Client.listDlqJobs filter)).1 = .ok page) :
    ∃ table, session.db.dlq = .ok table ∧
      page = ⟨filter.page table.rows, (filter.matching table).length % 2 ^ 32,
        filter.offset.getD 0, filter.limit.getD 50⟩ := by
  unfold Client.listDlqJobs at ran
  obtain ⟨jobs, db, listed, rest⟩ := run_query_ok ran
  rw [rest] at ran
  obtain ⟨total, db', counted, rest'⟩ := run_query_ok ran
  rw [rest'] at ran
  obtain ⟨table, present, rfl, rfl⟩ := Statement.listDlqJobs_ok listed
  simp only [Statement.exec, after, present] at counted
  obtain rfl := Except.ok.inj (congrArg Prod.fst counted)
  exact ⟨table, present, (Except.ok.inj ran).symm⟩

/-- `n as i32`, for a number that fits into 32 bits. -/
theorem toInt_ofInt_of_lt {n : Int} (low : 0 ≤ n) (high : n < 2 ^ 32) :
    (Int32.ofInt n).toInt = if n < 2 ^ 31 then n else n - 2 ^ 32 := by
  rw [Int32.toInt_ofInt, show Int32.size = 2 ^ 32 from rfl]
  split
  next small => apply Int.bmod_eq_of_le_mul_two <;> omega
  next large =>
    rw [← Int.sub_bmod_right]
    apply Int.bmod_eq_of_le_mul_two <;> omega

/-- The comparison in 32 bits is that of the integers when both sides are below `2 ^ 31` or
neither is. -/
theorem hasMore_iff {page : DlqJobList} (start : 0 ≤ page.offset ∧ page.offset < 2 ^ 31)
    (rows : 0 ≤ page.limit ∧ page.limit < 2 ^ 31) (total : page.total < 2 ^ 32) :
    (page.hasMore = true ↔ page.offset + page.limit < page.total) ↔
      (page.total < 2 ^ 31 ↔ page.offset + page.limit < 2 ^ 31) := by
  rw [DlqJobList.hasMore, decide_eq_true_iff, ← Int32.ofInt_add, Int32.lt_iff_toInt_lt,
    toInt_ofInt_of_lt (by omega) (by omega), toInt_ofInt_of_lt (by omega) (by omega)]
  split <;> split <;> omega

/-- A page of `GET /dlq` counts the rows that match and tells whether there are more, exactly
when the count fits into 32 bits and it and the end of the page are on one side of `2 ^ 31`. -/
theorem listDlqJobs_counts_iff {params : DlqQueryParams} {response : DlqPageResponse}
    {table : DlqTable} (present : session.db.dlq = .ok table)
    (rows : 0 ≤ params.limit.getD 50 ∧ params.limit.getD 50 < 2 ^ 31)
    (start : 0 ≤ params.offset.getD 0 ∧ params.offset.getD 0 < 2 ^ 31)
    (ran : (session.run (Handler.listDlqJobs params)).1 = .ok response) :
    (response.totalCount = (params.filter.matching table).length ∧
      (response.hasMore = true ↔
        params.offset.getD 0 + params.limit.getD 50 < (params.filter.matching table).length)) ↔
      (params.filter.matching table).length < 2 ^ 32 ∧
        ((params.filter.matching table).length < 2 ^ 31 ↔
          params.offset.getD 0 + params.limit.getD 50 < 2 ^ 31) := by
  obtain ⟨page, listed, rfl⟩ : ∃ page,
      (session.run (Client.listDlqJobs params.filter)).1 = .ok page ∧
        response = ⟨page.jobs, page.total, page.hasMore⟩ := by
    obtain ⟨page, listed, responded⟩ := Program.ok_of_run_bind exec ran
    exact ⟨page, (Program.run_mapError_eq_ok exec).mp listed, (Except.ok.inj responded).symm⟩
  obtain ⟨table', present', rfl⟩ := run_listDlqJobs listed
  obtain rfl : table = table' := Except.ok.inj (present.symm.trans present')
  generalize (params.filter.matching table).length = count
  have wrap : count % 2 ^ 32 = count ↔ count < 2 ^ 32 := by omega
  rw [wrap]
  refine and_congr_right fun fits => ?_
  have more := @hasMore_iff ⟨params.filter.page table.rows, count % 2 ^ 32,
    params.filter.offset.getD 0, params.filter.limit.getD 50⟩ start rows (Nat.mod_lt _ (by decide))
  rw [Nat.mod_eq_of_lt fits] at more ⊢
  exact more

/-- The first page of an empty DLQ. -/
theorem listDlqJobs_counts_fresh :
    ∃ response, ((undisturbed 0 .fresh).run
        (Handler.listDlqJobs ⟨none, none, none, none⟩)).1 = .ok response ∧
      response.totalCount = 0 ∧ (response.hasMore = true ↔ (0 : Int) + 50 < 0) := by
  have ran : ((undisturbed 0 .fresh).run (Handler.listDlqJobs ⟨none, none, none, none⟩)).1 =
    .ok _ := rfl
  have counts := @listDlqJobs_counts_iff (undisturbed 0 .fresh) ⟨none, none, none, none⟩ _ .empty
    rfl (by decide) (by decide) ran
  exact ⟨_, ran, counts.mpr ⟨by decide, by decide⟩⟩

/-- Where offset and limit add up to `2 ^ 31`, an empty DLQ has more. -/
theorem listDlqJobs_loops :
    ¬ ∀ (session : Session) (params : DlqQueryParams) (response : DlqPageResponse)
      (table : DlqTable), session.db.dlq = .ok table →
      0 ≤ params.limit.getD 50 ∧ params.limit.getD 50 < 2 ^ 31 →
      0 ≤ params.offset.getD 0 ∧ params.offset.getD 0 < 2 ^ 31 →
      (session.run (Handler.listDlqJobs params)).1 = .ok response →
      (params.filter.matching table).length < 2 ^ 63 →
      response.totalCount = (params.filter.matching table).length ∧
        (response.hasMore = true ↔
          params.offset.getD 0 + params.limit.getD 50 < (params.filter.matching table).length) := by
  intro counts
  have ran : ((undisturbed 0 .fresh).run
    (Handler.listDlqJobs ⟨some 1, some 2147483647, none, none⟩)).1 = .ok _ := rfl
  have more := (counts _ _ _ .empty rfl (by decide) (by decide) ran (by decide)).2
  exact absurd (more.mp (by decide)) (by decide)

end Session

end Backfill
