import Mathlib.Algebra.GroupWithZero.Nat
import Mathlib.Data.List.Dedup
import Mathlib.Data.List.Sort
import Mathlib.Data.String.Basic
import Backfill.Admin.Locks

/-!
# The queue statistics (`admin.rs:88`, `admin.rs:461`)

`GET /status` and `GET /queues` send their own queries: one for the names of the queues, one that
asks for jobs without a queue, and three counts for each name. Each query reads the database at a
time of its own.
-/

namespace Backfill

/-- The queries of the status endpoints, with their bound values. -/
inductive StatusQuery
  /-- `SELECT DISTINCT queue_name FROM _private_job_queues ORDER BY queue_name` -/
  | queueNames
  /-- `SELECT EXISTS(SELECT 1 FROM _private_jobs WHERE job_queue_id IS NULL)` -/
  | hasDefaultJobs
  /-- `pending_query` -/
  | countPending (queueName : String)
  /-- `active_query` -/
  | countActive (queueName : String)
  /-- `failed_query` -/
  | countFailed (queueName : String)
  /-- the totals of `dlq_stats` -/
  | dlqTotals
  /-- the task breakdown of `dlq_stats` -/
  | dlqTaskBreakdown

namespace Database

/-- `COALESCE(q.queue_name, 'default')` of a job row. -/
def statusQueue (db : Database) (row : JobRow) : String :=
  (db.queueName? row.jobQueueId).getD "default"

/-- The rows of `pending_query`: not locked, due, attempts left. -/
def pendingJobs (db : Database) (now : Timestamp) (queueName : String) : List JobRow :=
  db.jobs.rows.filter fun row => decide (db.statusQueue row = queueName) && row.lockedAt.isNone &&
    decide (row.runAt ≤ now) && decide (row.attempts < row.maxAttempts)

/-- The rows of `active_query`: locked. -/
def activeJobs (db : Database) (queueName : String) : List JobRow :=
  db.jobs.rows.filter fun row => decide (db.statusQueue row = queueName) && row.lockedAt.isSome

/-- The rows of `failed_query`, whether locked or not. -/
def failedJobs (db : Database) (queueName : String) : List JobRow :=
  db.jobs.rows.filter fun row => decide (db.statusQueue row = queueName) && row.failed

/-- The distinct names of the queue rows, in order. -/
def queueNames (db : Database) : List String :=
  (db.jobQueues.rows.map JobQueueRow.queueName).dedup.insertionSort (· ≤ ·)

end Database

namespace StatusQuery

@[reducible] def Rows : StatusQuery → Type
  | queueNames => List String
  | hasDefaultJobs => Bool
  | dlqTaskBreakdown => List (String × Nat)
  | _ => Nat

abbrev Reply (q : StatusQuery) : Type := Except ForeignError q.Rows

/-- What a query that is not refused returns. -/
def exec (now : Timestamp) (db : Database) : (q : StatusQuery) → Reply q
  | queueNames => .ok db.queueNames
  | hasDefaultJobs => .ok (db.jobs.rows.any fun row => row.jobQueueId.isNone)
  | countPending queueName => .ok (db.pendingJobs now queueName).length
  | countActive queueName => .ok (db.activeJobs queueName).length
  | countFailed queueName => .ok (db.failedJobs queueName).length
  | dlqTotals => db.dlq.map fun table => table.rows.length
  | dlqTaskBreakdown => db.dlq.map fun table =>
      let tasks := table.rows.map DlqJob.taskIdentifier
      ((tasks.dedup.map fun task => (task, tasks.count task)).insertionSort
        fun a b => b.2 ≤ a.2).take 10

end StatusQuery

/-- What the environment does at one of these queries. -/
structure StatusTick where
  now : Timestamp
  fault : StatusQuery → Option ForeignError

/-- The reply to the query sent after `n` others, while nobody writes. -/
def StatusQuery.answer (db : Database) (ticks : Nat → StatusTick) (q : StatusQuery) (n : Nat) :
    Reply q × Nat :=
  let tick := ticks n
  (match tick.fault q with
    | some error => .error error
    | none => q.exec tick.now db,
    n + 1)

/-- A routine of the status endpoints with its own kind of error. -/
abbrev StatusRoutine (ε α : Type) : Type := Program StatusQuery StatusQuery.Reply ε α

/-- `QueueStatus`; the number of completed jobs is always 0. -/
structure QueueStatus where
  queueName : String
  pendingJobs : Nat
  activeJobs : Nat
  completedJobs : Nat
  failedJobs : Nat

/-- `SystemStatus`. -/
structure SystemStatus where
  queues : List QueueStatus
  dlqEnabled : Bool
  dlqJobCount : Nat
  totalJobs : Nat

/-- `pending_jobs + active_jobs + failed_jobs`. -/
def QueueStatus.totalJobs (status : QueueStatus) : Nat :=
  status.pendingJobs + status.activeJobs + status.failedJobs

/-- The names `get_all_queue_names` returns: `"default"` is put in front when a job has no queue and
the name is not there. -/
def withDefaultQueue (queueNames : List String) (hasDefaultJobs : Bool) : List String :=
  if hasDefaultJobs && !queueNames.contains "default" then "default" :: queueNames else queueNames

namespace StatusRoutine

/-- A query whose error is a status code and a message. -/
def fetch (q : StatusQuery) (message : String) : StatusRoutine (Nat × String) q.Rows :=
  .call q fun
    | .ok rows => .done rows
    | .error e => .fail (500, message ++ e.display)

/-- `get_queue_stats` (`admin.rs:88`). -/
def getQueueStats (queueName : String) : StatusRoutine (Nat × String) QueueStatus := do
  let pendingJobs : Nat ← fetch (.countPending queueName) "Failed to query pending jobs: "
  let activeJobs : Nat ← fetch (.countActive queueName) "Failed to query active jobs: "
  let failedJobs : Nat ← fetch (.countFailed queueName) "Failed to query failed jobs: "
  pure ⟨queueName, pendingJobs, activeJobs, 0, failedJobs⟩

/-- `get_all_queue_names` (`admin.rs:175`). -/
def getAllQueueNames : StatusRoutine (Nat × String) (List String) := do
  let queueNames : List String ← fetch .queueNames "Failed to query queue names: "
  let hasDefaultJobs : Bool ← fetch .hasDefaultJobs "Failed to check for default queue jobs: "
  pure (withDefaultQueue queueNames hasDefaultJobs)

/-- `Json(ErrorResponse::new(msg, "QUERY_ERROR"))`. -/
def queryError (error : Nat × String) : AdminError := ⟨error.1, error.2, "QUERY_ERROR"⟩

/-- `for queue_name in queue_names { queue_stats.push(get_queue_stats(..)) }` -/
def queueStatuses : List String → StatusRoutine AdminError (List QueueStatus)
  | [] => .done []
  | queueName :: queueNames => do
      let stats ← (getQueueStats queueName).mapError queryError
      let rest ← queueStatuses queueNames
      pure (stats :: rest)

/-- `dlq_stats` (`dlq.rs:475`) as far as a status reads it: the number of rows as a `u32`. -/
def dlqTotalJobs : StatusRoutine BackfillError Nat :=
  .call .dlqTotals fun
    | .error e => .fail (.sqlxError e)
    | .ok total => .call .dlqTaskBreakdown fun
        | .error e => .fail (.sqlxError e)
        | .ok _ => .done (total % 2 ^ 32)

/-- `list_queues` (`admin.rs:616`). -/
def listQueues : StatusRoutine AdminError (List QueueStatus) := do
  let queueNames ← getAllQueueNames.mapError queryError
  queueStatuses queueNames

/-- `system_status` (`admin.rs:453`). -/
def systemStatus : StatusRoutine AdminError SystemStatus := do
  let queueNames ← getAllQueueNames.mapError queryError
  let queues ← queueStatuses queueNames
  let dlqJobCount ← dlqTotalJobs.mapError fun e =>
    ⟨500, "Failed to get DLQ stats: " ++ e.display, "DLQ_ERROR"⟩
  pure ⟨queues, true, dlqJobCount, (queues.map QueueStatus.totalJobs).sum⟩

end StatusRoutine

namespace Database

/-- The statistics of a queue whose pending jobs are counted at `now`. -/
def queueStatus (db : Database) (now : Timestamp) (queueName : String) : QueueStatus where
  queueName := queueName
  pendingJobs := (db.pendingJobs now queueName).length
  activeJobs := (db.activeJobs queueName).length
  completedJobs := 0
  failedJobs := (db.failedJobs queueName).length

/-- The names that are listed. -/
def allQueueNames (db : Database) : List String :=
  withDefaultQueue db.queueNames (db.jobs.rows.any fun row => row.jobQueueId.isNone)

theorem mem_pendingJobs {db : Database} {now : Timestamp} {name : String} {row : JobRow} :
    row ∈ db.pendingJobs now name ↔ row ∈ db.jobs.rows ∧ db.statusQueue row = name ∧
      row.lockedAt = none ∧ row.runAt ≤ now ∧ row.attempts < row.maxAttempts := by
  simp [pendingJobs, and_assoc]

theorem mem_activeJobs {db : Database} {name : String} {row : JobRow} :
    row ∈ db.activeJobs name ↔
      row ∈ db.jobs.rows ∧ db.statusQueue row = name ∧ row.lockedAt ≠ none := by
  simp [activeJobs, Option.isSome_iff_ne_none]

theorem mem_failedJobs {db : Database} {name : String} {row : JobRow} :
    row ∈ db.failedJobs name ↔
      row ∈ db.jobs.rows ∧ db.statusQueue row = name ∧ row.failed = true := by
  simp [failedJobs]

theorem mem_queueNames {db : Database} {name : String} :
    name ∈ db.queueNames ↔ ∃ queue ∈ db.jobQueues.rows, queue.queueName = name := by
  simp [queueNames, List.mem_insertionSort, List.mem_dedup]

theorem nodup_allQueueNames (db : Database) : db.allQueueNames.Nodup := by
  have names : db.queueNames.Nodup :=
    (List.perm_insertionSort _ _).nodup_iff.mpr (List.nodup_dedup _)
  unfold allQueueNames withDefaultQueue
  split
  next adds =>
    refine List.nodup_cons.mpr ⟨?_, names⟩
    simp only [Bool.and_eq_true, Bool.not_eq_true', List.contains_eq_mem] at adds
    simpa using adds.2
  next => exact names

/-- The name of a queue row is listed, and so is `"default"` if it is one or if there is a job
without a queue. -/
theorem mem_allQueueNames {db : Database} {name : String} :
    name ∈ db.allQueueNames ↔ (∃ queue ∈ db.jobQueues.rows, queue.queueName = name) ∨
      (name = "default" ∧ ∃ row ∈ db.jobs.rows, row.jobQueueId = none) := by
  rw [← mem_queueNames, allQueueNames, withDefaultQueue]
  by_cases parallel : ∃ row ∈ db.jobs.rows, row.jobQueueId = none
  · by_cases present : "default" ∈ db.queueNames
    · simp [parallel, present]
      rintro rfl
      exact present
    · simp [parallel, present, or_comm]
  · simp [parallel]

end Database

namespace StatusRoutine

variable {db : Database} {ticks : Nat → StatusTick} {ε α : Type} {n : Nat}

/-- The routine ends with this value when it is run on `db` behind `n` queries. -/
def Returns (db : Database) (ticks : Nat → StatusTick) (n : Nat) (routine : StatusRoutine ε α)
    (value : α) : Prop :=
  (routine.run (StatusQuery.answer db ticks) n).1 = .ok value

theorem returns_fetch {q : StatusQuery} {message : String} {rows : q.Rows}
    (returns : Returns db ticks n (fetch q message) rows) :
    q.exec (ticks n).now db = .ok rows := by
  unfold Returns fetch at returns
  rw [Program.run_call] at returns
  cases reply : (q.answer db ticks n).1 with
  | error e =>
      rw [reply] at returns
      cases returns
  | ok rows' =>
      rw [reply] at returns
      obtain rfl := Except.ok.inj returns
      unfold StatusQuery.answer at reply
      cases fault : (ticks n).fault q with
      | some error => simp [fault] at reply
      | none => simpa [fault] using reply

/-- The statistics of a queue are those of the database, its pending jobs counted when the first
query is sent. -/
theorem returns_getQueueStats {queueName : String} {status : QueueStatus}
    (returns : Returns db ticks n (getQueueStats queueName) status) :
    status = db.queueStatus (ticks n).now queueName := by
  obtain ⟨pendingJobs, counted, returns⟩ := Program.ok_of_run_bind _ returns
  obtain ⟨activeJobs, counted', returns⟩ := Program.ok_of_run_bind _ returns
  obtain ⟨failedJobs, counted'', returns⟩ := Program.ok_of_run_bind _ returns
  obtain rfl := Except.ok.inj (returns_fetch counted)
  obtain rfl := Except.ok.inj (returns_fetch counted')
  obtain rfl := Except.ok.inj (returns_fetch counted'')
  exact (Except.ok.inj returns).symm

theorem returns_getAllQueueNames {queueNames : List String}
    (returns : Returns db ticks n getAllQueueNames queueNames) : queueNames = db.allQueueNames := by
  obtain ⟨names, listed, returns⟩ := Program.ok_of_run_bind _ returns
  obtain ⟨hasDefaultJobs, found, returns⟩ := Program.ok_of_run_bind _ returns
  obtain rfl := Except.ok.inj (returns_fetch listed)
  obtain rfl := Except.ok.inj (returns_fetch found)
  exact (Except.ok.inj returns).symm

/-- A list of statistics has those of each queue, at a time of its own. -/
theorem returns_queueStatuses {queueNames : List String} {queues : List QueueStatus}
    (distinct : queueNames.Nodup) (returns : Returns db ticks n (queueStatuses queueNames) queues) :
    ∃ times : String → Timestamp,
      queues = queueNames.map fun name => db.queueStatus (times name) name := by
  induction queueNames generalizing n queues with
  | nil =>
      obtain rfl := Except.ok.inj returns
      exact ⟨fun _ => 0, rfl⟩
  | cons queueName queueNames ih =>
      obtain ⟨absent, distinct⟩ := List.nodup_cons.mp distinct
      obtain ⟨stats, counted, returns⟩ := Program.ok_of_run_bind _ returns
      obtain ⟨rest, counted', returns⟩ := Program.ok_of_run_bind _ returns
      obtain ⟨times, rfl⟩ := ih distinct counted'
      obtain rfl := returns_getQueueStats ((Program.run_mapError_eq_ok _).mp counted)
      obtain rfl := Except.ok.inj returns
      refine ⟨fun name => if name = queueName then (ticks n).now else times name, ?_⟩
      have others : ∀ name ∈ queueNames, name ≠ queueName := by
        rintro name member rfl
        exact absent member
      simp only [List.map_cons, if_true, List.cons.injEq, true_and]
      exact List.map_congr_left fun name member => by rw [if_neg (others name member)]

/-- What `GET /queues` lists. -/
theorem returns_listQueues {queues : List QueueStatus}
    (returns : Returns db ticks n listQueues queues) :
    ∃ times : String → Timestamp,
      queues = db.allQueueNames.map fun name => db.queueStatus (times name) name := by
  obtain ⟨queueNames, listed, returns⟩ := Program.ok_of_run_bind _ returns
  obtain rfl := returns_getAllQueueNames ((Program.run_mapError_eq_ok _).mp listed)
  exact returns_queueStatuses db.nodup_allQueueNames returns

/-- What `GET /status` lists, and the sum of its counts. -/
theorem returns_systemStatus {status : SystemStatus}
    (returns : Returns db ticks n systemStatus status) :
    (∃ times : String → Timestamp,
      status.queues = db.allQueueNames.map fun name => db.queueStatus (times name) name) ∧
      status.totalJobs = (status.queues.map QueueStatus.totalJobs).sum := by
  obtain ⟨queueNames, listed, returns⟩ := Program.ok_of_run_bind _ returns
  obtain rfl := returns_getAllQueueNames ((Program.run_mapError_eq_ok _).mp listed)
  obtain ⟨queues, counted, returns⟩ := Program.ok_of_run_bind _ returns
  obtain ⟨total, -, returns⟩ := Program.ok_of_run_bind _ returns
  obtain rfl := Except.ok.inj returns
  exact ⟨returns_queueStatuses db.nodup_allQueueNames counted, rfl⟩

end StatusRoutine

namespace Database

variable {db : Database} {times : String → Timestamp}

/-- The rows behind the three counts of a queue. -/
def countedRows (db : Database) (times : String → Timestamp) (queueName : String) :
    List (List JobRow) :=
  [db.pendingJobs (times queueName) queueName, db.activeJobs queueName, db.failedJobs queueName]

/-- Every queue that has a job is listed, and no job is in two of the counts. -/
structure CountsOnce (db : Database) (times : String → Timestamp) : Prop where
  listed : ∀ row ∈ db.jobs.rows, db.statusQueue row ∈ db.allQueueNames
  apart : (db.allQueueNames.flatMap (db.countedRows times)).Pairwise List.Disjoint

/-- No job that is locked has used up its attempts; and where the queue row of a job is gone, there
is a queue with the name `"default"` or a job without a queue. -/
structure StatusReliable (db : Database) : Prop where
  attemptsLeft : ∀ row ∈ db.jobs.rows, row.lockedAt ≠ none → row.failed = false
  queuesPresent : ∀ row ∈ db.jobs.rows, row.jobQueueId ≠ none →
    db.queueName? row.jobQueueId = none →
      (∃ queue ∈ db.jobQueues.rows, queue.queueName = "default") ∨
        ∃ r ∈ db.jobs.rows, r.jobQueueId = none

/-- The counts take a job for one of its own queue. -/
theorem statusQueue_of_counted {name : String} {rows : List JobRow} {row : JobRow}
    (counted : rows ∈ db.countedRows times name) (member : row ∈ rows) :
    row ∈ db.jobs.rows ∧ db.statusQueue row = name := by
  simp only [countedRows, List.mem_cons, List.not_mem_nil, or_false] at counted
  rcases counted with rfl | rfl | rfl
  · exact (mem_pendingJobs.mp member).imp_right And.left
  · exact (mem_activeJobs.mp member).imp_right And.left
  · exact (mem_failedJobs.mp member).imp_right And.left

/-- The queue of a job is listed, unless its row is gone and `"default"` is not. -/
theorem statusQueue_listed_iff {row : JobRow} (member : row ∈ db.jobs.rows) :
    db.statusQueue row ∈ db.allQueueNames ↔
      (row.jobQueueId ≠ none → db.queueName? row.jobQueueId = none →
        "default" ∈ db.allQueueNames) := by
  unfold statusQueue
  cases refers : row.jobQueueId with
  | none =>
      have listed : "default" ∈ db.allQueueNames :=
        mem_allQueueNames.mpr (.inr ⟨rfl, row, member, refers⟩)
      simpa [queueName?] using listed
  | some queueId =>
      cases found : db.queueName? (some queueId) with
      | none => simp
      | some name =>
          obtain ⟨queue, got, rfl⟩ := Option.map_eq_some_iff.mp found
          have listed : queue.queueName ∈ db.allQueueNames :=
            mem_allQueueNames.mpr (.inl ⟨queue, (SerialTable.get?_eq_some.mp got).1, rfl⟩)
          simpa using listed

/-- The counts of one queue are apart when none of its locked jobs has used up its attempts. -/
theorem pairwise_countedRows {name : String}
    (attemptsLeft : ∀ row ∈ db.jobs.rows, row.lockedAt ≠ none → row.failed = false) :
    (db.countedRows times name).Pairwise List.Disjoint := by
  have pending_active : (db.pendingJobs (times name) name).Disjoint (db.activeJobs name) := by
    intro row pending active
    exact (mem_activeJobs.mp active).2.2 (mem_pendingJobs.mp pending).2.2.1
  have pending_failed : (db.pendingJobs (times name) name).Disjoint (db.failedJobs name) := by
    intro row pending failed
    have left := (mem_pendingJobs.mp pending).2.2.2.2
    have spent := (JobRow.failed_iff.mp (mem_failedJobs.mp failed).2.2).1
    omega
  have active_failed : (db.activeJobs name).Disjoint (db.failedJobs name) := by
    intro row active failed
    obtain ⟨member, -, locked⟩ := mem_activeJobs.mp active
    have left := attemptsLeft row member locked
    exact absurd (mem_failedJobs.mp failed).2.2 (by simp [left])
  simp [countedRows, pending_active, pending_failed, active_failed]

/-- So are the counts of different queues. -/
theorem pairwise_flatMap_countedRows
    (attemptsLeft : ∀ row ∈ db.jobs.rows, row.lockedAt ≠ none → row.failed = false) :
    (db.allQueueNames.flatMap (db.countedRows times)).Pairwise List.Disjoint := by
  refine List.pairwise_flatMap.mpr ⟨fun name _ => pairwise_countedRows attemptsLeft, ?_⟩
  refine db.nodup_allQueueNames.imp fun differ rows counted rows' counted' row member member' => ?_
  have named := (statusQueue_of_counted counted member).2
  have named' := (statusQueue_of_counted counted' member').2
  exact differ (named.symm.trans named')

theorem countsOnce_iff : db.CountsOnce times ↔ db.StatusReliable := by
  constructor
  · intro once
    refine ⟨fun row member locked => ?_, fun row member refers gone => ?_⟩
    · by_contra failed
      have listed := once.listed row member
      have apart := (List.pairwise_flatMap.mp once.apart).1 _ listed
      have active_failed : (db.activeJobs (db.statusQueue row)).Disjoint
          (db.failedJobs (db.statusQueue row)) := by
        simp [countedRows] at apart
        exact apart.2
      exact active_failed (mem_activeJobs.mpr ⟨member, rfl, locked⟩)
        (mem_failedJobs.mpr ⟨member, rfl, by simpa using failed⟩)
    · have listed := (statusQueue_listed_iff member).mp (once.listed row member) refers gone
      simpa using mem_allQueueNames.mp listed
  · intro reliable
    refine ⟨fun row member => ?_, pairwise_flatMap_countedRows reliable.attemptsLeft⟩
    rw [statusQueue_listed_iff member]
    intro refers gone
    exact mem_allQueueNames.mpr (by simpa using reliable.queuesPresent row member refers gone)

/-- The sum of the counts is the number of the rows behind them. -/
theorem sum_totalJobs (db : Database) (times : String → Timestamp) (names : List String) :
    ((names.map fun name => db.queueStatus (times name) name).map QueueStatus.totalJobs).sum =
      (names.flatMap (db.countedRows times)).flatten.length := by
  induction names with
  | nil => rfl
  | cons name names ih =>
      rw [List.map_cons, List.map_cons, List.sum_cons, ih]
      simp [queueStatus, QueueStatus.totalJobs, countedRows]
      omega

/-- Where no job is counted twice, the counts add up to no more than the jobs. -/
theorem sum_totalJobs_le (once : db.CountsOnce times) :
    ((db.allQueueNames.map fun name => db.queueStatus (times name) name).map
      QueueStatus.totalJobs).sum ≤ db.jobs.rows.length := by
  rw [sum_totalJobs]
  have distinct : (db.allQueueNames.flatMap (db.countedRows times)).flatten.Nodup := by
    refine List.nodup_flatten.mpr ⟨fun rows counted => ?_, once.apart⟩
    obtain ⟨name, -, counted⟩ := List.mem_flatMap.mp counted
    simp only [countedRows, List.mem_cons, List.not_mem_nil, or_false] at counted
    rcases counted with rfl | rfl | rfl <;> exact db.jobs.nodup.filter _
  refine (List.subperm_of_subset distinct fun row member => ?_).length_le
  obtain ⟨rows, counted, member⟩ := List.mem_flatten.mp member
  obtain ⟨name, -, counted⟩ := List.mem_flatMap.mp counted
  exact (statusQueue_of_counted counted member).1

end Database

namespace StatusRoutine

/-- The counts of `GET /status` and of `GET /queues` are made on the rows of each listed queue. They
take each job at most once, for a listed queue, and add up to no more than the jobs, exactly when no
locked job has used up its attempts and the jobs whose queue row is gone have a name to be listed
under. -/
theorem counts_once_iff (db : Database) (ticks : Nat → StatusTick) :
    (∀ status, Returns db ticks 0 systemStatus status → ∃ times : String → Timestamp,
      status.queues = db.allQueueNames.map (fun name => db.queueStatus (times name) name) ∧
        (db.CountsOnce times ∧ status.totalJobs ≤ db.jobs.rows.length ↔ db.StatusReliable)) ∧
    ∀ queues, Returns db ticks 0 listQueues queues → ∃ times : String → Timestamp,
      queues = db.allQueueNames.map (fun name => db.queueStatus (times name) name) ∧
        (db.CountsOnce times ↔ db.StatusReliable) := by
  constructor
  · intro status returns
    obtain ⟨⟨times, listed⟩, total⟩ := returns_systemStatus returns
    refine ⟨times, listed, ?_⟩
    rw [← db.countsOnce_iff, total, listed]
    exact and_iff_left_of_imp db.sum_totalJobs_le
  · intro queues returns
    obtain ⟨times, listed⟩ := returns_listQueues returns
    exact ⟨times, listed, db.countsOnce_iff⟩

/-- The schema with one job that may be tried once. -/
def waitingJob : Database := (Database.fresh.addJob 0 singleAttempt).2

/-- A status of that schema counts the job once. -/
theorem waiting_job_counted_once :
    ∃ status, Returns waitingJob (fun _ => ⟨0, fun _ => none⟩) 0 systemStatus status ∧
      ∃ times, waitingJob.CountsOnce times ∧ status.totalJobs ≤ waitingJob.jobs.rows.length := by
  obtain ⟨times, -, counts⟩ :=
    (counts_once_iff waitingJob fun _ => ⟨0, fun _ => none⟩).1 _ rfl
  exact ⟨_, rfl, times, counts.mpr ⟨by decide, by decide⟩⟩

/-- A worker is running the only attempt of a job. -/
def runningJob : Database :=
  ((waitingJob.getJob "worker" 0 1).map Prod.snd).getD .fresh

/-- That job is active and failed, so `GET /status` reports two jobs where there is one. -/
theorem running_job_counted_twice :
    ∃ status, Returns runningJob (fun _ => ⟨0, fun _ => none⟩) 0 systemStatus status ∧
      status.totalJobs = 2 ∧ runningJob.jobs.rows.length = 1 ∧
      ∃ row ∈ runningJob.activeJobs "default", row ∈ runningJob.failedJobs "default" :=
  ⟨_, rfl, rfl, rfl, _, .head _, .head _⟩

end StatusRoutine

end Backfill
