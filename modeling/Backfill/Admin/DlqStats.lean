import Mathlib.Algebra.Ring.Int.Defs
import Backfill.Admin.Dlq
import Backfill.Client.RoundTrip
import Backfill.Cluster.Journal
import Backfill.Misc.Grouping

/-!
# The statistics of the DLQ and its gauges (`dlq.rs:475`, `admin.rs:700`)

`GET /dlq/stats` sends two queries, one for the totals and one for the ten tasks with the most
records, and sets a gauge for the table and one for each of these tasks. Others write between the
queries, and no other routine sets the gauges.
-/

namespace Backfill

open Grouping Paging

/-- The row of the first query; the average is left out. -/
structure DlqTotals where
  totalJobs : Nat
  uniqueTasks : Nat
  uniqueQueues : Nat
  totalRequeued : Int
  oldestFailure : Option Timestamp
  newestFailure : Option Timestamp

/-- The tasks of some rows, each as often as it occurs. -/
def tasksOf (rows : List DlqJob) : List String := rows.map DlqJob.taskIdentifier

/-- `SELECT COUNT(*), COUNT(DISTINCT ..), .. FROM backfill_dlq`. -/
def DlqTotals.of (rows : List DlqJob) : DlqTotals where
  totalJobs := rows.length
  uniqueTasks := (tasksOf rows).dedup.length
  uniqueQueues := (rows.map DlqJob.queueName).dedup.length
  totalRequeued := (rows.map DlqJob.requeuedCount).sum
  oldestFailure := (rows.map DlqJob.failedAt).min?
  newestFailure := (rows.map DlqJob.failedAt).max?

/-- `DlqStats` (`dlq.rs:121`). Its counts are `u32`. -/
structure DlqStats where
  totalJobs : Nat
  uniqueTasks : Nat
  uniqueQueues : Nat
  totalRequeued : Int
  oldestFailure : Option Timestamp
  newestFailure : Option Timestamp
  taskBreakdown : List (String × Nat)

/-- The queries of `dlq_stats`. -/
inductive DlqStatsQuery
  | totals
  | taskBreakdown

namespace DlqStatsQuery

@[reducible] def Rows : DlqStatsQuery → Type
  | totals => DlqTotals
  | taskBreakdown => List (String × Nat)

abbrev Reply (q : DlqStatsQuery) : Type := Except ForeignError q.Rows

/-- What a query returns when the groups of tasks come in this order. -/
def exec (order : List (String × Nat)) (db : Database) : (q : DlqStatsQuery) → Reply q
  | totals => db.dlq.map fun table => .of table.rows
  | taskBreakdown => db.dlq.map fun _ => order.take 10

/-- A query the database may refuse. -/
def answer (order : List (String × Nat)) (fault : Option ForeignError) (db : Database)
    (q : DlqStatsQuery) : Reply q :=
  match fault with
  | some error => .error error
  | none => q.exec order db

end DlqStatsQuery

/-- A routine that sends these queries. -/
abbrev DlqStatsRoutine (ε α : Type) : Type := Program DlqStatsQuery DlqStatsQuery.Reply ε α

/-- `as u32` of a number of rows. -/
def asU32 (n : Nat) : Nat := n % 2 ^ 32

/-- `BackfillClient::dlq_stats` (`dlq.rs:475`), up to its gauges. -/
def Client.dlqStats : DlqStatsRoutine BackfillError DlqStats :=
  .call .totals fun
    | .error e => .fail (.sqlxError e)
    | .ok totals => .call .taskBreakdown fun
        | .error e => .fail (.sqlxError e)
        | .ok rows => .done
            { totalJobs := asU32 totals.totalJobs
              uniqueTasks := asU32 totals.uniqueTasks
              uniqueQueues := asU32 totals.uniqueQueues
              totalRequeued := totals.totalRequeued % 2 ^ 32
              oldestFailure := totals.oldestFailure
              newestFailure := totals.newestFailure
              taskBreakdown := rows.map fun row => (row.1, asU32 row.2) }

/-- `dlq_stats` (`admin.rs:700`). -/
def Handler.dlqStats : DlqStatsRoutine AdminError DlqStats :=
  Client.dlqStats.mapError fun e => ⟨500, e.display, "DLQ_STATS_FAILED"⟩

/-- The gauge `backfill_dlq_size`, without a label and with the label `task`. -/
structure DlqGauges where
  size : Option Nat
  byTask : String → Option Nat

namespace DlqGauges

/-- `update_dlq_size_by_task` (`metrics.rs:118`). -/
def updateDlqSizeByTask (gauges : DlqGauges) (row : String × Nat) : DlqGauges :=
  { gauges with byTask := fun task => if task = row.1 then some row.2 else gauges.byTask task }

/-- `update_dlq_size` (`metrics.rs:113`), and the loop over the breakdown. -/
def record (gauges : DlqGauges) (stats : DlqStats) : DlqGauges :=
  stats.taskBreakdown.foldl updateDlqSizeByTask { gauges with size := some stats.totalJobs }

@[simp] theorem size_record (gauges : DlqGauges) (stats : DlqStats) :
    (gauges.record stats).size = some stats.totalJobs := by
  have kept : ∀ (rows : List (String × Nat)) (gauges : DlqGauges),
      (rows.foldl updateDlqSizeByTask gauges).size = gauges.size := by
    intro rows
    induction rows with
    | nil => exact fun _ => rfl
    | cons row rows ih => exact fun gauges => ih _
  exact kept _ _

/-- The gauge of a task after some rows: the row of the task, or what it was. -/
theorem byTask_foldl {rows : List (String × Nat)} (distinct : (rows.map Prod.fst).Nodup)
    (gauges : DlqGauges) (task : String) :
    (∃ n, (task, n) ∈ rows ∧ (rows.foldl updateDlqSizeByTask gauges).byTask task = some n) ∨
      (∀ n, (task, n) ∉ rows) ∧
        (rows.foldl updateDlqSizeByTask gauges).byTask task = gauges.byTask task := by
  induction rows generalizing gauges with
  | nil => exact .inr ⟨fun _ => List.not_mem_nil, rfl⟩
  | cons row rows ih =>
      obtain ⟨new, distinct⟩ := List.nodup_cons.mp distinct
      rcases ih distinct (gauges.updateDlqSizeByTask row) with ⟨n, among, set⟩ | ⟨absent, kept⟩
      · exact .inl ⟨n, .tail _ among, set⟩
      · rw [List.foldl_cons, kept]
        by_cases same : task = row.1
        · exact .inl ⟨row.2, same ▸ .head _, if_pos same⟩
        · refine .inr ⟨fun n among => ?_, if_neg same⟩
          rcases List.mem_cons.mp among with is | later
          · exact same (congrArg Prod.fst is)
          · exact absent n later

end DlqGauges

/-- A request for the statistics that is being served. -/
structure DlqStatsCall where
  routine : DlqStatsRoutine AdminError DlqStats
  /-- The tables its queries have read. -/
  read : List DlqTable

/-- A journal, the gauges, and the requests that are served next to it. -/
structure DlqMonitor where
  journal : Journal
  gauges : DlqGauges
  calls : List DlqStatsCall

inductive DlqMonitorAction
  /-- a step of the journal -/
  | base (a : JournalAction)
  /-- somebody requests the statistics -/
  | call
  /-- call `i` sends its next query, and sets the gauges when that was the last one -/
  | send (i : Nat) (order : List (String × Nat)) (fault : Option ForeignError)

namespace DlqMonitor

/-- No gauge has been set. -/
def initial (now : Timestamp) (db : Database) : DlqMonitor where
  journal := .initial now db
  gauges := ⟨none, fun _ => none⟩
  calls := []

/-- The gauges once a routine has got so far. -/
def gaugesAfter (s : DlqMonitor) : DlqStatsRoutine AdminError DlqStats → DlqGauges
  | .done stats => s.gauges.record stats
  | _ => s.gauges

def send (s : DlqMonitor) (i : Nat) (order : List (String × Nat)) (fault : Option ForeignError) :
    Option DlqMonitor :=
  match s.calls[i]? with
  | some ⟨.call q next, read⟩ =>
      let routine := next (q.answer order fault s.journal.db)
      some { s with
        gauges := s.gaugesAfter routine
        calls := s.calls.set i ⟨routine, read ++ s.journal.db.dlq.toOption.toList⟩ }
  | _ => none

/-- One step; `none` when the action is not possible. -/
def step (tables : CharTables) (s : DlqMonitor) : DlqMonitorAction → Option DlqMonitor
  | .base a => (s.journal.step tables a).map fun journal => { s with journal := journal }
  | .call => some { s with calls := s.calls ++ [⟨Handler.dlqStats, []⟩] }
  | .send i order fault => s.send i order fault

/-- A query finds fewer than `2 ^ 32` rows, and its groups come sorted by their counts. -/
def Sorted (s : DlqMonitor) : DlqMonitorAction → Prop
  | .send _ order _ => ∀ table, s.journal.db.dlq = .ok table →
      table.rows.length < 2 ^ 32 ∧ Arranged Prod.snd (groups (tasksOf table.rows)) order
  | _ => True

end DlqMonitor

/-- What the statistics say of the rows that the two queries have found. -/
structure DlqStats.Describes (stats : DlqStats) (first second : List DlqJob) : Prop where
  totalJobs : stats.totalJobs = first.length
  uniqueTasks : stats.uniqueTasks = (tasksOf first).dedup.length
  uniqueQueues : stats.uniqueQueues = (first.map DlqJob.queueName).dedup.length
  totalRequeued : stats.totalRequeued = (first.map DlqJob.requeuedCount).sum % 2 ^ 32
  oldestFailure : stats.oldestFailure = (first.map DlqJob.failedAt).min?
  newestFailure : stats.newestFailure = (first.map DlqJob.failedAt).max?
  largest : Largest 10 (tasksOf second) stats.taskBreakdown

namespace DlqMonitor

variable {tables : CharTables} {s s' : DlqMonitor} {a : DlqMonitorAction}
  {table : DlqTable} {order : List (String × Nat)}

theorem asU32_of_lt {n : Nat} (few : n < 2 ^ 32) : asU32 n = n := Nat.mod_eq_of_lt few

/-- Where there are fewer than `2 ^ 32` rows, no cast changes a count. -/
theorem breakdown_eq (few : table.rows.length < 2 ^ 32)
    (sorted : Arranged Prod.snd (groups (tasksOf table.rows)) order) :
    (order.take 10).map (fun row => (row.1, asU32 row.2)) = order.take 10 := by
  have largest := largest_take sorted 10
  have short : ∀ row ∈ order.take 10, (row.1, asU32 row.2) = row := by
    intro row among
    have part : row.2 ≤ (tasksOf table.rows).length :=
      (largest.counted row.1 row.2 among).1 ▸ List.count_le_length
    rw [tasksOf, List.length_map] at part
    rw [asU32_of_lt (by omega)]
  exact (List.map_congr_left short).trans (List.map_id _)

/-- The statistics of these totals and this breakdown. -/
def statsOf (totals : DlqTotals) (rows : List (String × Nat)) : DlqStats where
  totalJobs := asU32 totals.totalJobs
  uniqueTasks := asU32 totals.uniqueTasks
  uniqueQueues := asU32 totals.uniqueQueues
  totalRequeued := totals.totalRequeued % 2 ^ 32
  oldestFailure := totals.oldestFailure
  newestFailure := totals.newestFailure
  taskBreakdown := rows.map fun row => (row.1, asU32 row.2)

/-- The second half of a request. -/
def breakdown (totals : DlqTotals) : DlqStatsRoutine AdminError DlqStats :=
  .call .taskBreakdown fun
    | .error e => .fail ⟨500, (BackfillError.sqlxError e).display, "DLQ_STATS_FAILED"⟩
    | .ok rows => .done (statsOf totals rows)

theorem dlqStats_eq : Handler.dlqStats = .call .totals fun
    | .error e => .fail ⟨500, (BackfillError.sqlxError e).display, "DLQ_STATS_FAILED"⟩
    | .ok totals => breakdown totals := by
  refine congrArg (Program.call DlqStatsQuery.totals) (funext fun totals => ?_)
  cases totals with
  | error e => rfl
  | ok totals =>
      refine congrArg (Program.call DlqStatsQuery.taskBreakdown) (funext fun rows => ?_)
      cases rows <;> rfl

/-- The two readings of fewer than `2 ^ 32` rows. -/
theorem describes_statsOf {first second : DlqTable} (few : first.rows.length < 2 ^ 32)
    (few' : second.rows.length < 2 ^ 32)
    (sorted : Arranged Prod.snd (groups (tasksOf second.rows)) order) :
    (statsOf (.of first.rows) (order.take 10)).Describes first.rows second.rows := by
  have tasks : (tasksOf first.rows).dedup.length ≤ first.rows.length := by
    have part := (List.dedup_sublist (tasksOf first.rows)).length_le
    rwa [tasksOf, List.length_map] at part
  have queues : (first.rows.map DlqJob.queueName).dedup.length ≤ first.rows.length := by
    have part := (List.dedup_sublist (first.rows.map DlqJob.queueName)).length_le
    rwa [List.length_map] at part
  refine ⟨asU32_of_lt few, asU32_of_lt (lt_of_le_of_lt tasks few),
    asU32_of_lt (lt_of_le_of_lt queues few), rfl, rfl, rfl, ?_⟩
  show Largest 10 _ ((order.take 10).map _)
  rw [breakdown_eq few' sorted]
  exact largest_take sorted 10

/-- How far a request has come, with the tables it has read. -/
inductive Stage : DlqStatsCall → Prop
  | begins : Stage ⟨Handler.dlqStats, []⟩
  | counted {first : DlqTable} (few : first.rows.length < 2 ^ 32) :
      Stage ⟨breakdown (.of first.rows), [first]⟩
  | done {first second : DlqTable} {stats : DlqStats}
      (describes : stats.Describes first.rows second.rows) : Stage ⟨.done stats, [first, second]⟩
  | failed {read : List DlqTable} {e : AdminError} : Stage ⟨.fail e, read⟩

theorem Stage.described {stats : DlqStats} {read : List DlqTable}
    (stage : Stage ⟨.done stats, read⟩) :
    ∃ first second, read = [first, second] ∧ stats.Describes first.rows second.rows := by
  generalize ended : (⟨.done stats, read⟩ : DlqStatsCall) = c at stage
  cases stage with
  | done describes =>
      obtain ⟨routine, rfl⟩ := DlqStatsCall.mk.inj ended
      obtain rfl := Program.done.inj routine
      exact ⟨_, _, rfl, describes⟩
  | begins =>
      rw [dlqStats_eq] at ended
      cases ended
  | counted few => cases ended
  | failed => cases ended

/-- A query is answered. -/
theorem Stage.answer {q : DlqStatsQuery} {read : List DlqTable} {db : Database}
    {next : DlqStatsQuery.Reply q → DlqStatsRoutine AdminError DlqStats}
    (stage : Stage ⟨.call q next, read⟩) (fault : Option ForeignError)
    (sorted : ∀ table, db.dlq = .ok table → table.rows.length < 2 ^ 32 ∧
      Arranged Prod.snd (groups (tasksOf table.rows)) order) :
    Stage ⟨next (q.answer order fault db), read ++ db.dlq.toOption.toList⟩ := by
  generalize called : (⟨.call q next, read⟩ : DlqStatsCall) = c at stage
  cases stage with
  | begins =>
      obtain ⟨routine, rfl⟩ := DlqStatsCall.mk.inj called
      rw [dlqStats_eq] at routine
      obtain ⟨rfl, same⟩ := Program.call.inj routine
      obtain rfl := eq_of_heq same
      cases fault with
      | some error => exact .failed
      | none =>
          cases present : db.dlq with
          | error missing =>
              simp only [DlqStatsQuery.answer, DlqStatsQuery.exec, present]
              exact .failed
          | ok table =>
              simp only [DlqStatsQuery.answer, DlqStatsQuery.exec, present]
              exact .counted (sorted table present).1
  | counted few =>
      obtain ⟨routine, rfl⟩ := DlqStatsCall.mk.inj called
      obtain ⟨rfl, same⟩ := Program.call.inj routine
      obtain rfl := eq_of_heq same
      cases fault with
      | some error => exact .failed
      | none =>
          cases present : db.dlq with
          | error missing =>
              simp only [DlqStatsQuery.answer, DlqStatsQuery.exec, present]
              exact .failed
          | ok table =>
              simp only [DlqStatsQuery.answer, DlqStatsQuery.exec, present]
              obtain ⟨few', sorted⟩ := sorted table present
              exact .done (describes_statsOf few few' sorted)
  | done describes => cases called
  | failed => cases called

/-- What every run keeps: the requests are as far as their tables tell, and a gauge of a task is set
to a count that one of them has read. -/
structure Monitors (s : DlqMonitor) : Prop where
  stages : ∀ c ∈ s.calls, Stage c
  gauges : ∀ task n, s.gauges.byTask task = some n → 0 < n ∧ ∃ c ∈ s.calls, ∃ table ∈ c.read,
    n = (tasksOf table.rows).count task

theorem send_some {i : Nat} {fault : Option ForeignError} (sent : s.send i order fault = some s') :
    ∃ q next read, s.calls[i]? = some ⟨.call q next, read⟩ ∧
      s' = { s with
        gauges := s.gaugesAfter (next (q.answer order fault s.journal.db))
        calls := s.calls.set i
          ⟨next (q.answer order fault s.journal.db),
            read ++ s.journal.db.dlq.toOption.toList⟩ } := by
  unfold send at sent
  split at sent
  next q next read entry =>
    obtain rfl := Option.some.inj sent
    exact ⟨q, next, read, entry, rfl⟩
  next => cases sent

/-- A request that is over has set its gauges. -/
theorem byTask_gaugesAfter {stats : DlqStats} {first second : List DlqJob}
    (describes : stats.Describes first second) (task : String) :
    (∃ n, (task, n) ∈ stats.taskBreakdown ∧
      (s.gaugesAfter (.done stats)).byTask task = some n) ∨
      (∀ n, (task, n) ∉ stats.taskBreakdown) ∧
        (s.gaugesAfter (.done stats)).byTask task = s.gauges.byTask task :=
  DlqGauges.byTask_foldl describes.largest.distinct _ task

theorem Monitors.send {i : Nat} {fault : Option ForeignError} (monitors : s.Monitors)
    (sorted : s.Sorted (.send i order fault)) (sent : s.send i order fault = some s') :
    s'.Monitors := by
  obtain ⟨q, next, read, entry, rfl⟩ := send_some sent
  have stage := (monitors.stages _ (List.mem_of_getElem? entry)).answer fault sorted
  generalize next (q.answer order fault s.journal.db) = routine at stage ⊢
  have inside : i < s.calls.length := (List.getElem?_eq_some_iff.mp entry).1
  have own : ⟨routine, read ++ s.journal.db.dlq.toOption.toList⟩ ∈
      s.calls.set i ⟨routine, read ++ s.journal.db.dlq.toOption.toList⟩ := List.mem_set inside _
  have earlier : ∀ task n, s.gauges.byTask task = some n → 0 < n ∧ ∃ c ∈ s.calls.set i
      ⟨routine, read ++ s.journal.db.dlq.toOption.toList⟩, ∃ table ∈ c.read,
        n = (tasksOf table.rows).count task := by
    intro task n set
    obtain ⟨positive, c, among, table, reads, counts⟩ := monitors.gauges task n set
    obtain ⟨k, found⟩ := List.getElem?_of_mem among
    by_cases same : i = k
    · obtain rfl := same
      obtain rfl := Option.some.inj (entry.symm.trans found)
      exact ⟨positive, _, own, table, List.mem_append_left _ reads, counts⟩
    · refine ⟨positive, c, ?_, table, reads, counts⟩
      exact List.mem_of_getElem? ((List.getElem?_set_ne same).trans found)
  refine ⟨fun c among => ?_, fun task n set => ?_⟩
  · rcases List.mem_or_eq_of_mem_set among with old | rfl
    · exact monitors.stages c old
    · exact stage
  · cases routine with
    | call q next => exact earlier task n set
    | fail e => exact earlier task n set
    | done stats =>
        obtain ⟨first, second, reads, describes⟩ := stage.described
        rcases byTask_gaugesAfter (s := s) describes task with ⟨m, among, is⟩ | ⟨-, kept⟩
        · obtain rfl := Option.some.inj (is.symm.trans set)
          obtain ⟨counts, positive⟩ := describes.largest.counted task m among
          exact ⟨positive, _, own, second, by simp [reads], counts⟩
        · exact earlier task n (kept.symm.trans set)

theorem Monitors.step (monitors : s.Monitors) (sorted : s.Sorted a)
    (taken : s.step tables a = some s') : s'.Monitors := by
  cases a with
  | base a =>
      obtain ⟨journal, moved, rfl⟩ := Option.map_eq_some_iff.mp taken
      exact ⟨monitors.stages, monitors.gauges⟩
  | send i order fault => exact monitors.send sorted taken
  | call =>
      obtain rfl := Option.some.inj taken
      refine ⟨fun c among => ?_, fun task n set => ?_⟩
      · rcases List.mem_append.mp among with old | new
        · exact monitors.stages c old
        · obtain rfl := List.mem_singleton.mp new
          exact .begins
      · obtain ⟨positive, c, among, found⟩ := monitors.gauges task n set
        exact ⟨positive, c, List.mem_append_left _ among, found⟩

/-- However requests are interleaved with each other and with all writers: what a request reports is
what its two queries have found, with the ten largest tasks among all rows; a request that ends has
set the gauges of these tasks; and the gauge of a task is never 0: it has the count of a reading in
which the task had a record. -/
theorem stats_true {now : Timestamp} {db : Database} {as : List DlqMonitorAction}
    (path : Transition.Run (step tables) Sorted (initial now db) as s) :
    (∀ c ∈ s.calls, ∀ stats, c.routine = .done stats → ∃ first second, c.read = [first, second] ∧
      stats.Describes first.rows second.rows) ∧
    (∀ i order fault s' stats read, s.Sorted (.send i order fault) →
      s.step tables (.send i order fault) = some s' → s'.calls[i]? = some ⟨.done stats, read⟩ →
        s'.gauges.size = some stats.totalJobs ∧
          ∀ task n, (task, n) ∈ stats.taskBreakdown → s'.gauges.byTask task = some n) ∧
    ∀ task n, s.gauges.byTask task = some n → 0 < n ∧ ∃ c ∈ s.calls, ∃ table ∈ c.read,
      n = (tasksOf table.rows).count task := by
  have monitors : s.Monitors :=
    path.invariant (fun _ _ _ monitors sorted taken => monitors.step sorted taken)
      ⟨fun c among => (by cases among), fun task n set => by cases set⟩
  refine ⟨fun c among stats ended => ?_, fun i order fault s' stats read sorted taken ended => ?_,
    monitors.gauges⟩
  · obtain ⟨routine, read⟩ := c
    obtain rfl := ended
    exact (monitors.stages _ among).described
  · have monitors' := monitors.send sorted taken
    obtain ⟨q, next, before, entry, rfl⟩ := send_some taken
    obtain ⟨first, second, -, describes⟩ :=
      (monitors'.stages _ (List.mem_of_getElem? ended)).described
    have inside : i < s.calls.length := (List.getElem?_eq_some_iff.mp entry).1
    rw [List.getElem?_set_self inside] at ended
    obtain ⟨routine, -⟩ := DlqStatsCall.mk.inj (Option.some.inj ended)
    simp only [routine]
    refine ⟨DlqGauges.size_record _ _, fun task n among => ?_⟩
    rcases byTask_gaugesAfter (s := s) describes task with ⟨m, among', is⟩ | ⟨absent, -⟩
    · have counts := (describes.largest.counted task n among).1
      have counts' := (describes.largest.counted task m among').1
      rw [is, counts, counts']
    · exact absurd among (absent n)

/-- The only record of a task is deleted between two requests: the gauge of the task stays. -/
theorem stats_true_stale :
    ∃ s : DlqMonitor, s.journal.db.dlqRows = [] ∧ s.gauges.size = some 0 ∧
      s.gauges.byTask "send_email" = some 1 ∧
      ∀ task n, s.gauges.byTask task = some n → 0 < n ∧ ∃ c ∈ s.calls, ∃ table ∈ c.read,
        n = (tasksOf table.rows).count task := by
  obtain ⟨s, path, gone, size, stale⟩ : ∃ s, Transition.Run (step .ascii) Sorted
      (initial 0 (Session.movedInvoice "invoices").db)
      [.call, .send 0 [("send_email", 1)] none, .send 0 [("send_email", 1)] none,
        .base (.base (.start (Client.deleteDlqByJobKey "invoice"))), .base (.base (.send 0 none)),
        .call, .send 1 [] none, .send 1 [] none] s ∧ s.journal.db.dlqRows = [] ∧
      s.gauges.size = some 0 ∧ s.gauges.byTask "send_email" = some 1 := by
    refine ⟨_, .cons trivial rfl <| .cons (fun table present => ?_) rfl <|
      .cons (fun table present => ?_) rfl <| .cons trivial rfl <| .cons trivial rfl <|
      .cons trivial rfl <| .cons (fun table present => ?_) rfl <|
      .cons (fun table present => ?_) rfl <| .nil _, rfl, rfl, rfl⟩
    all_goals obtain rfl := Except.ok.inj present
    all_goals exact ⟨by decide, .refl _, by decide⟩
  exact ⟨s, gone, size, stale, (stats_true path).2.2⟩

end DlqMonitor

end Backfill
