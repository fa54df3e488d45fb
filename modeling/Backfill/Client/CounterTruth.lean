import Backfill.Client.Counters
import Backfill.Client.DlqTable
import Backfill.Client.RoundTrip

/-!
# The counters and the database

A counter is never behind the database, or ahead of it, for longer than a routine lasts. Once no
routine is under way, the counters stand at the locks that the releases have cleared, the rows that
the deletions have taken out, the rows that have gone into the DLQ, and the jobs that have been
added, whoever else has written in between and whichever of the statements have been refused.
-/

namespace Backfill

open Metering

namespace Database

variable (before after : Database)

/-- The DLQ rows that are gone. -/
def dlqGone : List DlqJob :=
  before.dlqRows.filter fun row => row.id ∉ after.dlqRows.map DlqJob.id

/-- The DLQ rows that are new, or whose failures have been counted up. -/
def dlqWritten : List DlqJob :=
  after.dlqRows.filter fun row =>
    (row.id, row.failureCount) ∉ before.dlqRows.map fun old => (old.id, old.failureCount)

/-- What a row of the queue counts for once it has been added: its queue, its task and its priority
as they stand in its columns. -/
def earnsRow (db : Database) (row : JobRow) : Series → Int :=
  (Series.dbOperations "enqueue" "success").counts 1 +
    (Series.jobsEnqueued (if row.jobQueueId = none then "parallel" else "serial")
      ((db.taskIdentifier? row.taskId).getD "") (.ofInt row.priority)).counts 1

/-- The row an enqueue reports refers to its task and its queue, and has its priority. -/
theorem addJob_columns {db : Database} {job : NewJob} {now : Timestamp} {written : JobRow}
    (reported : (db.addJob now job).1 = some written) :
    written.taskId = (db.prepared job).taskId job.identifier ∧
      written.jobQueueId = (db.prepared job).jobQueueId job.queueName ∧
      written.priority = job.priority := by
  rcases addJob_reported reported with ⟨old, -, ⟨-, -, -, replaces⟩, rfl⟩ | rfl
  · simp [NewJob.overwrite, replaces]
  · exact ⟨rfl, rfl, rfl⟩

/-- An enqueue without a queue name adds a parallel job, and only such an enqueue does. -/
theorem jobQueueId_eq_none_iff (db : Database) (job : NewJob) :
    (db.prepared job).jobQueueId job.queueName = none ↔ job.queueName = none := by
  cases named : job.queueName with
  | none => exact ⟨fun _ => rfl, fun _ => rfl⟩
  | some queueName =>
      obtain ⟨queue, -, found, -⟩ := db.jobQueueId_prepared job named
      rw [named] at found
      simp [found]

end Database

/-- What is gone is the difference. -/
theorem Series.counts_sub {series : Series} {gone after before : Nat}
    (whole : after + gone = before) :
    series.counts gone = series.counts ((before : Int) - (after : Int)) := by
  rw [← whole, Int.natCast_add, add_sub_cancel_left]

namespace Statement

/-- What a statement has done to the database, in counts. Only an enqueue that has added nothing
counts by its answer. -/
def visible : (s : Statement) → Reply s → Database → Database → Series → Int
  | releaseQueueLocks _, _, before, after =>
      Series.cleanupQueueLocksReleased.counts
        ((before.jobQueues.rows.countP fun row => row.lockedAt.isSome) -
          (after.jobQueues.rows.countP fun row => row.lockedAt.isSome))
  | releaseJobLocks _, _, before, after =>
      Series.cleanupJobLocksReleased.counts
        ((before.jobs.rows.countP fun row => row.lockedAt.isSome) -
          (after.jobs.rows.countP fun row => row.lockedAt.isSome))
  | deleteFailedJobs, _, before, after =>
      Series.cleanupFailedJobsDeleted.counts (before.jobs.rows.length - after.jobs.rows.length)
  | deleteDlqJob _, _, before, after =>
      ((before.dlqGone after).map fun row =>
        (Series.dlqJobsDeleted row.taskIdentifier).counts 1).sum
  | deleteDlqByJobKey _, _, before, after =>
      ((before.dlqGone after).map fun _ => (Series.dlqJobsDeleted "(by_job_key)").counts 1).sum
  | upsertDlq _, _, before, after => ((before.dlqWritten after).map earnsUpserted).sum
  | addJob _ _ _, .ok (some job), _, after =>
      ((after.jobs.rows.filter fun row => row.id = job.id).map after.earnsRow).sum
  | addJob identifier _ spec, .ok none, _, _ => earnsRefused identifier spec rowNotFound
  | addJob identifier _ spec, .error e, _, _ => earnsRefused identifier spec e
  | _, _, _, _ => 0

variable {s : Statement} {now : Timestamp} {fault : Option ForeignError} {db : Database}

theorem lockedBefore_isSome {cutoff : Timestamp} {lockedAt : Option Timestamp}
    (stale : lockedBefore cutoff lockedAt = true) : lockedAt.isSome = true := by
  obtain ⟨taken, locked, -⟩ := lockedBefore_iff.mp stale
  rw [locked]
  rfl

/-- Nothing is gone from a database that has not changed. -/
theorem dlqGone_self : db.dlqGone db = [] := by
  refine List.filter_eq_nil_iff.mpr fun row member => ?_
  simpa using ⟨row, member, rfl⟩

theorem dlqWritten_self : db.dlqWritten db = [] := by
  refine List.filter_eq_nil_iff.mpr fun row member => ?_
  simpa using ⟨row, member, rfl, rfl⟩

/-- A statement that is refused changes nothing and counts for nothing, unless it adds a job. -/
theorem visible_refused (e : ForeignError) : s.visible (.error e) db db = s.earns (.error e) := by
  cases s <;> simp [visible, earns, earnsAdded, dlqGone_self, dlqWritten_self, Series.counts_zero]

/-- The rows that a deletion of the DLQ takes out. -/
theorem dlqGone_delete {table : DlqTable} {p : DlqJob → Bool} (present : db.dlq = .ok table) :
    db.dlqGone { db with dlq := .ok (table.delete p) } = table.rows.filter p := by
  unfold Database.dlqGone
  rw [Database.dlqRows_ok present]
  exact SerialTable.filter_gone_delete

/-- The row an insertion returns was not there before: it is new, or has been counted up. -/
theorem upsertedIn_is_new (values : DlqInsert) (table : DlqTable) :
    ∀ old ∈ table.rows, old.id = (values.upsertedIn table now).id →
      old.failureCount ≠ (values.upsertedIn table now).failureCount := by
  intro old member same
  rcases table.upserted_cases (values.draft now) (values.touch now) with
    ⟨holder, holds, -, -, -, copy⟩ | ⟨-, copy⟩ <;> rw [DlqInsert.upsertedIn, copy] at same ⊢
  · rw [(values.touch now).id_eq] at same
    rw [table.eq_of_id_eq member holds same]
    show holder.failureCount ≠ holder.failureCount + 1
    omega
  · have below := table.id_lt old member
    rw [same, (values.draft now).id_eq] at below
    exact absurd below (Int.lt_irrefl _)

/-- An insertion writes one row, the one it returns. -/
theorem dlqWritten_upsert {table : DlqTable} (values : DlqInsert) (present : db.dlq = .ok table) :
    db.dlqWritten { db with dlq := .ok (values.upsertInto table now) } =
      [values.upsertedIn table now] := by
  unfold Database.dlqWritten
  rw [Database.dlqRows_ok present]
  have written : values.upsertedIn table now ∈ (values.upsertInto table now).rows :=
    SerialTable.upserted_mem
  refine SerialTable.filter_eq_singleton written fun row member => ?_
  rw [decide_eq_true_eq]
  constructor
  · intro new
    by_contra other
    have differs : row.id ≠ (values.upsertedIn table now).id := fun same =>
      other (SerialTable.eq_of_id_eq _ member written same)
    have before : row ∈ table.rows := (SerialTable.mem_upsert_of_id_ne differs).mp member
    exact new (List.mem_map.mpr ⟨row, before, rfl⟩)
  · rintro rfl among
    obtain ⟨old, there, same⟩ := List.mem_map.mp among
    obtain ⟨sameId, sameCount⟩ := Prod.mk.inj same
    exact upsertedIn_is_new values table old there sameId sameCount

/-- An added job is one row of the queue, and its metrics are labelled by the columns of the row. -/
theorem earns_addJob (identifier : String) (payload : Json) (spec : GraphileJobSpec)
    {written : JobRow}
    (reported : (db.addJob now (spec.newJob identifier payload now)).1 = some written) :
    let after := (db.addJob now (spec.newJob identifier payload now)).2
    (after.jobs.rows.filter fun row => row.id = written.id) = [written] ∧
      after.earnsRow written =
        (Series.dbOperations "enqueue" "success").counts 1 +
          (Series.jobsEnqueued (queueLabel spec) identifier (spec.priority.getD 0)).counts 1 := by
  intro after
  have there := (Database.addJob_written reported).1
  obtain ⟨taskId, jobQueueId, priority⟩ := Database.addJob_columns reported
  refine ⟨?_, ?_⟩
  · refine SerialTable.filter_eq_singleton there fun row member => ?_
    rw [decide_eq_true_eq]
    exact ⟨fun same => after.jobs.eq_of_id_eq member there same, fun is => is ▸ rfl⟩
  · have task : after.taskIdentifier? written.taskId = some identifier := by
      obtain ⟨task, member, same, named⟩ :=
        db.taskId_prepared (spec.newJob identifier payload now)
      have found := SerialTable.get?_eq_some.mpr ⟨member, same⟩
      rw [taskId]
      exact (congrArg (Option.map TaskRow.identifier) found).trans (congrArg some named)
    have queue : (if written.jobQueueId = none then "parallel" else "serial") = queueLabel spec := by
      have parallel := db.jobQueueId_eq_none_iff (spec.newJob identifier payload now)
      cases named : spec.queueName with
      | none => rw [if_pos (jobQueueId.trans (parallel.mpr named)), queueLabel, named]
      | some queueName =>
          have serial : written.jobQueueId ≠ none := fun none =>
            Option.some_ne_none queueName (named.symm.trans (parallel.mp (jobQueueId.symm.trans none)))
          rw [if_neg serial, queueLabel, named]
    have band : Int16.ofInt written.priority = spec.priority.getD 0 := by
      rw [priority]
      exact Int16.ofInt_toInt _
    rw [Database.earnsRow, task, queue, band]
    rfl

/-- What the answer of a statement counts for is what it has done. -/
theorem earns_answer (s : Statement) (now : Timestamp) (fault : Option ForeignError)
    (db : Database) :
    s.earns (s.answer now fault db).1 =
      s.visible (s.answer now fault db).1 db (s.answer now fault db).2 := by
  cases fault with
  | some e => exact (visible_refused e).symm
  | none =>
      rw [answer_none]
      cases s with
      | releaseQueueLocks secs =>
          have released := db.jobQueues.countP_update (q := fun row => row.lockedAt.isSome)
            (e := JobQueueRow.unlock) (p := fun row => lockedBefore (lockCutoff now secs) row.lockedAt)
            (fun row member stale => lockedBefore_isSome stale) fun row => rfl
          exact Series.counts_sub released
      | releaseJobLocks secs =>
          have released := db.jobs.countP_update (q := fun row => row.lockedAt.isSome)
            (e := JobRow.unlock) (p := fun row => lockedBefore (lockCutoff now secs) row.lockedAt)
            (fun row member stale => lockedBefore_isSome stale) fun row => rfl
          exact Series.counts_sub released
      | deleteFailedJobs =>
          have kept := List.length_eq_length_filter_add (l := db.jobs.rows)
            fun row => row.exhausted && row.lockedAt.isNone
          exact Series.counts_sub ((Nat.add_comm ..).trans kept.symm)
      | deleteDlqJob dlqId =>
          cases present : db.dlq with
          | error missing =>
              simp only [exec, present]
              exact (visible_refused missing).symm
          | ok table =>
              simp only [exec, present, visible, dlqGone_delete present, SerialTable.filter_id_eq]
              cases table.get? dlqId <;> simp [earns]
      | deleteDlqByJobKey jobKey =>
          cases present : db.dlq with
          | error missing =>
              simp only [exec, present]
              exact (visible_refused missing).symm
          | ok table =>
              simp only [exec, present, visible, dlqGone_delete present, earns]
              have few := table.length_filter_index_le jobKey
              cases gone : table.rows.filter fun row => decide (row.jobKey = some jobKey) with
              | nil => simp
              | cons row rest =>
                  rw [gone] at few
                  obtain rfl : rest = [] := List.length_eq_zero_iff.mp (by simpa using few)
                  simp
      | upsertDlq values =>
          cases present : db.dlq with
          | error missing =>
              simp only [exec, present]
              exact (visible_refused missing).symm
          | ok table =>
              simp only [exec, present, visible, dlqWritten_upsert values present, earns]
              simp
      | addJob identifier payload spec =>
          simp only [exec]
          cases reported : (db.addJob now (spec.newJob identifier payload now)).1 with
          | none => rfl
          | some written =>
              obtain ⟨row, counted⟩ := earns_addJob identifier payload spec reported
              simp only [Option.map_some, visible, earns, earnsAdded, row, List.map_cons,
                List.map_nil, List.sum_cons, List.sum_nil, counted, add_zero]
      | _ => rfl

end Statement

namespace MeteredClient

/-- A routine that is left to itself. -/
def ended {α : Type} (routine : MeteredClient α) : MeteredClient Unit :=
  routine.attempt >>= fun _ => .done ()

/-- The routines of the client that count what they do. -/
inductive Routine : MeteredClient Unit → Prop
  | releaseStaleQueueLocks (timeout : Duration) : Routine (ended (releaseStaleQueueLocks timeout))
  | releaseStaleJobLocks (timeout : Duration) : Routine (ended (releaseStaleJobLocks timeout))
  | cleanupPermanentlyFailedJobs : Routine (ended cleanupPermanentlyFailedJobs)
  | startupCleanupWithTimeouts (queueLockTimeout jobLockTimeout : Duration) :
      Routine (ended (startupCleanupWithTimeouts queueLockTimeout jobLockTimeout))
  | staleLockCleanupTick (tables : CharTables) (queueLockTimeout jobLockTimeout : Duration) :
      Routine (ended (staleLockCleanupTick tables queueLockTimeout jobLockTimeout))
  | enqueue (taskIdentifier : String) (payload : Json) (spec : JobSpec) :
      Routine (ended (enqueue taskIdentifier payload spec))
  | getDlqJob (dlqId : Int) : Routine (ended (getDlqJob dlqId))
  | requeueDlqJob (dlqId : Int) (notes : Option String) :
      Routine (ended (requeueDlqJob dlqId notes))
  | deleteDlqJob (dlqId : Int) : Routine (ended (deleteDlqJob dlqId))
  | deleteDlqByJobKey (jobKey : String) : Routine (ended (deleteDlqByJobKey jobKey))
  | addToDlq (originalJob : Job) (failureReason : String) (lastError : Option Json) :
      Routine (ended (addToDlq originalJob failureReason lastError))
  | listDlqJobs (filter : DlqFilter) : Routine (ended (listDlqJobs filter))

theorem Settles.ended {α : Type} {routine : MeteredClient α} (settles : Settles routine) :
    Settles routine.ended :=
  (Metered.Owes.attempt settles).bind fun _ => rfl

theorem Routine.settles {program : MeteredClient Unit} (routine : Routine program) :
    Settles program := by
  cases routine with
  | releaseStaleQueueLocks timeout => exact (settles_releaseStaleQueueLocks timeout).ended
  | releaseStaleJobLocks timeout => exact (settles_releaseStaleJobLocks timeout).ended
  | cleanupPermanentlyFailedJobs => exact settles_cleanupPermanentlyFailedJobs.ended
  | startupCleanupWithTimeouts queueLockTimeout jobLockTimeout =>
      exact (settles_startupCleanupWithTimeouts _ _).ended
  | staleLockCleanupTick tables queueLockTimeout jobLockTimeout =>
      exact (settles_staleLockCleanupTick tables _ _).ended
  | enqueue taskIdentifier payload spec => exact (settles_enqueue _ payload _).ended
  | getDlqJob dlqId => exact (settles_getDlqJob dlqId).ended
  | requeueDlqJob dlqId notes => exact (settles_requeueDlqJob dlqId notes).ended
  | deleteDlqJob dlqId => exact (settles_deleteDlqJob dlqId).ended
  | deleteDlqByJobKey jobKey => exact (settles_deleteDlqByJobKey jobKey).ended
  | addToDlq originalJob failureReason lastError =>
      exact (settles_addToDlq originalJob failureReason lastError).ended
  | listDlqJobs filter => exact (settles_listDlqJobs filter).ended

/-- Any number of routines on one database, beside whoever else writes to it. -/
abbrev Fleet : Type :=
  Metering.Fleet Database Statement Statement.Reply Metric BackfillError Unit

abbrev FleetAction : Type :=
  Metering.FleetAction Database Statement Statement.Reply Metric BackfillError Unit
    (Timestamp × Option ForeignError)

/-- When a statement is performed, and whether it is refused. -/
def perform (e : Timestamp × Option ForeignError) (s : Statement) (db : Database) :
    Statement.Reply s × Database :=
  s.answer e.1 e.2 db

/-- Only routines of the client are started. -/
def StartsRoutines (_ : Fleet) (a : FleetAction) : Prop :=
  ∀ program, a = .start program → Routine program

/-- What a step of a routine adds to the counters. -/
def counted (s : Fleet) (a : FleetAction) : Series → Int :=
  Metering.Fleet.paid Metric.worth s a

/-- What a step of a routine does to the database. -/
def done (s : Fleet) (a : FleetAction) : Series → Int :=
  Metering.Fleet.made Statement.visible perform s a

/-- Whenever no routine is under way, the counters stand at what the routines have done to the
database. -/
theorem counters_true {db : Database} {as : List FleetAction} {t : Fleet}
    (path : Transition.Run (Metering.Fleet.step perform) StartsRoutines ⟨db, []⟩ as t)
    (idle : ∀ program ∈ t.programs, program.next? = none) :
    Transition.tally (Metering.Fleet.step perform) counted ⟨db, []⟩ as =
      Transition.tally (Metering.Fleet.step perform) done ⟨db, []⟩ as := by
  have settled : Transition.Run (Metering.Fleet.step perform)
      (Metering.Fleet.StartsSettled Statement.earns Metric.worth) ⟨db, []⟩ as t :=
    path.imp fun s a starts program is => (starts program is).settles
  have agrees : done = Metering.Fleet.earned Statement.earns perform := by
    funext s a
    exact (Metering.Fleet.earned_eq_made
      (fun (e : Timestamp × Option ForeignError) op db => op.earns_answer e.1 e.2 db) s a).symm
  rw [agrees]
  exact Metering.Fleet.paid_eq_earned settled idle

/-- Two routines delete the same DLQ row, one by its id and one by its job key: only the first one
counts a deletion. -/
theorem counters_true_twoDeletions :
    let actions : List FleetAction :=
      [.start (ended (deleteDlqJob 1)), .start (ended (deleteDlqByJobKey "invoice")),
        .go 0 (0, none), .go 1 (0, none), .go 0 (0, none)]
    let counters := Transition.tally (Metering.Fleet.step perform) counted
      ⟨(Session.movedInvoice "invoices").db, []⟩ actions
    counters = Transition.tally (Metering.Fleet.step perform) done
      ⟨(Session.movedInvoice "invoices").db, []⟩ actions ∧
    counters (.dlqJobsDeleted "send_email") = 1 ∧ counters (.dlqJobsDeleted "(by_job_key)") = 0 := by
  intro actions counters
  have path : Transition.Run (Metering.Fleet.step perform) StartsRoutines
      ⟨(Session.movedInvoice "invoices").db, []⟩ actions _ :=
    .cons (fun program is => FleetAction.start.inj is ▸ .deleteDlqJob 1) rfl
      (.cons (fun program is => FleetAction.start.inj is ▸ .deleteDlqByJobKey _) rfl
        (.cons (fun program is => by cases is) rfl
          (.cons (fun program is => by cases is) rfl
            (.cons (fun program is => by cases is) rfl (.nil _)))))
  refine ⟨counters_true path fun program among => Option.isNone_iff_eq_none.mp
    (List.all_eq_true (p := fun program => program.next?.isNone).mp ?_ program among), ?_, ?_⟩
  · rfl
  · decide +kernel
  · decide +kernel

end MeteredClient

end Backfill
