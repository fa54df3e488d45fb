import Backfill.Client.Description
import Backfill.Client.Passes
import Backfill.Cluster.Journal

/-!
# Failures the scan for failed jobs does not see

The scan skips a job whose id some record names. The id outlives the failure that record was made
for: `add_to_dlq` leaves the job in the queue, and an enqueue under its key rewrites it in place.
The scan hides nothing as long as neither a record is made for a job that a requeue has written nor
a job that a record names is rewritten.
-/

namespace Backfill

/-- The row an enqueue or a requeue has written. -/
def Entry.written? : Entry → Option JobRow
  | written row | requeued _ row => some row
  | _ => none

theorem Entry.written?_of_counts {entry : Entry} (counts : entry.counts = true) :
    entry.written? = none := by
  cases entry <;> first
    | rfl
    | cases counts

/-- The job has been captured, and its row has not been written since. -/
def CapturedSinceWritten (log : List Entry) (jobId : Int) : Prop :=
  ∃ before capture after record, log = before ++ capture :: after ∧
    capture.captured? = some record ∧ record.originalJobId = some jobId ∧
    ∀ entry ∈ after, ∀ row, entry.written? = some row → row.id ≠ jobId

theorem CapturedSinceWritten.append {log more : List Entry} {jobId : Int}
    (captured : CapturedSinceWritten log jobId)
    (others : ∀ entry ∈ more, ∀ row, entry.written? = some row → row.id ≠ jobId) :
    CapturedSinceWritten (log ++ more) jobId := by
  obtain ⟨before, capture, after, record, rfl, captured, names, since⟩ := captured
  refine ⟨before, capture, after ++ more, record, by simp, captured, names, fun entry among => ?_⟩
  rcases List.mem_append.mp among with old | new
  · exact since entry old
  · exact others entry new

/-- A requeue has written the row of this job. -/
def WrittenByRequeue (log : List Entry) (jobId : Int) : Prop :=
  ∃ dlqJob row, .requeued dlqJob row ∈ log ∧ row.id = jobId

/-- The record an insertion leaves is entered as a capture of its job. -/
theorem DlqInsert.exists_entry (values : DlqInsert) (table : DlqTable) (now : Timestamp) :
    ∃ entry ∈ values.entries table now, ∃ record, entry.captured? = some record ∧
      record.originalJobId = some values.originalJobId := by
  unfold entries
  split <;> exact ⟨_, .head _, _, rfl, (values.jobKey_upsertedIn table now).2⟩

/-- A record after an insertion names the job that was inserted, or one that was named before. -/
theorem DlqInsert.named_upsertInto {values : DlqInsert} {table : DlqTable} {now : Timestamp}
    {record : DlqJob} (member : record ∈ (values.upsertInto table now).rows) :
    record.originalJobId = some values.originalJobId ∨
      ∃ old ∈ table.rows, old.originalJobId = record.originalJobId := by
  rcases mem_upsertInto member with ⟨old, -⟩ | ⟨id, rfl, -⟩ | ⟨old, -, -, -, rfl⟩
  · exact .inr ⟨record, old, rfl⟩
  · exact .inl rfl
  · exact .inl rfl

namespace Statement

variable {s : Statement} {now : Timestamp} {fault : Option ForeignError} {db : Database}
  {jobId : Int}

/-- A statement that is not refused captures the job: it takes it out of the queue, or adds a
record for it. -/
def Captures (s : Statement) (db : Database) (fault : Option ForeignError) (jobId : Int) : Prop :=
  fault = none ∧
    match s with
    | moveFailedJob values => values.originalJobId = jobId ∧ ∃ row ∈ db.jobs.rows, row.id = jobId
    | upsertDlq values => values.originalJobId = jobId
    | _ => False

/-- A record names a job because one did so before, or because the statement captures the job. -/
theorem recorded_answer {table : DlqTable} (present : db.dlq = .ok table)
    (recorded : (s.answer now fault db).2.Recorded jobId) :
    db.Recorded jobId ∨ s.Captures db fault jobId ∧ ∃ entry ∈ s.entries now fault db, ∃ record,
      entry.captured? = some record ∧ record.originalJobId = some jobId := by
  have before : ∀ old ∈ table.rows, old.originalJobId = some jobId → db.Recorded jobId :=
    fun old member names => ⟨old, (Database.dlqRows_ok present).symm ▸ member, names⟩
  cases fault with
  | some error => exact .inl recorded
  | none =>
      rw [answer_none] at recorded
      obtain ⟨record, member, names⟩ := recorded
      have upserted : ∀ values : DlqInsert, record ∈ (values.upsertInto table now).rows →
          db.Recorded jobId ∨ values.originalJobId = jobId := by
        intro values member
        rcases DlqInsert.named_upsertInto member with new | ⟨old, oldMember, same⟩
        · exact .inr (Option.some.inj (new.symm.trans names))
        · exact .inl (before old oldMember (same.trans names))
      cases s with
      | moveFailedJob values =>
          simp only [exec, entries, Database.moveFailedJob, present] at member ⊢
          cases found : db.jobs.get? values.originalJobId with
          | none =>
              simp only [found] at member
              exact .inl ⟨record, member, names⟩
          | some row =>
              simp only [found] at member
              obtain ⟨rowMember, same⟩ := SerialTable.get?_eq_some.mp found
              refine (upserted values member).imp_right ?_
              rintro rfl
              exact ⟨⟨rfl, rfl, row, rowMember, same⟩, values.exists_entry table now⟩
      | upsertDlq values =>
          simp only [exec, entries, present] at member ⊢
          refine (upserted values member).imp_right ?_
          rintro rfl
          exact ⟨⟨rfl, rfl⟩, values.exists_entry table now⟩
      | recordRequeue notes dlqId =>
          simp only [exec, present] at member
          obtain ⟨old, oldMember, rfl⟩ := SerialTable.mem_update.mp member
          refine .inl (before old oldMember ?_)
          split at names <;> exact names
      | deleteDlqJob dlqId =>
          simp only [exec, present] at member
          exact .inl (before record (SerialTable.mem_delete.mp member).1 names)
      | deleteDlqByJobKey jobKey =>
          simp only [exec, present] at member
          exact .inl (before record (SerialTable.mem_delete.mp member).1 names)
      | _ => exact .inl ((Database.recorded_congr (dlq_exec rfl)).mp ⟨record, member, names⟩)

/-- A move that finds its job enters a capture of it. -/
theorem exists_captured {values : DlqInsert} {table : DlqTable} (present : db.dlq = .ok table)
    {row : JobRow} (member : row ∈ db.jobs.rows) (same : values.originalJobId = row.id) :
    ∃ entry ∈ (moveFailedJob values).entries now none db, ∃ record,
      entry.captured? = some record ∧ record.originalJobId = some row.id := by
  have found : db.jobs.get? values.originalJobId = some row :=
    SerialTable.get?_eq_some.mpr ⟨member, same.symm⟩
  simp only [entries, present, found, ← same]
  exact values.exists_entry table now

/-- A job that is moved out of the queue is not in it any more. -/
theorem absent_of_moved {values : DlqInsert} {table : DlqTable} (present : db.dlq = .ok table)
    {row : JobRow} (member : row ∈ ((moveFailedJob values).exec now db).2.jobs.rows) :
    row.id ≠ values.originalJobId := by
  simp only [exec, Database.moveFailedJob, present] at member
  cases found : db.jobs.get? values.originalJobId with
  | none =>
      simp only [found] at member
      exact SerialTable.get?_eq_none.mp found row member
  | some taken =>
      simp only [found, Database.moved] at member
      simpa using (SerialTable.mem_delete.mp member).2

end Statement

namespace Journal

/-- A row a step has written is a new one, or one that an enqueue rewrites in place. -/
theorem NewEntry.written_id {j : Journal} {a : JournalAction} {entry : Entry}
    (new : j.NewEntry a entry) {row : JobRow} (writes : entry.written? = some row) :
    row.id = j.db.jobs.nextId ∨ ∃ job, j.enqueues? a = some job ∧
      ∃ old ∈ j.db.jobs.rows, job.Rewrites old ∧ row.id = old.id := by
  have reported : ∀ job, j.enqueues? a = some job →
      (j.db.addJob j.cluster.now job).1 = some row →
      row.id = j.db.jobs.nextId ∨ ∃ job, j.enqueues? a = some job ∧
        ∃ old ∈ j.db.jobs.rows, job.Rewrites old ∧ row.id = old.id := by
    intro job enqueues reported
    rcases Database.addJob_reported reported with ⟨old, member, rewrites, rfl⟩ | rfl
    · exact .inr ⟨job, enqueues, old, member, rewrites, NewJob.overwrite_id⟩
    · exact .inl rfl
  cases new with
  | counted sends among =>
      rw [Entry.written?_of_counts (Statement.counts_entries entry among)] at writes
      cases writes
  | written enqueues written =>
      obtain rfl := Option.some.inj writes
      exact reported _ enqueues written
  | requeued entry loaded calls written =>
      obtain rfl := Option.some.inj writes
      exact reported _ (requeue_enqueues entry calls) written
  | fetched | erased => cases writes

/-- Any step but two: a record for a job that a requeue has written and that is in the queue, or
for one that does not exist yet; and an enqueue that rewrites a job some record names. -/
structure NamesNoNewJob (j : Journal) (a : JournalAction) : Prop where
  added : ∀ values, j.sends? a = some (.upsertDlq values) → a.fault = none →
    values.originalJobId < j.db.jobs.nextId ∧ ∀ row ∈ j.db.jobs.rows,
      row.id = values.originalJobId → ¬ WrittenByRequeue j.log row.id
  rewritten : ∀ job, j.enqueues? a = some job → ∀ row ∈ j.db.jobs.rows, job.Rewrites row →
    ¬ j.db.Recorded row.id

/-- A job in the queue that some record names is named for its present failure, and no requeue
has written it. -/
structure NamesCurrent (j : Journal) : Prop where
  present : ∃ table, j.db.dlq = .ok table
  tasked : j.db.TasksPresent
  drawn : ∀ jobId, j.db.Recorded jobId → jobId < j.db.jobs.nextId
  current : ∀ row ∈ j.db.jobs.rows, j.db.Recorded row.id →
    CapturedSinceWritten j.log row.id ∧ ¬ WrittenByRequeue j.log row.id

namespace NamesCurrent

variable {tables : CharTables} {j j' : Journal} {a : JournalAction} {jobId : Int}

theorem initial (now : Timestamp) : NamesCurrent (initial now .fresh) where
  present := ⟨.empty, rfl⟩
  tasked _ member := by cases member
  drawn _ recorded := by
    obtain ⟨_, member, -⟩ := recorded
    cases member
  current _ member := by cases member

/-- What a step writes is another job than one that was named before it. -/
theorem writes_other (current : NamesCurrent j) (allowed : NamesNoNewJob j a)
    (recorded : j.db.Recorded jobId) {entry : Entry} (new : j.NewEntry a entry) {row : JobRow}
    (writes : entry.written? = some row) : row.id ≠ jobId := by
  rcases new.written_id writes with fresh | ⟨job, enqueues, old, member, rewrites, same⟩
  · exact fresh ▸ (current.drawn _ recorded).ne'
  · rintro rfl
    exact allowed.rewritten job enqueues old member rewrites (same ▸ recorded)

/-- A record made by a step, if the step has made one for this job. -/
theorem recorded_step (current : NamesCurrent j) (taken : j.step tables a = some j')
    (recorded : j'.db.Recorded jobId) :
    j.db.Recorded jobId ∨ ∃ op, j.sends? a = some op ∧ op.Captures j.db a.fault jobId ∧
      ∃ entry ∈ op.entries j.cluster.now a.fault j.db, ∃ record,
        entry.captured? = some record ∧ record.originalJobId = some jobId := by
  obtain ⟨table, present⟩ := current.present
  cases sends : j.sends? a with
  | none => exact .inl ((Database.recorded_congr (dlq_silent sends taken)).mp recorded)
  | some op =>
      rw [sends_step sends taken] at recorded
      exact (Statement.recorded_answer present recorded).imp_right fun captures =>
        ⟨op, rfl, captures⟩

/-- What a step adds a record for, no step writes. -/
theorem added_writes_none {values : DlqInsert} (sends : j.sends? a = some (.upsertDlq values))
    {entry : Entry} (new : j.NewEntry a entry) : entry.written? = none := by
  have none : ∀ job, j.enqueues? a ≠ some job := by
    intro job enqueues
    rcases enqueues_some enqueues with rfl | ⟨_, _, _, other, -, -⟩
    · cases sends
    · cases sends.symm.trans other
  cases new with
  | counted sends among => exact Entry.written?_of_counts (Statement.counts_entries entry among)
  | written enqueues reported => exact absurd enqueues (none _)
  | requeued entry loaded calls reported => exact absurd (requeue_enqueues entry calls) (none _)
  | fetched | erased => rfl

/-- A job that a record is added for stays in the queue; the log shows the capture. -/
theorem added_step (allowed : NamesNoNewJob j a) {values : DlqInsert}
    (sends : j.sends? a = some (.upsertDlq values)) (accepted : a.fault = none)
    (taken : j.step tables a = some j') {entry : Entry} {record : DlqJob}
    (among : entry ∈ (Statement.upsertDlq values).entries j.cluster.now a.fault j.db)
    (captured : entry.captured? = some record)
    (names : record.originalJobId = some values.originalJobId) {row : JobRow}
    (member : row ∈ j'.db.jobs.rows) (same : row.id = values.originalJobId) :
    CapturedSinceWritten j'.log row.id ∧ ¬ WrittenByRequeue j'.log row.id := by
  obtain ⟨more, log, entered⟩ := log_step taken
  obtain ⟨marks, log'⟩ := log_sends sends taken
  have silent : ∀ entry ∈ more, entry.written? = none := fun entry among =>
    added_writes_none sends (entered entry among)
  obtain rfl : more = _ := List.append_cancel_left (log.symm.trans log')
  refine ⟨?_, ?_⟩
  · obtain ⟨before, after, split⟩ := List.append_of_mem (List.mem_append_left marks among)
    rw [split] at log silent
    refine ⟨j.log ++ before, entry, after, record, by simp [log], captured, same ▸ names, ?_⟩
    intro other later row' writes
    have none := silent other (List.mem_append_right _ (List.mem_cons_of_mem _ later))
    exact absurd (writes.symm.trans none) (Option.some_ne_none _)
  · rintro ⟨dlqJob, written, requeued, sameId⟩
    rw [log] at requeued
    rcases List.mem_append.mp requeued with old | new
    · rw [sends_step sends taken, accepted, Statement.answer_none,
        Statement.jobs_exec rfl] at member
      exact (allowed.added values sends accepted).2 row member same ⟨dlqJob, written, old, sameId⟩
    · exact absurd (silent _ new) (Option.some_ne_none _)

/-- Every step that names no new job. -/
theorem step (current : NamesCurrent j) (allowed : NamesNoNewJob j a)
    (taken : j.step tables a = some j') : NamesCurrent j' := by
  obtain ⟨table, present⟩ := current.present
  obtain ⟨table', _, _, after, -, -, -⟩ := dlq_step present taken
  obtain ⟨more, log, entered⟩ := log_step taken
  refine ⟨⟨table', after⟩, tasksPresent_step current.tasked taken, ?_, ?_⟩
  · intro jobId recorded
    refine lt_of_lt_of_le ?_ (nextId_step taken)
    rcases current.recorded_step taken recorded with before | ⟨op, sends, captures, -⟩
    · exact current.drawn jobId before
    · obtain ⟨accepted, captures⟩ := captures
      cases op with
      | moveFailedJob values =>
          obtain ⟨rfl, row, member, same⟩ := captures
          exact same ▸ j.db.jobs.id_lt row member
      | upsertDlq values =>
          obtain rfl : values.originalJobId = jobId := captures
          exact (allowed.added values sends accepted).1
      | _ => exact captures.elim
  · intro row member recorded
    rcases current.recorded_step taken recorded with before | ⟨op, sends, captures, entry, among,
      record, captured, names⟩
    · -- the row was named before the step: it has not been written by it
      have others : ∀ entry ∈ more, ∀ written, entry.written? = some written →
          written.id ≠ row.id := fun entry among written writes =>
        current.writes_other allowed before (entered entry among) writes
      rcases row_step taken member with ⟨old, oldMember, follows⟩ | new
      · rw [follows.id_eq] at before others ⊢
        obtain ⟨captured, unwritten⟩ := current.current old oldMember before
        rw [log]
        refine ⟨captured.append others, ?_⟩
        rintro ⟨dlqJob, written, requeued, same⟩
        rcases List.mem_append.mp requeued with old | new
        · exact unwritten ⟨dlqJob, written, old, same⟩
        · exact others _ new written rfl same
      · exact absurd (new ▸ current.drawn _ before) (lt_irrefl _)
    · obtain ⟨accepted, captures⟩ := captures
      cases op with
      | moveFailedJob values =>
          rw [sends_step sends taken, accepted, Statement.answer_none] at member
          exact absurd captures.1.symm (Statement.absent_of_moved present member)
      | upsertDlq values =>
          have same : values.originalJobId = row.id := captures
          exact added_step allowed sends accepted taken among captured (same ▸ names) member
            same.symm
      | _ => exact captures.elim

end NamesCurrent

end Journal

/-- Somebody calls `add_to_dlq`. -/
def Client.addToDlqRoutine (originalJob : Job) (failureReason : String) : Client Nat := do
  let _ ← addToDlq originalJob failureReason none
  pure 0

namespace Journal

end Journal

end Backfill
