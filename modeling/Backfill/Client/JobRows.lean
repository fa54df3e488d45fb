import Backfill.Client.Statement

/-!
# What a statement does to the rows of the queue

A statement leaves a row as it is, rewrites it in one of four ways, or deletes it; and an
enqueue may add one. `Statement.row_answer` says so once, and every result about rows that
live through many statements is read off `RowChange`. Most statements leave the DLQ alone.
-/

namespace Backfill

namespace Statement

/-- What a statement can make of a job row it leaves in the queue. -/
inductive RowChange (now : Timestamp) : Statement → JobRow → JobRow → Prop
  | kept {s : Statement} {row : JobRow} : RowChange now s row row
  | released {secs : Int} {row : JobRow}
      (stale : lockedBefore (lockCutoff now secs) row.lockedAt = true) :
      RowChange now (.releaseJobLocks secs) row (JobRow.unlock.apply row)
  | shortCircuited {reason : String} {row : JobRow} (available : row.isAvailable = true) :
      RowChange now (.shortCircuit row.id reason) row ((JobRow.shortCircuit reason now).apply row)
  | superseded {identifier : String} {payload : Json} {spec : GraphileJobSpec} {row : JobRow}
      (locked : row.lockedAt ≠ none) :
      RowChange now (.addJob identifier payload spec) row ((JobRow.superseded now).apply row)
  | overwritten {identifier : String} {payload : Json} {spec : GraphileJobSpec} {row : JobRow}
      {taskId : Int} {jobQueueId : Option Int} (unlocked : row.lockedAt = none)
      (keyed : spec.jobKey ≠ none) (same : row.key = spec.jobKey) :
      RowChange now (.addJob identifier payload spec) row
        (((spec.newJob identifier payload now).overwrite taskId jobQueueId now).apply row)

/-- The row an enqueue adds to the queue of `db`. -/
def AddsRow (now : Timestamp) (s : Statement) (db : Database) (row : JobRow) : Prop :=
  ∃ identifier payload spec taskId jobQueueId, s = .addJob identifier payload spec ∧
    row = ((spec.newJob identifier payload now).draft taskId jobQueueId now).row db.jobs.nextId

variable {s : Statement} {now : Timestamp} {fault : Option ForeignError} {db : Database}
  {old row : JobRow}

/-- A row keeps its id for as long as it lives. -/
theorem RowChange.id_eq (change : s.RowChange now old row) : row.id = old.id := by
  cases change with
  | overwritten => exact RowEdit.id_eq ..
  | _ => rfl

/-- A row keeps its key, or is superseded: then it has none and is never retried. -/
theorem RowChange.key_eq (change : s.RowChange now old row) :
    row.key = old.key ∨ (row.key = none ∧ row.maxAttempts ≤ row.attempts) := by
  cases change with
  | superseded => exact .inr ⟨rfl, le_refl _⟩
  | overwritten => exact .inl (by simp only [NewJob.overwrite]; split <;> rfl)
  | _ => exact .inl rfl

/-- A row without a key is not overwritten, so it stays exhausted. -/
theorem RowChange.exhausted (change : s.RowChange now old row) (keyless : old.key = none)
    (spent : old.maxAttempts ≤ old.attempts) : row.maxAttempts ≤ row.attempts := by
  cases change with
  | kept => exact spent
  | released => exact spent
  | shortCircuited => exact le_refl _
  | superseded => exact le_refl _
  | overwritten unlocked keyed same => exact absurd (same.symm.trans keyless) keyed

/-- The lock of a row changes only when a release finds it stale. -/
theorem RowChange.lockedAt_eq (change : s.RowChange now old row) :
    row.lockedAt = old.lockedAt ∨ ∃ secs, s = .releaseJobLocks secs ∧
      lockedBefore (lockCutoff now secs) old.lockedAt = true := by
  cases change with
  | released stale => exact .inr ⟨_, rfl, stale⟩
  | overwritten => exact .inl (by simp only [NewJob.overwrite]; split <;> rfl)
  | _ => exact .inl rfl

theorem AddsRow.id_eq (adds : s.AddsRow now db row) : row.id = db.jobs.nextId := by
  obtain ⟨_, _, _, _, _, -, rfl⟩ := adds
  rfl

/-- Statements that do not write the DLQ. -/
def LeavesDlq : Statement → Bool
  | moveFailedJob _ | upsertDlq _ | recordRequeue _ _ | deleteDlqJob _ | deleteDlqByJobKey _ =>
      false
  | _ => true

theorem dlq_exec (leaves : s.LeavesDlq = true) : (s.exec now db).2.dlq = db.dlq := by
  cases present : db.dlq <;> cases s
  case ok.listDlqJobs filter =>
    simp only [exec, present]
    split_ifs <;> exact present
  all_goals first
    | exact absurd leaves Bool.false_ne_true
    | exact (Database.dlq_addJob ..).trans present
    | simp [exec, present]

/-- Statements that write neither the queue nor the sequence of its ids. -/
def LeavesJobs : Statement → Bool
  | moveFailedJob _ | releaseJobLocks _ | deleteFailedJobs | shortCircuit _ _ | addJob _ _ _ =>
      false
  | _ => true

theorem jobs_exec (leaves : s.LeavesJobs = true) : (s.exec now db).2.jobs = db.jobs := by
  cases present : db.dlq <;> cases s
  case ok.listDlqJobs filter =>
    simp only [exec, present]
    split_ifs <;> rfl
  all_goals first
    | rfl
    | exact absurd leaves Bool.false_ne_true
    | simp only [exec, present]

/-- A move adds no row. -/
theorem jobs_moveFailedJob {values : DlqInsert}
    (member : row ∈ ((moveFailedJob values).exec now db).2.jobs.rows) : row ∈ db.jobs.rows := by
  simp only [exec, Database.moveFailedJob] at member
  split at member
  next => exact member
  next =>
    split at member
    next => exact member
    next => exact (SerialTable.mem_delete.mp member).1

/-- The rows of the queue after a statement: what it made of a row that was there, or the row
it adds. -/
theorem row_answer (member : row ∈ (s.answer now fault db).2.jobs.rows) :
    (∃ old ∈ db.jobs.rows, s.RowChange now old row) ∨ s.AddsRow now db row := by
  cases fault with
  | some error => exact .inl ⟨row, member, .kept⟩
  | none =>
      rw [answer_none] at member
      cases s with
      | moveFailedJob values =>
          exact .inl ⟨row, jobs_moveFailedJob member, .kept⟩
      | releaseJobLocks secs =>
          obtain ⟨old, oldMember, rfl⟩ := SerialTable.mem_update.mp member
          split
          next stale => exact .inl ⟨old, oldMember, .released stale⟩
          next fresh => exact .inl ⟨old, oldMember, .kept⟩
      | deleteFailedJobs => exact .inl ⟨row, (SerialTable.mem_delete.mp member).1, .kept⟩
      | shortCircuit jobId reason =>
          obtain ⟨old, oldMember, rfl⟩ := SerialTable.mem_update.mp member
          split
          next hit =>
            obtain ⟨rfl, available⟩ := by simpa using hit
            exact .inl ⟨old, oldMember, .shortCircuited available⟩
          next miss => exact .inl ⟨old, oldMember, .kept⟩
      | addJob identifier payload spec =>
          rcases Database.of_mem_addJob member with
            kept | ⟨old, oldMember, locked, rfl⟩ |
              ⟨old, oldMember, unlocked, keyed, same, -, _, _, rfl⟩ | ⟨_, _, rfl⟩
          · exact .inl ⟨row, kept, .kept⟩
          · exact .inl ⟨old, oldMember, .superseded locked⟩
          · exact .inl ⟨old, oldMember, .overwritten unlocked keyed same⟩
          · exact .inr ⟨_, _, _, _, _, rfl, rfl⟩
      | _ => exact .inl ⟨row, by rwa [jobs_exec rfl] at member, .kept⟩

/-- A statement that is not refused takes a row out of the queue: a move of its job, or the
cleanup once the row is abandoned. -/
inductive Removes (s : Statement) (fault : Option ForeignError) (db : Database) (row : JobRow) :
    Prop
  | moves {values : DlqInsert} {table : DlqTable} (is : s = .moveFailedJob values)
      (accepted : fault = none) (present : db.dlq = .ok table)
      (same : values.originalJobId = row.id) : Removes s fault db row
  | deletes (is : s = .deleteFailedJobs) (accepted : fault = none)
      (exhausted : row.exhausted = true) : Removes s fault db row

/-- Every other statement keeps the row under its id. -/
theorem kept_answer (member : row ∈ db.jobs.rows) :
    (∃ r ∈ (s.answer now fault db).2.jobs.rows, r.id = row.id) ∨ s.Removes fault db row := by
  cases fault with
  | some error => exact .inl ⟨row, member, rfl⟩
  | none =>
      rw [answer_none]
      cases s with
      | moveFailedJob values =>
          cases present : db.dlq with
          | error missing => exact .inl ⟨row, by simpa only [exec, present] using member, rfl⟩
          | ok table =>
              by_cases same : values.originalJobId = row.id
              · exact .inr (.moves rfl rfl present same)
              · refine .inl ⟨row, ?_, rfl⟩
                simp only [exec, Database.moveFailedJob, present]
                split
                next => exact member
                next => exact SerialTable.mem_delete.mpr ⟨member, by simp [Ne.symm same]⟩
      | releaseJobLocks secs => exact .inl (SerialTable.kept_update member)
      | deleteFailedJobs =>
          by_cases exhausted : row.exhausted = true
          · exact .inr (.deletes rfl rfl exhausted)
          · exact .inl ⟨row, SerialTable.mem_delete.mpr ⟨member, by simp [exhausted]⟩, rfl⟩
      | shortCircuit jobId reason => exact .inl (SerialTable.kept_update member)
      | addJob identifier payload spec => exact .inl (Database.kept_addJob member)
      | _ => exact .inl ⟨row, by rwa [jobs_exec rfl], rfl⟩

/-- A statement never takes an id back. -/
theorem nextId_answer (s : Statement) (now : Timestamp) (fault : Option ForeignError)
    (db : Database) : db.jobs.nextId ≤ (s.answer now fault db).2.jobs.nextId := by
  cases fault with
  | some error => exact le_refl _
  | none =>
      rw [answer_none]
      cases s with
      | moveFailedJob values =>
          simp only [exec, Database.moveFailedJob]
          split
          next => exact le_refl _
          next => split <;> exact le_refl _
      | releaseJobLocks secs => exact le_refl _
      | deleteFailedJobs => exact le_refl _
      | shortCircuit jobId reason => exact le_refl _
      | addJob identifier payload spec =>
          have grown := Database.nextId_addJob db now (spec.newJob identifier payload now)
          simp only [exec]
          omega
      | _ => exact (congrArg SerialTable.nextId (jobs_exec rfl)).ge

/-- Only an enqueue writes the tasks. -/
theorem tasks_exec (other : ∀ identifier payload spec, s ≠ .addJob identifier payload spec) :
    (s.exec now db).2.tasks = db.tasks := by
  cases s with
  | addJob identifier payload spec => exact absurd rfl (other identifier payload spec)
  | moveFailedJob values =>
      simp only [exec, Database.moveFailedJob]
      split
      next => rfl
      next => split <;> rfl
  | listDlqJobs filter =>
      simp only [exec]
      split
      next => rfl
      next => split_ifs <;> rfl
  | findFailedJobs | upsertDlq | getDlqJob | recordRequeue | deleteDlqJob | deleteDlqByJobKey
  | countDlqJobs =>
      simp only [exec]
      split <;> rfl
  | _ => rfl

/-- Only an enqueue can give a row another task. -/
theorem RowChange.taskId_eq (other : ∀ identifier payload spec, s ≠ .addJob identifier payload spec)
    (change : s.RowChange now old row) : row.taskId = old.taskId := by
  cases change with
  | superseded | overwritten => exact absurd rfl (other _ _ _)
  | _ => rfl

/-- Every job goes on to name a task that has a row. -/
theorem tasksPresent_answer (tasked : db.TasksPresent) :
    (s.answer now fault db).2.TasksPresent := by
  by_cases adds : ∃ identifier payload spec, s = .addJob identifier payload spec
  · obtain ⟨identifier, payload, spec, rfl⟩ := adds
    cases fault with
    | some error => exact tasked
    | none => exact tasked.addJob now _
  · have other : ∀ identifier payload spec, s ≠ .addJob identifier payload spec :=
      fun _ _ _ is => adds ⟨_, _, _, is⟩
    have tasks : (s.answer now fault db).2.tasks = db.tasks := by
      cases fault with
      | some error => rfl
      | none => exact tasks_exec other
    intro row member
    rw [tasks]
    rcases row_answer member with ⟨old, oldMember, change⟩ | ⟨_, _, _, _, _, is, -⟩
    · rw [change.taskId_eq other]
      exact tasked old oldMember
    · exact absurd is (other _ _ _)

end Statement

end Backfill
