import Backfill.Client.JobRows
import Backfill.Cluster

/-!
# What a step does to the rows of the queue

The counterpart of `Statement.RowChange` for the whole cluster: a step leaves a row as it is,
rewrites it in one of the ways listed in `Cluster.RowChange`, or removes it, and it may add one
under the next id.
-/

namespace Backfill

namespace Cluster

/-- What a step can make of a job row it leaves in the queue. -/
inductive RowChange (s : Cluster) : Action → JobRow → JobRow → Prop
  | kept {a : Action} {row : JobRow} : RowChange s a row row
  | fetched {worker : String} {row : JobRow} (available : row.isAvailable = true) :
      RowChange s (.fetch worker row.id) row ((JobRow.fetched worker s.now).apply row)
  | failed {i : Nat} {e : Execution} {error : String} {retryAt : Timestamp} {row : JobRow}
      (entry : s.running[i]? = some e) (same : row.id = e.job.id) :
      RowChange s (.fail i error retryAt) row ((JobRow.failedWith error retryAt s.now).apply row)
  | superseded {job : NewJob} {row : JobRow} (locked : row.lockedAt ≠ none) :
      RowChange s (.enqueue job) row ((JobRow.superseded s.now).apply row)
  | overwritten {job : NewJob} {row : JobRow} {taskId : Int} {jobQueueId : Option Int}
      (unlocked : row.lockedAt = none) (keyed : job.key ≠ none) (same : row.key = job.key) :
      RowChange s (.enqueue job) row ((job.overwrite taskId jobQueueId s.now).apply row)
  | answered {i : Nat} {fault : Option ForeignError} {op : Statement} {old row : JobRow}
      (sends : s.Sends i op) (change : op.RowChange s.now old row) :
      RowChange s (.send i fault) old row

variable {tables : CharTables} {s s' : Cluster} {a : Action} {old row : JobRow}

/-- A row keeps its id for as long as it lives. -/
theorem RowChange.id_eq (change : s.RowChange a old row) : row.id = old.id := by
  cases change with
  | overwritten => exact RowEdit.id_eq ..
  | answered sends change => exact change.id_eq
  | _ => rfl

/-- A row keeps its key, or is superseded: then it has none and is never retried. -/
theorem RowChange.key_eq (change : s.RowChange a old row) :
    row.key = old.key ∨ (row.key = none ∧ row.maxAttempts ≤ row.attempts) := by
  cases change with
  | superseded => exact .inr ⟨rfl, le_refl _⟩
  | overwritten => exact .inl (by simp only [NewJob.overwrite]; split <;> rfl)
  | answered sends change => exact change.key_eq
  | _ => exact .inl rfl

/-- A row without a key is neither overwritten nor, once exhausted, fetched again. -/
theorem RowChange.exhausted (change : s.RowChange a old row) (keyless : old.key = none)
    (spent : old.maxAttempts ≤ old.attempts) : row.maxAttempts ≤ row.attempts := by
  cases change with
  | kept => exact spent
  | fetched available =>
      have left := (JobRow.isAvailable_iff.mp available).2
      omega
  | failed => exact spent
  | superseded => exact le_refl _
  | overwritten unlocked keyed same => exact absurd (same.symm.trans keyless) keyed
  | answered sends change => exact change.exhausted keyless spent

/-- The row the step adds to the queue. -/
def AddsRow (s : Cluster) (a : Action) (row : JobRow) : Prop :=
  match a with
  | .enqueue job => ∃ taskId jobQueueId,
      row = (job.draft taskId jobQueueId s.now).row s.db.jobs.nextId
  | .send i _ => ∃ op, s.Sends i op ∧ op.AddsRow s.now s.db row
  | _ => False

theorem AddsRow.id_eq (adds : s.AddsRow a row) : row.id = s.db.jobs.nextId := by
  cases a with
  | enqueue job =>
      obtain ⟨_, _, rfl⟩ := adds
      rfl
  | send i fault =>
      obtain ⟨op, -, adds⟩ := adds
      exact adds.id_eq
  | _ => exact adds.elim

/-- The rows of the queue after a step: what it made of a row that was there, or the row it
adds. -/
theorem row_step (taken : s.step tables a = some s') (member : row ∈ s'.db.jobs.rows) :
    (∃ old ∈ s.db.jobs.rows, s.RowChange a old row) ∨ s.AddsRow a row := by
  cases a with
  | advance micros =>
      obtain rfl := Option.some.inj taken
      exact .inl ⟨row, member, .kept⟩
  | fetch worker jobId =>
      obtain ⟨found, foundMember, _, rfl, available, -, -, -, rfl⟩ := fetch_some taken
      obtain ⟨old, oldMember, rfl⟩ := Database.mem_lockJob.mp member
      split
      next same =>
        obtain rfl := s.db.jobs.eq_of_id_eq oldMember foundMember same
        exact .inl ⟨old, oldMember, .fetched available⟩
      next => exact .inl ⟨old, oldMember, .kept⟩
  | complete i =>
      obtain ⟨e, -, rfl⟩ := Option.map_eq_some_iff.mp taken
      exact .inl ⟨row, (Database.mem_completeJob.mp member).1, .kept⟩
  | fail i error retryAt =>
      obtain ⟨e, entry, rfl⟩ := Option.map_eq_some_iff.mp taken
      obtain ⟨old, oldMember, rfl | ⟨same, -, rfl⟩⟩ := Database.of_mem_failJob member
      · exact .inl ⟨row, oldMember, .kept⟩
      · exact .inl ⟨old, oldMember, .failed entry same⟩
  | crash i =>
      obtain ⟨e, -, rfl⟩ := Option.map_eq_some_iff.mp taken
      exact .inl ⟨row, member, .kept⟩
  | jobFail i =>
      obtain ⟨ctx, -, rfl⟩ := Option.map_eq_some_iff.mp taken
      exact .inl ⟨row, member, .kept⟩
  | enqueue job =>
      obtain rfl := Option.some.inj taken
      rcases Database.of_mem_addJob member with
        kept | ⟨old, oldMember, locked, rfl⟩ |
          ⟨old, oldMember, unlocked, keyed, same, -, _, _, rfl⟩ | ⟨_, _, rfl⟩
      · exact .inl ⟨row, kept, .kept⟩
      · exact .inl ⟨old, oldMember, .superseded locked⟩
      · exact .inl ⟨old, oldMember, .overwritten unlocked keyed same⟩
      · exact .inr ⟨_, _, rfl⟩
  | start routine =>
      obtain rfl := Option.some.inj taken
      exact .inl ⟨row, member, .kept⟩
  | send i fault =>
      obtain ⟨op, next, entry, rfl⟩ := send_op taken
      rcases Statement.row_answer member with ⟨old, oldMember, change⟩ | adds
      · exact .inl ⟨old, oldMember, .answered (sends_of_entry entry) change⟩
      · exact .inr ⟨op, sends_of_entry entry, adds⟩

/-- A step keeps a row under its id, unless an execution of its job is completed or a statement
takes it out of the queue. -/
theorem kept_step (taken : s.step tables a = some s') (member : row ∈ s.db.jobs.rows) :
    (∃ r ∈ s'.db.jobs.rows, r.id = row.id) ∨
    (∃ i e, a = .complete i ∧ s.running[i]? = some e ∧ e.job.id = row.id) ∨
    ∃ i fault op, a = .send i fault ∧ s.Sends i op ∧ op.Removes fault s.db row := by
  cases a with
  | advance micros | start routine =>
      obtain rfl := Option.some.inj taken
      exact .inl ⟨row, member, rfl⟩
  | crash i | jobFail i =>
      obtain ⟨_, -, rfl⟩ := Option.map_eq_some_iff.mp taken
      exact .inl ⟨row, member, rfl⟩
  | fetch worker jobId =>
      obtain ⟨found, -, _, -, -, -, -, -, rfl⟩ := fetch_some taken
      exact .inl (SerialTable.kept_update member)
  | complete i =>
      obtain ⟨e, entry, rfl⟩ := Option.map_eq_some_iff.mp taken
      by_cases same : e.job.id = row.id
      · exact .inr (.inl ⟨i, e, rfl, entry, same⟩)
      · exact .inl ⟨row, Database.mem_completeJob.mpr ⟨member, Ne.symm same⟩, rfl⟩
  | fail i error retryAt =>
      obtain ⟨e, -, rfl⟩ := Option.map_eq_some_iff.mp taken
      exact .inl (Database.kept_failJob member)
  | enqueue job =>
      obtain rfl := Option.some.inj taken
      exact .inl (Database.kept_addJob member)
  | send i fault =>
      obtain ⟨op, next, entry, rfl⟩ := send_op taken
      exact (Statement.kept_answer member).imp_right fun removes =>
        .inr ⟨i, fault, op, rfl, sends_of_entry entry, removes⟩

/-- No step takes an id back. -/
theorem nextId_step (taken : s.step tables a = some s') :
    s.db.jobs.nextId ≤ s'.db.jobs.nextId := by
  cases a with
  | advance micros =>
      obtain rfl := Option.some.inj taken
      exact le_refl _
  | fetch worker jobId =>
      obtain ⟨_, -, _, -, -, -, -, -, rfl⟩ := fetch_some taken
      exact le_refl _
  | complete i =>
      obtain ⟨e, -, rfl⟩ := Option.map_eq_some_iff.mp taken
      simp only [Database.completeJob]
      split <;> exact le_refl _
  | fail i error retryAt =>
      obtain ⟨e, -, rfl⟩ := Option.map_eq_some_iff.mp taken
      simp only [Database.failJob]
      split
      · exact le_refl _
      · split <;> exact le_refl _
  | crash i =>
      obtain ⟨e, -, rfl⟩ := Option.map_eq_some_iff.mp taken
      exact le_refl _
  | jobFail i =>
      obtain ⟨ctx, -, rfl⟩ := Option.map_eq_some_iff.mp taken
      exact le_refl _
  | enqueue job =>
      obtain rfl := Option.some.inj taken
      have grown := Database.nextId_addJob s.db s.now job
      simp only [enqueue]
      omega
  | start routine =>
      obtain rfl := Option.some.inj taken
      exact le_refl _
  | send i fault =>
      obtain ⟨op, next, -, rfl⟩ := send_op taken
      exact op.nextId_answer s.now fault s.db

/-- An id that is out of circulation stays so. -/
theorem absent_step {jobId : Int} (taken : s.step tables a = some s')
    (drawn : jobId < s.db.jobs.nextId) (absent : ∀ r ∈ s.db.jobs.rows, r.id ≠ jobId) :
    jobId < s'.db.jobs.nextId ∧ ∀ r ∈ s'.db.jobs.rows, r.id ≠ jobId := by
  refine ⟨lt_of_lt_of_le drawn (nextId_step taken), fun r member => ?_⟩
  rcases row_step taken member with ⟨old, oldMember, change⟩ | adds
  · rw [change.id_eq]
    exact absent old oldMember
  · rw [adds.id_eq]
    exact drawn.ne'

/-- Every job goes on to name a task that has a row. -/
theorem tasksPresent_step (tasked : s.db.TasksPresent) (taken : s.step tables a = some s') :
    s'.db.TasksPresent := by
  cases a with
  | advance micros | start routine =>
      obtain rfl := Option.some.inj taken
      exact tasked
  | crash i | jobFail i =>
      obtain ⟨_, -, rfl⟩ := Option.map_eq_some_iff.mp taken
      exact tasked
  | fetch worker jobId =>
      obtain ⟨row, -, _, -, -, -, -, -, rfl⟩ := fetch_some taken
      intro r member
      obtain ⟨old, oldMember, rfl⟩ := Database.mem_lockJob.mp member
      split <;> exact tasked old oldMember
  | complete i =>
      obtain ⟨e, -, rfl⟩ := Option.map_eq_some_iff.mp taken
      intro r member
      have tasks : (s.db.completeJob e.worker e.job.id).tasks = s.db.tasks := by
        unfold Database.completeJob
        split <;> rfl
      rw [tasks]
      exact tasked r (Database.mem_completeJob.mp member).1
  | fail i error retryAt =>
      obtain ⟨e, -, rfl⟩ := Option.map_eq_some_iff.mp taken
      intro r member
      have tasks : (s.db.failJob e.worker e.job.id error retryAt s.now).tasks = s.db.tasks := by
        unfold Database.failJob
        split
        · rfl
        · split <;> rfl
      rw [tasks]
      obtain ⟨old, oldMember, rfl | ⟨-, -, rfl⟩⟩ := Database.of_mem_failJob member
      · exact tasked r oldMember
      · exact tasked old oldMember
  | enqueue job =>
      obtain rfl := Option.some.inj taken
      exact tasked.addJob s.now job
  | send i fault =>
      obtain ⟨op, next, -, rfl⟩ := send_op taken
      exact Statement.tasksPresent_answer tasked

end Cluster

end Backfill
