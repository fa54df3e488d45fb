import Backfill.Client.JobRows
import Backfill.Client.Scan

/-!
# One pass of `process_failed_jobs` after another

A pass takes a hundred jobs at most, and which of them is a matter of when their rows were last
touched. So a failed job may have to wait; but a pass that leaves it has taken a hundred others,
and no pass adds a row to the queue.
-/

namespace Backfill

namespace ScanOrder

variable {ties : ScanOrder} {db : Database} {row : JobRow}

/-- A failed row that the scan could return and does not has a full batch before it. -/
theorem full_of_left_out {identifier : String} (member : row ∈ db.jobs.rows)
    (failed : row.failed = true) (unrecorded : ¬ db.Recorded row.id)
    (named : db.taskIdentifier? row.taskId = some identifier)
    (left : ∀ job ∈ ties.batch db, job.id ≠ row.id) :
    (ties.batch db).length = 100 ∧ ∀ job ∈ ties.batch db, job.updatedAt ≤ row.updatedAt := by
  obtain ⟨job, joined⟩ : ∃ job, db.failedJob? row = some job := by
    simp [Database.failedJob?, named]
  have eligible : job ∈ ties.order db := mem_order.mpr ⟨row, member, failed, unrecorded, joined⟩
  have past : job ∉ ties.batch db := fun scanned =>
    left job scanned (Database.failedJob?_id joined)
  rw [← Database.failedJob?_updatedAt joined]
  exact Paging.take_before_of_not_mem (ties.sorted db) eligible past

/-- A job of a batch is the scanned copy of the row with its id. -/
theorem joined_of_scanned {job : FailedJob} (scanned : job ∈ ties.batch db)
    (member : row ∈ db.jobs.rows) (same : job.id = row.id) : db.failedJob? row = some job := by
  obtain ⟨found, foundMember, -, -, joined⟩ := of_mem_batch scanned
  obtain rfl := db.jobs.eq_of_id_eq foundMember member
    ((Database.failedJob?_id joined).symm.trans same)
  exact joined

end ScanOrder

/-- No other failed job of the queue is stored under the key of `row`. -/
def JobRow.AloneIn (row : JobRow) (db : Database) : Prop :=
  ∀ r ∈ db.jobs.rows, r.failed = true → r.id ≠ row.id →
    row.key = none ∨ storedKey r.key ≠ storedKey row.key

instance (row : JobRow) (db : Database) : Decidable (row.AloneIn db) :=
  inferInstanceAs (Decidable (∀ r ∈ db.jobs.rows, _))

/-- The jobs of a batch are failed rows of the queue. -/
theorem JobRow.AloneIn.scanned {db : Database} {row : JobRow} (alone : row.AloneIn db)
    {ties : ScanOrder} {job : FailedJob} (scanned : job ∈ ties.batch db)
    (other : job.id ≠ row.id) : row.key = none ∨ storedKey job.jobKey ≠ storedKey row.key := by
  obtain ⟨found, member, failed, -, joined⟩ := ScanOrder.of_mem_batch scanned
  rw [Database.failedJob?_id joined] at other
  exact Database.failedJob?_key joined ▸ alone found member failed other

namespace Session

variable {session : Session} {ties : Nat → ScanOrder} {table : DlqTable} {row : JobRow}
  {record : DlqJob}

/-- The session after `n` calls of `process_failed_jobs`, each with its own order of the jobs that
tie. -/
def passes (ties : Nat → ScanOrder) : Nat → Session → Session
  | 0, session => session
  | n + 1, session => (passes ties n session).pass (ties n)

/-- The first pass, and then the others. -/
theorem passes_succ (ties : Nat → ScanOrder) (n : Nat) (session : Session) :
    session.passes ties (n + 1) =
      (session.pass (ties 0)).passes (fun i => ties (i + 1)) n := by
  induction n with
  | zero => rfl
  | succ n ih => rw [passes, ih, passes]

/-- Only the orders of the passes that have been made matter. -/
theorem passes_congr {ties' : Nat → ScanOrder} {n : Nat} (same : ∀ i < n, ties i = ties' i) :
    session.passes ties n = session.passes ties' n := by
  induction n with
  | zero => rfl
  | succ n ih =>
      rw [passes, passes, same n (Nat.lt_succ_self n),
        ih fun i before => same i (Nat.lt_succ_of_lt before)]

end Session

end Backfill
