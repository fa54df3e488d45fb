import Backfill.Client.Capture
import Backfill.Misc.Paging

/-!
# The batch of a pass

The scan of `process_failed_jobs` sorts the failed jobs by the time they were last touched and
returns the first hundred; jobs that were touched at the same time come in whatever order the
database likes, and in another one the next time.
-/

namespace Backfill

namespace Database

/-- The failed jobs that are not recorded, with the columns the scan selects. -/
def eligible (db : Database) : List FailedJob :=
  (db.jobs.rows.filter fun row => row.failed && !decide (db.Recorded row.id)).filterMap
    db.failedJob?

/-- Those jobs in the order of the scan. -/
def queued (db : Database) : List FailedJob :=
  db.eligible.insertionSort fun a b => a.updatedAt ≤ b.updatedAt

theorem perm_queued (db : Database) : db.queued.Perm db.eligible :=
  List.perm_insertionSort ..

theorem pairwise_queued (db : Database) :
    db.queued.Pairwise fun a b => a.updatedAt ≤ b.updatedAt := by
  have : Std.Total fun a b : FailedJob => a.updatedAt ≤ b.updatedAt :=
    ⟨fun a b => Int.le_total a.updatedAt b.updatedAt⟩
  have : IsTrans FailedJob fun a b => a.updatedAt ≤ b.updatedAt :=
    ⟨fun _ _ _ => Int.le_trans⟩
  exact List.pairwise_insertionSort ..

/-- The job of a row that the scan joins. -/
theorem mem_eligible {db : Database} {job : FailedJob} : job ∈ db.eligible ↔
    ∃ row ∈ db.jobs.rows, row.failed = true ∧ ¬ db.Recorded row.id ∧
      db.failedJob? row = some job := by
  simp only [eligible, List.mem_filterMap, List.mem_filter, Bool.and_eq_true, Bool.not_eq_true',
    decide_eq_false_iff_not, and_assoc]

/-- The scan names no job twice. -/
theorem pairwise_eligible (db : Database) : db.eligible.Pairwise FailedJob.Apart := by
  refine List.pairwise_filterMap.mpr ((db.jobs.apart.filter _).imp ?_)
  intro row row' apart job found job' found' same
  rw [failedJob?_id found, failedJob?_id found'] at same
  exact apart (.inl same)

end Database

/-- The orders in which the scan may return the eligible jobs: by the time they were last touched,
and those that tie in any order. -/
structure ScanOrder where
  order : Database → List FailedJob
  perm : ∀ db, (order db).Perm db.eligible
  sorted : ∀ db, (order db).Pairwise fun a b => a.updatedAt ≤ b.updatedAt

/-- The order of `findFailedJobs`: those that tie come as they do in the table. -/
instance : Inhabited ScanOrder where
  default := ⟨Database.queued, Database.perm_queued, Database.pairwise_queued⟩

namespace ScanOrder

/-- The jobs a pass attempts. -/
def batch (ties : ScanOrder) (db : Database) : List FailedJob := (ties.order db).take 100

variable {ties : ScanOrder} {db : Database} {job : FailedJob}

theorem batch_default (db : Database) : (default : ScanOrder).batch db = db.findFailedJobs := rfl

theorem mem_order : job ∈ ties.order db ↔
    ∃ row ∈ db.jobs.rows, row.failed = true ∧ ¬ db.Recorded row.id ∧
      db.failedJob? row = some job :=
  (ties.perm db).mem_iff.trans Database.mem_eligible

theorem pairwise_order (ties : ScanOrder) (db : Database) :
    (ties.order db).Pairwise FailedJob.Apart :=
  ((ties.perm db).pairwise_iff (fun apart => Std.Symm.symm _ _ apart)).mpr db.pairwise_eligible

theorem pairwise_batch (ties : ScanOrder) (db : Database) :
    (ties.batch db).Pairwise FailedJob.Apart :=
  (ties.pairwise_order db).sublist (List.take_sublist ..)

/-- A job of a batch is in the queue, and not recorded. -/
theorem of_mem_batch (scanned : job ∈ ties.batch db) :
    ∃ row ∈ db.jobs.rows, row.failed = true ∧ ¬ db.Recorded row.id ∧
      db.failedJob? row = some job :=
  mem_order.mp (List.mem_of_mem_take scanned)

theorem inQueue_batch (ties : ScanOrder) (db : Database) : Session.InQueue db (ties.batch db) := by
  intro job scanned
  obtain ⟨row, member, -, -, joined⟩ := of_mem_batch scanned
  exact ⟨row, member, (Database.failedJob?_id joined).symm⟩

end ScanOrder

/-- The statements of a loop over a batch are moves. -/
theorem Client.calls_moveFailedJobs {I : Statement → Prop}
    (moves : ∀ values, I (.moveFailedJob values)) (jobs : List FailedJob) (moved : Nat) :
    (Client.moveFailedJobs jobs moved).Calls I := by
  induction jobs generalizing moved with
  | nil => trivial
  | cons job jobs ih =>
      refine ⟨moves _, fun reply => ?_⟩
      cases reply <;> exact ih _

namespace Session

/-- Send one statement; a scan that is answered returns its jobs in this order. -/
def execScan (ties : ScanOrder) : (s : Statement) → Session → Statement.Reply s × Session
  | .findFailedJobs, session =>
      ((exec .findFailedJobs session).1.map fun _ => ties.batch session.db,
        (exec .findFailedJobs session).2)
  | s, session => exec s session

/-- In the order of the table this is what `exec` does. -/
theorem execScan_default : execScan default = exec := by
  funext s session
  cases s with
  | findFailedJobs =>
      cases fault : (session.upcoming 0).fault .findFailedJobs with
      | some error => simp only [execScan, exec_refused fault, Except.map]
      | none =>
          cases present : session.db.dlq <;>
            simp only [execScan, exec_accepted fault, Statement.exec, present, Except.map,
              ScanOrder.batch_default]
  | _ => rfl

/-- The moves of a pass over this batch that are neither refused nor too late, from the second
statement on. -/
def passMoves (session : Session) (batch : List FailedJob) : List (Timestamp × FailedJob) :=
  (session.after 1 session.db).taken batch

/-- The jobs it moves. -/
def passMoved (session : Session) (batch : List FailedJob) : List FailedJob :=
  (session.passMoves batch).map Prod.snd

/-- The moves of a pass are moves of its batch. -/
theorem passMoved_sublist (session : Session) (batch : List FailedJob) :
    (session.passMoved batch).Sublist batch :=
  taken_sublist ..

variable {session : Session} {ties : ScanOrder} {table : DlqTable}

/-- After the scan a pass sends moves only, which do not depend on its order. -/
theorem run_moveFailedJobs_scan (session : Session) (jobs : List FailedJob) (moved : Nat) :
    (Client.moveFailedJobs jobs moved).run (execScan ties) session =
      session.run (Client.moveFailedJobs jobs moved) :=
  Program.run_congr (I := fun s => ∃ values, s = .moveFailedJob values)
    (by rintro _ _ ⟨values, rfl⟩; rfl)
    (Client.calls_moveFailedJobs (fun values => ⟨values, rfl⟩) ..) session

/-- A pass whose scan is answered makes its moves. -/
theorem run_processFailedJobs_scan (present : session.db.dlq = .ok table)
    (accepted : session.Accepts 0 .findFailedJobs) :
    Client.processFailedJobs.run (execScan ties) session =
      (.ok (session.passMoves (ties.batch session.db)).length,
        session.after ((ties.batch session.db).length + 1)
          (session.db.movedAll table (session.passMoves (ties.batch session.db)))) := by
  have answered : execScan ties .findFailedJobs session =
      (.ok (ties.batch session.db), session.after 1 session.db) := by
    simp only [execScan, exec_accepted accepted, Statement.exec, present, Except.map]
  have next : (session.after 1 session.db).db.dlq = .ok table := present
  rw [Client.processFailedJobs, Client.query, Program.bind_call, Program.run_call, answered,
    Program.bind_done, run_moveFailedJobs_scan,
    run_moveFailedJobs_taken _ _ next (ties.pairwise_batch _), Nat.zero_add]
  rfl

/-- The session after one pass. -/
def pass (ties : ScanOrder) (session : Session) : Session :=
  (Client.processFailedJobs.run (execScan ties) session).2

/-- A pass whose scan is answered makes its moves. -/
theorem pass_accepted (ties : ScanOrder) (present : session.db.dlq = .ok table)
    (accepted : session.Accepts 0 .findFailedJobs) :
    session.pass ties = session.after ((ties.batch session.db).length + 1)
        (session.db.movedAll table (session.passMoves (ties.batch session.db))) ∧
      Passed session.db table (session.passMoved (ties.batch session.db))
        (session.db.movedAll table (session.passMoves (ties.batch session.db)))
        (recordedAll table (session.passMoves (ties.batch session.db))) := by
  refine ⟨congrArg Prod.snd (run_processFailedJobs_scan present accepted), ?_⟩
  exact .movedAll present ((ties.pairwise_batch _).sublist (session.passMoved_sublist _))

/-- A pass whose scan is refused leaves the database as it is. -/
theorem pass_refused {error : ForeignError}
    (fault : (session.upcoming 0).fault .findFailedJobs = some error) :
    session.pass ties = session.after 1 session.db := by
  simp only [pass, Client.processFailedJobs, Client.query, Program.bind_call, Program.run_call,
    execScan, exec_refused fault, Except.map, Program.bind_fail, Program.run_fail]

/-- A pass without a concurrent writer moves some of its batch, and all of it when nothing is
refused. -/
theorem exists_passed (ties : ScanOrder) (present : session.db.dlq = .ok table) :
    ∃ done sent db' table', done.Sublist (ties.batch session.db) ∧
      session.pass ties = session.after sent db' ∧ Passed session.db table done db' table' ∧
      (session.Calm → done = ties.batch session.db ∧
        sent = (ties.batch session.db).length + 1) := by
  cases fault : (session.upcoming 0).fault .findFailedJobs with
  | some error =>
      exact ⟨[], 1, session.db, table, List.nil_sublist _, pass_refused fault, .nil present,
        fun calm => absurd (fault.symm.trans (calm 0 _)) (Option.some_ne_none _)⟩
  | none =>
      obtain ⟨ran, passed⟩ := pass_accepted ties present fault
      refine ⟨_, _, _, _, session.passMoved_sublist _, ran, passed, fun calm => ⟨?_, rfl⟩⟩
      exact taken_calm (calm.after 1 _) (ties.inQueue_batch session.db)

end Session

end Backfill
