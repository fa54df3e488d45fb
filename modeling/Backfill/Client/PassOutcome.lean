import Backfill.Client.Scan

/-!
# What becomes of each job of a batch

A pass attempts the first hundred jobs the scan finds, one statement each; among jobs that were last
touched at the same time the database may choose. Whether a job is moved depends on its own
statement alone: the batch names no job twice, so neither a move before it nor a refusal takes its
row away.
-/

namespace Backfill

namespace Session

variable {session : Session} {jobs : List FailedJob} {job : FailedJob} {time : Timestamp}

/-- Which jobs of a batch are moved, and when. -/
theorem mem_taken : (time, job) ∈ session.taken jobs ↔
    ∃ i : Nat, jobs[i]? = some job ∧ session.Accepts i (.moveFailedJob job.toInsert) ∧
      time = (session.upcoming i).now ∧ ∃ row ∈ session.db.jobs.rows, row.id = job.id := by
  induction jobs generalizing session with
  | nil => simp [taken]
  | cons head jobs ih =>
      have found : ∀ key, (session.db.jobs.get? key).isSome = true ↔
          ∃ row ∈ session.db.jobs.rows, row.id = key := by
        intro key
        simp only [Option.isSome_iff_exists, SerialTable.get?_eq_some]
      have tail : (time, job) ∈ (session.after 1 session.db).taken jobs ↔
          ∃ i : Nat, (head :: jobs)[i + 1]? = some job ∧
            session.Accepts (i + 1) (.moveFailedJob job.toInsert) ∧
            time = (session.upcoming (i + 1)).now ∧
              ∃ row ∈ session.db.jobs.rows, row.id = job.id := ih
      have first : (time, job) = ((session.upcoming 0).now, head) ∧
          (session.upcoming 0).fault (.moveFailedJob head.toInsert) = none ∧
            (session.db.jobs.get? head.id).isSome = true ↔
          (head :: jobs)[0]? = some job ∧ session.Accepts 0 (.moveFailedJob job.toInsert) ∧
            time = (session.upcoming 0).now ∧ ∃ row ∈ session.db.jobs.rows, row.id = job.id := by
        rw [found, List.getElem?_cons_zero, Option.some.injEq, Prod.mk.injEq]
        constructor
        · rintro ⟨⟨rfl, rfl⟩, accepted, there⟩
          exact ⟨rfl, accepted, rfl, there⟩
        · rintro ⟨rfl, accepted, rfl, there⟩
          exact ⟨⟨rfl, rfl⟩, accepted, there⟩
      rw [taken]
      constructor
      · intro member
        split at member
        next moved =>
          rcases List.mem_cons.mp member with same | later
          · exact ⟨0, first.mp ⟨same, moved⟩⟩
          · obtain ⟨i, rest⟩ := tail.mp later
            exact ⟨i + 1, rest⟩
        next =>
          obtain ⟨i, rest⟩ := tail.mp member
          exact ⟨i + 1, rest⟩
      · rintro ⟨i, rest⟩
        cases i with
        | zero =>
            obtain ⟨same, moved⟩ := first.mpr rest
            rw [if_pos moved, same]
            exact List.mem_cons_self ..
        | succ i =>
            have later := tail.mpr ⟨i, rest⟩
            split
            · exact List.mem_cons_of_mem _ later
            · exact later

/-- One more job at the end of a batch. -/
theorem taken_concat : session.taken (jobs ++ [job]) = session.taken jobs ++
    if (session.upcoming jobs.length).fault (.moveFailedJob job.toInsert) = none ∧
        (session.db.jobs.get? job.id).isSome then
      [((session.upcoming jobs.length).now, job)]
    else [] := by
  induction jobs generalizing session with
  | nil =>
      simp only [taken, List.nil_append, List.length_nil]
  | cons head jobs ih =>
      have rest := @ih (session.after 1 session.db)
      simp only [List.cons_append, taken]
      rw [rest]
      split <;> rfl

/-- The statements of a pass over a batch: one for each of its jobs, in their order, whatever the
database answers. -/
theorem sent_moveFailedJobs (session : Session) (jobs : List FailedJob) (moved : Nat) :
    session.sent (Client.moveFailedJobs jobs moved) =
      jobs.map fun job => .moveFailedJob job.toInsert := by
  induction jobs generalizing session moved with
  | nil => rfl
  | cons job jobs ih =>
      rw [sent, Client.moveFailedJobs, Program.trace_call, List.map_cons]
      congr 1
      split
      · exact ih _ _
      · exact ih _ _

/-- The database once the first `i` jobs of the batch have been attempted. -/
def passState (session : Session) (batch : List FailedJob) (i : Nat) : Database :=
  ((session.after 1 session.db).run (Client.moveFailedJobs (batch.take i) 0)).2.db

/-- What a pass that has scanned this batch leaves, and returns as `count`. -/
structure PassOutcome (session : Session) (batch : List FailedJob) (after : Database)
    (count : Nat) : Prop where
  begins : session.passState batch 0 = session.db
  /-- a job whose statement is answered leaves the queue, and one row of the DLQ counts it -/
  moved : ∀ i job, batch[i]? = some job → session.Accepts (i + 1) (.moveFailedJob job.toInsert) →
    ∃ row record, TakesOnce (session.upcoming (i + 1)).now (session.passState batch i)
      (session.passState batch (i + 1)) job.toInsert row record
  /-- a job whose statement is refused changes nothing -/
  refused : ∀ i job, batch[i]? = some job →
    ¬ session.Accepts (i + 1) (.moveFailedJob job.toInsert) →
      session.passState batch (i + 1) = session.passState batch i
  ends : session.passState batch batch.length = after
  /-- in the end the first are out of the queue -/
  gone : ∀ i job, batch[i]? = some job → session.Accepts (i + 1) (.moveFailedJob job.toInsert) →
    ∀ r ∈ after.jobs.rows, r.id ≠ job.id
  /-- and recorded, if no later one is stored under their key -/
  recorded : ∀ i job, batch[i]? = some job →
    session.Accepts (i + 1) (.moveFailedJob job.toInsert) →
      job.LastIn (session.passMoved batch) → after.Recorded job.id
  /-- the others are in the queue as before, and not recorded -/
  kept : ∀ i job, batch[i]? = some job →
    ¬ session.Accepts (i + 1) (.moveFailedJob job.toInsert) →
      (∃ row ∈ after.jobs.rows, row ∈ session.db.jobs.rows ∧ row.id = job.id) ∧
        ¬ after.Recorded job.id
  /-- a job that is not attempted stays, and none is added -/
  jobs : ∀ row, (∀ job ∈ batch, row.id ≠ job.id) →
    (row ∈ after.jobs.rows ↔ row ∈ session.db.jobs.rows)
  /-- a record under whose key no moved job is stored stays -/
  untouched : ∀ record ∈ session.db.dlqRows,
    (∀ job ∈ session.passMoved batch, record.jobKey = none ∨ record.jobKey ≠ storedKey job.jobKey) →
      record ∈ after.dlqRows
  tasks : after.tasks = session.db.tasks
  jobQueues : after.jobQueues = session.db.jobQueues
  count : after.jobs.rows.length + count = session.db.jobs.rows.length

/-- The rows a delete by key takes are as many as the keys, when these are apart and all there. -/
theorem length_delete_add {db : Database} {jobs : List FailedJob}
    (apart : jobs.Pairwise FailedJob.Apart) (inQueue : InQueue db jobs) :
    (db.jobs.delete fun row => jobs.any fun job => row.id = job.id).rows.length + jobs.length =
      db.jobs.rows.length := by
  set hit := fun row : JobRow => jobs.any fun job => decide (row.id = job.id)
  have ids : ((db.jobs.rows.filter hit).map JobRow.id).Perm (jobs.map FailedJob.id) := by
    refine (List.perm_ext_iff_of_nodup ?_ ?_).mpr fun key => ?_
    · exact List.pairwise_map.mpr ((db.jobs.apart.filter _).imp fun apart same =>
        apart (.inl same))
    · exact List.pairwise_map.mpr apart
    · simp only [List.mem_map, List.mem_filter, hit, List.any_eq_true, decide_eq_true_eq]
      constructor
      · rintro ⟨row, ⟨-, job, among, same⟩, rfl⟩
        exact ⟨job, among, same.symm⟩
      · rintro ⟨job, among, rfl⟩
        obtain ⟨row, member, same⟩ := inQueue job among
        exact ⟨row, ⟨member, job, among, same⟩, same⟩
  have hits : (db.jobs.rows.filter hit).length = jobs.length := by
    simpa using ids.length_eq
  have split := List.length_eq_length_filter_add hit (l := db.jobs.rows)
  simp only [SerialTable.delete]
  omega

/-- The database after a part of the batch. -/
theorem passState_eq {batch : List FailedJob} {table : DlqTable}
    (apart : batch.Pairwise FailedJob.Apart) (present : session.db.dlq = .ok table) (i : Nat) :
    session.passState batch i =
      session.db.movedAll table ((session.after 1 session.db).taken (batch.take i)) := by
  have next : (session.after 1 session.db).db.dlq = .ok table := present
  rw [passState, run_moveFailedJobs_taken _ _ next (apart.sublist (List.take_sublist ..))]
  rfl

section Batch

variable {batch : List FailedJob} {table : DlqTable} (apart : batch.Pairwise FailedJob.Apart)
  (inQueue : InQueue session.db batch)

include apart inQueue

/-- A pass moves a job of its batch exactly when the statement for it is not refused. -/
theorem mem_passMoved {i : Nat} (scanned : batch[i]? = some job) :
    job ∈ session.passMoved batch ↔ session.Accepts (i + 1) (.moveFailedJob job.toInsert) := by
  rw [passMoved, List.mem_map]
  constructor
  · rintro ⟨⟨time, _⟩, member, rfl⟩
    obtain ⟨k, entry, accepted, -⟩ := mem_taken.mp member
    have distinct : batch.Nodup := apart.imp fun apart same => apart (congrArg FailedJob.id same)
    obtain ⟨inside, -⟩ := List.getElem?_eq_some_iff.mp scanned
    obtain rfl : i = k := (List.getElem?_inj inside distinct).mp (scanned.trans entry.symm)
    exact accepted
  · intro accepted
    have member := List.mem_of_getElem? scanned
    exact ⟨(_, job), mem_taken.mpr ⟨i, scanned, accepted, rfl, inQueue job member⟩, rfl⟩

/-- The statement for one job of the batch. -/
theorem passState_succ (present : session.db.dlq = .ok table) {i : Nat}
    (scanned : batch[i]? = some job) :
    (session.Accepts (i + 1) (.moveFailedJob job.toInsert) →
      ∃ row record, TakesOnce (session.upcoming (i + 1)).now (session.passState batch i)
        (session.passState batch (i + 1)) job.toInsert row record) ∧
    (¬ session.Accepts (i + 1) (.moveFailedJob job.toInsert) →
      session.passState batch (i + 1) = session.passState batch i) := by
  have split : batch.take (i + 1) = batch.take i ++ [job] := by
    rw [List.take_add_one, scanned]
    rfl
  obtain ⟨inside, -⟩ := List.getElem?_eq_some_iff.mp scanned
  have position : (batch.take i).length = i := List.length_take_of_le (Nat.le_of_lt inside)
  have member := List.mem_of_getElem? scanned
  obtain ⟨row, rowMember, key⟩ := inQueue job member
  have found : (session.db.jobs.get? job.id).isSome = true := by
    rw [SerialTable.get?_eq_some.mpr ⟨rowMember, key⟩]
    rfl
  have next := @taken_concat (session.after 1 session.db) (batch.take i) job
  rw [position] at next
  rw [passState_eq apart present, passState_eq apart present, split, next]
  constructor
  · intro accepted
    rw [if_pos ⟨accepted, found⟩, Database.movedAll_concat]
    refine ⟨row, _, .of_moved (SerialTable.mem_delete.mpr ⟨rowMember, ?_⟩) key rfl⟩
    rw [List.any_eq_false]
    intro move taken same
    have earlier : move.2 ∈ batch.take i :=
      (taken_sublist _ _).subset (List.mem_map_of_mem taken)
    have differ : move.2.Apart job := by
      rw [← List.take_append_drop (i + 1) batch, split, List.append_assoc] at apart
      exact (List.pairwise_append.mp apart).2.2 _ earlier job (by simp)
    exact differ (key.symm.trans (of_decide_eq_true same)).symm
  · intro refused
    rw [if_neg fun both => refused both.1, List.append_nil]

/-- What the moves of a pass leave. -/
theorem passOutcome (present : session.db.dlq = .ok table)
    (unrecorded : ∀ job ∈ batch, ¬ session.db.Recorded job.id) :
    PassOutcome session batch (session.db.movedAll table (session.passMoves batch))
      (session.passMoves batch).length := by
  have sub := session.passMoved_sublist batch
  have passed := Passed.movedAll present (apart.sublist sub)
  have rows := Database.dlqRows_ok passed.present
  refine
    { begins := rfl
      moved := fun i job scanned => (passState_succ apart inQueue present scanned).1
      refused := fun i job scanned => (passState_succ apart inQueue present scanned).2
      ends := by rw [passState_eq apart present, List.take_length]; rfl
      gone := fun i job scanned accepted r member => ?_
      recorded := fun i job scanned accepted last => ?_
      kept := fun i job scanned refused => ?_
      jobs := fun row outside => ?_
      untouched := fun record member differ => ?_
      tasks := rfl
      jobQueues := rfl
      count := ?_ }
  · have moved := (mem_passMoved apart inQueue scanned).mpr accepted
    exact ((passed.jobs_iff r).mp member).2 _ moved
  · have moved := (mem_passMoved apart inQueue scanned).mpr accepted
    obtain ⟨record, member, captured⟩ := passed.captured job moved last
    exact ⟨record, rows.symm ▸ member, captured.originalJobId⟩
  · have member := List.mem_of_getElem? scanned
    have others : ∀ other ∈ session.passMoved batch, other.id ≠ job.id := by
      intro other among
      refine apart.forall (sub.subset among) member ?_
      rintro rfl
      exact refused ((mem_passMoved apart inQueue scanned).mp among)
    obtain ⟨row, rowMember, key⟩ := inQueue job member
    refine ⟨⟨row, (passed.jobs_iff row).mpr ⟨rowMember, fun other among same => ?_⟩, rowMember,
      key⟩, ?_⟩
    · exact others other among (same.symm.trans key)
    · exact mt (passed.recorded_of_outside present others) (unrecorded job member)
  · rw [passed.jobs_iff]
    exact ⟨And.left, fun member => ⟨member, fun other among => outside other (sub.subset among)⟩⟩
  · rw [rows]
    rw [Database.dlqRows_ok present] at member
    exact passed.untouched record member differ
  · have all : InQueue session.db (session.passMoved batch) := fun other among =>
      inQueue other (sub.subset among)
    have counted := length_delete_add (apart.sublist sub) all
    rw [passMoved, List.length_map] at counted
    rw [← counted]
    simp only [Database.movedAll, List.any_map]
    rfl

end Batch

variable {ties : ScanOrder} {table : DlqTable}

/-- Its statements: the scan, and one for each job of the batch, in their order. -/
theorem trace_processFailedJobs_scan (present : session.db.dlq = .ok table)
    (accepted : session.Accepts 0 .findFailedJobs) :
    Client.processFailedJobs.trace (execScan ties) session = .findFailedJobs ::
      (ties.batch session.db).map fun job => .moveFailedJob job.toInsert := by
  have answered : execScan ties .findFailedJobs session =
      (.ok (ties.batch session.db), session.after 1 session.db) := by
    simp only [execScan, exec_accepted accepted, Statement.exec, present, Except.map]
  rw [Client.processFailedJobs, Client.query, Program.bind_call, Program.trace_call, answered,
    Program.bind_done]
  refine congrArg _ (Eq.trans ?_ (sent_moveFailedJobs (session.after 1 session.db) _ 0))
  exact Program.trace_congr (I := fun s => ∃ values, s = .moveFailedJob values)
    (by rintro _ _ ⟨values, rfl⟩; rfl)
    (Client.calls_moveFailedJobs (fun values => ⟨values, rfl⟩) ..) _

/-- A pass without a concurrent writer. When its scan fails, it returns the error and has changed
nothing. Otherwise it attempts the first hundred of the eligible jobs in the order in which they
were last touched, whatever the order of those that tie, with one statement each, and every one of
them is moved, or left as it was, on its own. -/
theorem processFailedJobs_outcome (ties : ScanOrder) (session : Session) :
    (∀ error, (exec .findFailedJobs session).1 = .error error →
      Client.processFailedJobs.run (execScan ties) session =
        (.error (.sqlxError error), session.after 1 session.db)) ∧
    ∀ jobs, (exec .findFailedJobs session).1 = .ok jobs →
      ∃ after count batch,
        (∃ order : List FailedJob, order.Perm session.db.eligible ∧
          order.Pairwise (fun a b => a.updatedAt ≤ b.updatedAt) ∧
            batch = order.take (min 100 session.db.eligible.length)) ∧
        Client.processFailedJobs.run (execScan ties) session =
          (.ok count, session.after (batch.length + 1) after) ∧
        Client.processFailedJobs.trace (execScan ties) session = .findFailedJobs ::
          batch.map (fun job => .moveFailedJob job.toInsert) ∧
        PassOutcome session batch after count := by
  cases fault : (session.upcoming 0).fault .findFailedJobs with
  | some error =>
      refine ⟨fun error' failed => ?_, fun jobs listed => ?_⟩
      · rw [exec_refused fault] at failed
        obtain rfl := Except.error.inj failed
        simp only [Client.processFailedJobs, Client.query, Program.bind_call, Program.run_call,
          execScan, exec_refused fault, Except.map, Program.bind_fail, Program.run_fail]
      · rw [exec_refused fault] at listed
        cases listed
  | none =>
      cases present : session.db.dlq with
      | error missing =>
          have answered : exec .findFailedJobs session =
              (.error missing, session.after 1 session.db) := by
            simp only [exec_accepted fault, Statement.exec, present]
          rw [answered]
          refine ⟨fun error' failed => ?_, fun jobs listed => by cases listed⟩
          obtain rfl := Except.error.inj failed
          simp only [Client.processFailedJobs, Client.query, Program.bind_call, Program.run_call,
            execScan, answered, Except.map, Program.bind_fail, Program.run_fail]
      | ok table =>
          have answered : (exec .findFailedJobs session).1 = .ok session.db.findFailedJobs := by
            simp only [exec_accepted fault, Statement.exec, present]
          rw [answered]
          refine ⟨fun error failed => (by cases failed), fun _ _ => ⟨_, _, ties.batch session.db,
            ⟨ties.order session.db, ties.perm _, ties.sorted _, ?_⟩,
            run_processFailedJobs_scan present fault, trace_processFailedJobs_scan present fault,
            passOutcome (ties.pairwise_batch _) (ties.inQueue_batch _) present
              fun job scanned => ?_⟩⟩
          · rw [ScanOrder.batch, ← (ties.perm session.db).length_eq, ← List.take_eq_take_min]
          · obtain ⟨row, -, -, unrecorded, joined⟩ := ScanOrder.of_mem_batch scanned
            rwa [Database.failedJob?_id joined]

end Session

end Backfill
