import Backfill.Cluster.HiddenFailures
import Backfill.Misc.Ledger

/-!
# What becomes of a job

A job leaves the queue in one of three ways: a worker completes it, a capture moves it to the DLQ,
or a cleanup deletes it. Whatever is interleaved with whatever, none leaves twice, none leaves and
is still there, and none is missing: the ids in the queue and the ids that have left it are together
the ids that were there at first and the ids that enqueues have drawn for new rows.
-/

namespace Backfill

/-- How a row has left the queue. -/
inductive Exit
  /-- `complete_job` of a worker -/
  | completed
  /-- the move of a capture -/
  | moved
  /-- the `DELETE` of a cleanup -/
  | deleted
deriving DecidableEq

/-- The rows a statement takes out of the queue. -/
def Statement.takes (s : Statement) (fault : Option ForeignError) (db : Database) :
    List (JobRow × Exit) :=
  match s, fault, db.dlq with
  | .moveFailedJob values, none, .ok _ =>
      (db.jobs.rows.filter fun row => row.id = values.originalJobId).map fun row => (row, .moved)
  | .deleteFailedJobs, none, _ => db.abandonedJobs.map fun row => (row, .deleted)
  | _, _, _ => []

/-- What the log has to say about a row that has left: it was fetched, or it was captured. A row
that a cleanup deletes has nothing in the log; it was exhausted and not locked. -/
def Exit.Accounted (row : JobRow) (log : List Entry) : Exit → Prop
  | completed => ∃ job, .fetched job ∈ log ∧ job.id = row.id
  | moved => ∃ entry ∈ log, ∃ record, entry.captured? = some record ∧
      record.originalJobId = some row.id
  | deleted => row.exhausted = true ∧ row.lockedAt = none

theorem Exit.Accounted.mono {row : JobRow} {log more : List Entry} {exit : Exit}
    (accounted : exit.Accounted row log) : exit.Accounted row (log ++ more) := by
  cases exit with
  | completed =>
      obtain ⟨job, among, same⟩ := accounted
      exact ⟨job, List.mem_append_left _ among, same⟩
  | moved =>
      obtain ⟨entry, among, captured⟩ := accounted
      exact ⟨entry, List.mem_append_left _ among, captured⟩
  | deleted => exact accounted

namespace Database

/-- The id of the row an enqueue inserts; a row that it rewrites has one already. -/
def drawnBy (db : Database) (now : Timestamp) (job : NewJob) : List Int :=
  ((db.addJob now job).1.toList.map JobRow.id).filter fun id => id = db.jobs.nextId

/-- An enqueue brings the id it draws. -/
theorem keys_addJob (db : Database) (now : Timestamp) (job : NewJob) :
    (db.addJob now job).2.jobs.keys = db.jobs.keys + (db.drawnBy now job : Multiset Int) := by
  let jobs := (db.prepared job).supersede job now
  let draft := job.draft ((db.prepared job).taskId job.identifier)
    ((db.prepared job).jobQueueId job.queueName) now
  let overwrite := job.overwrite ((db.prepared job).taskId job.identifier)
    ((db.prepared job).jobQueueId job.queueName) now
  have before : jobs.keys = db.jobs.keys := by
    show SerialTable.keys (SerialTable.update _ _ _) = _
    rw [SerialTable.keys_update, jobs_prepared]
  have next : jobs.nextId = db.jobs.nextId := by
    show ((db.prepared job).supersede job now).nextId = _
    rw [nextId_supersede, jobs_prepared]
  have after : (db.addJob now job).2.jobs.keys =
      jobs.keys + if jobs.holds job.key then 0 else {jobs.nextId} :=
    SerialTable.keys_upsert draft overwrite
  have reported : (db.addJob now job).1 =
      if job.mode = .unsafeDedupe ∧ jobs.holds job.key then none
      else some (jobs.upserted draft overwrite) := rfl
  rw [after, before, drawnBy, reported]
  rcases jobs.upserted_cases draft overwrite with ⟨old, member, -, -, held, copy⟩ | ⟨free, copy⟩
  · have held : jobs.holds job.key = true := held
    have below := jobs.id_lt old member
    rw [next] at below
    rw [if_pos held]
    split
    · rfl
    · simp [copy, overwrite, below.ne]
  · have free : jobs.holds job.key = false := free
    have new : (jobs.upserted draft overwrite).id = db.jobs.nextId := by
      rw [copy, ← next]
      rfl
    simp [free, new, next]

theorem keys_completeJob (db : Database) (worker : String) (jobId : Int) :
    (db.completeJob worker jobId).jobs.keys +
      ((db.jobs.rows.filter fun row => row.id = jobId).map JobRow.id : List Int) =
        db.jobs.keys := by
  unfold completeJob
  cases found : db.jobs.get? jobId with
  | none =>
      have absent := SerialTable.get?_eq_none.mp found
      have nobody : db.jobs.rows.filter (fun row => row.id = jobId) = [] :=
        List.filter_eq_nil_iff.mpr fun row member => by simpa using absent row member
      simp [nobody]
  | some row => exact SerialTable.keys_delete _

theorem keys_failJob (db : Database) (worker error : String) (jobId : Int)
    (retryAt now : Timestamp) :
    (db.failJob worker jobId error retryAt now).jobs.keys = db.jobs.keys := by
  unfold failJob
  split
  · rfl
  · split
    · exact SerialTable.keys_update ..
    · rfl

end Database

namespace Statement

variable {s : Statement} {now : Timestamp} {fault : Option ForeignError} {db : Database}

/-- A statement that enqueues nothing takes rows out of the queue, and does no more to its ids. -/
theorem keys_answer (silent : ∀ identifier payload spec, s = .addJob identifier payload spec →
    fault ≠ none) :
    (s.answer now fault db).2.jobs.keys +
      ((s.takes fault db).map fun taken => taken.1.id : List Int) = db.jobs.keys := by
  cases fault with
  | some error => cases s <;> exact add_zero _
  | none =>
      rw [answer_none]
      cases s with
      | addJob identifier payload spec => exact absurd rfl (silent _ _ _ rfl)
      | moveFailedJob values =>
          cases present : db.dlq with
          | error missing => simp [exec, takes, present]
          | ok table =>
              simp only [exec, takes, present, Database.moveFailedJob, List.map_map]
              cases found : db.jobs.get? values.originalJobId with
              | none =>
                  have absent := SerialTable.get?_eq_none.mp found
                  have nobody : db.jobs.rows.filter
                      (fun row => row.id = values.originalJobId) = [] :=
                    List.filter_eq_nil_iff.mpr fun row member => by simpa using absent row member
                  simp [nobody]
              | some row => exact SerialTable.keys_delete _
      | deleteFailedJobs =>
          simp only [exec, takes, Database.abandonedJobs, List.map_map]
          exact SerialTable.keys_delete _
      | releaseJobLocks secs =>
          exact (add_zero _).trans (SerialTable.keys_update ..)
      | shortCircuit jobId reason =>
          exact (add_zero _).trans (SerialTable.keys_update ..)
      | _ =>
          rw [jobs_exec rfl]
          exact add_zero _

end Statement

namespace Journal

/-- The rows that leave the queue with a step. -/
def departures (j : Journal) (a : JournalAction) : List (JobRow × Exit) :=
  match a with
  | .base (.complete i) => j.cluster.running[i]?.toList.flatMap fun e =>
      (j.db.jobs.rows.filter fun row => row.id = e.job.id).map fun row => (row, .completed)
  | a => (j.sends? a).toList.flatMap fun op => op.takes a.fault j.db

/-- The ids of the rows that a step inserts into the queue. -/
def arrivals (j : Journal) (a : JournalAction) : List Int :=
  (j.enqueues? a).toList.flatMap fun job => j.db.drawnBy j.cluster.now job

variable {tables : CharTables} {j j' : Journal} {a : JournalAction}

theorem departures_sends {op : Statement} (sends : j.sends? a = some op) :
    j.departures a = op.takes a.fault j.db := by
  unfold departures
  split
  next => cases sends
  next => simp [sends]

/-- What is in the queue after a step and what has left it with the step is what was there before
and what has come. -/
theorem keys_step (taken : j.step tables a = some j') :
    j'.db.jobs.keys + ((j.departures a).map fun gone => gone.1.id : List Int) =
      j.db.jobs.keys + (j.arrivals a : Multiset Int) := by
  cases enqueues : j.enqueues? a with
  | some job =>
      have stays : j.departures a = [] := by
        rcases enqueues_some enqueues with rfl | ⟨identifier, payload, spec, sends, accepted, rfl⟩
        · rfl
        · rw [departures_sends sends, accepted]
          rfl
      rw [stays, db_enqueues enqueues taken, Database.keys_addJob]
      simp [arrivals, enqueues]
  | none =>
      have nobody : j.arrivals a = [] := by simp [arrivals, enqueues]
      rw [nobody]
      refine Eq.trans ?_ (add_zero _).symm
      cases sends : j.sends? a with
      | some op =>
          rw [departures_sends sends, sends_step sends taken]
          refine Statement.keys_answer ?_
          rintro identifier payload spec rfl accepted
          cases enqueues.symm.trans (enqueues_of_sends sends accepted)
      | none =>
          cases a with
          | requeue dlqId notes =>
              obtain rfl := Option.some.inj taken
              exact add_zero _
          | hookSend i fault =>
              obtain ⟨hook, op, next, entry, calls, rfl⟩ := hookSend_some taken
              simp [sends?, entry, calls, Program.next?] at sends
          | requeueSend i fault =>
              obtain ⟨requeue, op, next, entry, calls, rfl⟩ := requeueSend_some taken
              simp [sends?, entry, calls, Program.next?] at sends
          | base b =>
              obtain ⟨cluster, moved, rfl⟩ := base_some taken
              cases b with
              | complete i =>
                  obtain ⟨e, entry, rfl⟩ := Option.map_eq_some_iff.mp moved
                  simp only [departures, entry, Option.toList_some, List.flatMap_cons,
                    List.flatMap_nil, List.append_nil, List.map_map]
                  exact Database.keys_completeJob ..
              | enqueue job => cases enqueues
              | send i fault =>
                  obtain ⟨op, next, entry, -⟩ := Cluster.send_op moved
                  simp [sends?, entry, Program.next?] at sends
              | fetch worker jobId =>
                  obtain ⟨_, -, _, -, -, -, -, -, rfl⟩ := Cluster.fetch_some moved
                  exact (add_zero _).trans (SerialTable.keys_update ..)
              | fail i error retryAt =>
                  obtain ⟨e, -, rfl⟩ := Option.map_eq_some_iff.mp moved
                  exact (add_zero _).trans (Database.keys_failJob ..)
              | crash i | jobFail i =>
                  obtain ⟨e, -, rfl⟩ := Option.map_eq_some_iff.mp moved
                  exact add_zero _
              | advance micros | start routine =>
                  obtain rfl := Option.some.inj moved
                  exact add_zero _

/-- Every execution that is under way has been logged. -/
def Logged (j : Journal) : Prop := ∀ e ∈ j.cluster.running, .fetched e.job ∈ j.log

theorem Logged.step (logged : j.Logged) (taken : j.step tables a = some j') : j'.Logged := by
  intro e among
  obtain ⟨more, log, -⟩ := log_step taken
  rcases running_of_step taken among with old | ⟨worker, jobId, db, rfl, got⟩
  · rw [log]
    exact List.mem_append_left _ (logged e old)
  · obtain ⟨cluster, -, rfl⟩ := base_some taken
    refine List.mem_append_right _ ?_
    simp [entriesOf, got]

theorem accounted_step (logged : j.Logged) (taken : j.step tables a = some j') {row : JobRow}
    {exit : Exit} (leaves : (row, exit) ∈ j.departures a) : exit.Accounted row j'.log := by
  obtain ⟨more, log, -⟩ := log_step taken
  unfold departures at leaves
  split at leaves
  next i =>
    obtain ⟨e, among, leaves⟩ := List.mem_flatMap.mp leaves
    obtain ⟨old, member, same⟩ := List.mem_map.mp leaves
    obtain ⟨rfl, rfl⟩ := Prod.mk.inj same
    have running := List.mem_of_getElem? (Option.mem_toList.mp among)
    have names : old.id = e.job.id := by simpa using (List.mem_filter.mp member).2
    exact log ▸ ⟨e.job, List.mem_append_left _ (logged e running), names.symm⟩
  next =>
    obtain ⟨op, sends, leaves⟩ := List.mem_flatMap.mp leaves
    have sends := Option.mem_toList.mp sends
    obtain ⟨marks, log⟩ := log_sends sends taken
    rw [log]
    unfold Statement.takes at leaves
    split at leaves
    next values _ accepted present _ =>
      obtain ⟨old, member, same⟩ := List.mem_map.mp leaves
      obtain ⟨rfl, rfl⟩ := Prod.mk.inj same
      obtain ⟨member, names⟩ := List.mem_filter.mp member
      obtain ⟨entry, among, captured⟩ : ∃ entry ∈ (Statement.moveFailedJob values).entries
          j.cluster.now none j.db, ∃ record, entry.captured? = some record ∧
            record.originalJobId = some old.id :=
        Statement.exists_captured present member (by simpa using Eq.symm (of_decide_eq_true names))
      rw [accepted]
      exact ⟨entry, List.mem_append_right _ (List.mem_append_left _ among), captured⟩
    next =>
      obtain ⟨old, member, same⟩ := List.mem_map.mp leaves
      obtain ⟨rfl, rfl⟩ := Prod.mk.inj same
      simpa [Exit.Accounted] using (List.mem_filter.mp member).2
    next => cases leaves

/-- The rows that have left the queue in a run. -/
def gone (tables : CharTables) (j : Journal) (as : List JournalAction) : Multiset (JobRow × Exit) :=
  Transition.tally (step tables) (fun j a => (j.departures a : Multiset (JobRow × Exit))) j as

/-- The ids that a run has drawn for new rows. -/
def drawn (tables : CharTables) (j : Journal) (as : List JournalAction) : Multiset Int :=
  Transition.tally (step tables) (fun j a => (j.arrivals a : Multiset Int)) j as

theorem arrivals_step (taken : j.step tables a = some j') :
    j.arrivals a = [] ∨
      j.arrivals a = [j.db.jobs.nextId] ∧ j.db.jobs.nextId < j'.db.jobs.nextId := by
  cases enqueues : j.enqueues? a with
  | none => exact .inl (by simp [arrivals, enqueues])
  | some job =>
      have arrives : j.arrivals a = j.db.drawnBy j.cluster.now job := by simp [arrivals, enqueues]
      rw [arrives, db_enqueues enqueues taken, Database.nextId_addJob, Database.drawnBy]
      cases (j.db.addJob j.cluster.now job).1 with
      | none => exact .inl rfl
      | some row =>
          by_cases new : row.id = j.db.jobs.nextId
          · exact .inr ⟨by simp [new], Int.lt_succ _⟩
          · exact .inl (by simp [new])

/-- What a run draws is new, and drawn once. -/
theorem nodup_drawn {ok : Journal → JournalAction → Prop} {as : List JournalAction}
    (path : Transition.Run (step tables) ok j as j') :
    (drawn tables j as).Nodup ∧ ∀ id ∈ drawn tables j as, j.db.jobs.nextId ≤ id :=
  path.nodup_tally (f := fun (j : Journal) a => (j.arrivals a : Multiset Int))
    (m := fun j => j.db.jobs.nextId) (I := fun _ => True) trivial
    (fun _ _ _ _ taken => ⟨trivial, nextId_step taken⟩) fun j a j' _ taken => by
      rcases arrivals_step taken with none | ⟨one, advances⟩
      · exact .inl (by rw [none]; rfl)
      · exact .inr ⟨by rw [one]; rfl, advances⟩

/-- In every run each row of the queue leaves it once at most: the ids that are there at the end and
the ids that have left are, without repetition, the ids that were there at the beginning and the ids
drawn since. A row that a worker has completed had been fetched, one that has been moved was
captured under its id, and one that has been deleted was exhausted and not locked. -/
theorem every_job_leaves_once {now : Timestamp} {db : Database} {as : List JournalAction}
    (path : Transition.Run (step tables) (fun _ _ => True) (initial now db) as j) :
    j.db.jobs.keys + (gone tables (initial now db) as).map (fun left => left.1.id) =
        db.jobs.keys + drawn tables (initial now db) as ∧
      (db.jobs.keys + drawn tables (initial now db) as).Nodup ∧
      ∀ row exit, (row, exit) ∈ gone tables (initial now db) as → exit.Accounted row j.log := by
  refine ⟨?_, ?_, fun row exit left => ?_⟩
  · have ids : (gone tables (initial now db) as).map (fun left => left.1.id) =
        Transition.tally (step tables) (fun j a =>
          (j.departures a : Multiset (JobRow × Exit)).map fun left => left.1.id)
          (initial now db) as :=
      Transition.map_tally
        (f := fun (j : Journal) a => (j.departures a : Multiset (JobRow × Exit)))
        (Multiset.mapAddMonoidHom fun left => left.1.id) _ _
    exact (congrArg (j.db.jobs.keys + ·) ids).trans <|
      path.balanced (I := fun _ => True) (m := fun j => j.db.jobs.keys) trivial
        (fun _ _ _ _ _ _ => trivial) fun j a j' _ _ taken => keys_step taken
  · obtain ⟨once, new⟩ := nodup_drawn path
    refine Multiset.nodup_add.mpr ⟨db.jobs.nodup_keys, once, ?_⟩
    refine Multiset.disjoint_left.mpr fun {id} there drawn => ?_
    obtain ⟨row, member, rfl⟩ := SerialTable.mem_keys.mp there
    exact absurd (db.jobs.id_lt row member) (not_lt.mpr (new _ drawn))
  · obtain ⟨before, a, after, u, v, rfl, first, -, taken, last, leaves⟩ := path.mem_tally left
    have logged : u.Logged := first.invariant (I := Logged)
      (fun _ _ _ logged _ taken => logged.step taken) (fun e among => by cases among)
    refine last.invariant (I := fun j => exit.Accounted row j.log) (fun j _ j' accounted _ taken => ?_)
      (accounted_step logged taken leaves)
    obtain ⟨more, log, -⟩ := log_step taken
    exact log ▸ accounted.mono

/-- A job that has failed is moved, the next one is completed, and one that was never to be run is
deleted. -/
theorem every_job_leaves_once_failedInvoice :
    ∃ as j, Transition.Run (step .ascii) (fun _ _ => True) (initial 0 (failedInvoice .null)) as j ∧
      (gone .ascii (initial 0 (failedInvoice .null)) as).map (fun left => (left.1.id, left.2)) =
        {(1, .moved), (2, .completed), (3, .deleted)} ∧
      j.db.jobs.keys + (gone .ascii (initial 0 (failedInvoice .null)) as).map
          (fun left => left.1.id) =
        (failedInvoice .null).jobs.keys + drawn .ascii (initial 0 (failedInvoice .null)) as := by
  have path : Transition.Run (step .ascii) (fun _ _ => True) (initial 0 (failedInvoice .null))
      [.base (.start Client.processFailedJobs), .base (.send 0 none), .base (.send 0 none),
        .base (.enqueue singleAttempt), .base (.fetch "worker" 2), .base (.complete 0),
        .base (.enqueue { singleAttempt with maxAttempts := 0 }),
        .base (.start Client.cleanupPermanentlyFailedJobs), .base (.send 1 none)] _ :=
    .of_run (by simp) rfl
  exact ⟨_, _, path, rfl, (every_job_leaves_once path).1⟩

end Journal

end Backfill
