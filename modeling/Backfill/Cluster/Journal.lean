import Backfill.Cluster.Rows
import Backfill.DlqCleanupPlugin

/-!
# A cluster that cleans up and requeues, and its log

A `Journal` is a cluster whose workers run the `JobComplete` hook of `DlqCleanupPlugin`, together
with the requeue calls under way and a log of what has happened to the DLQ. The log, the tickets
of the executions and the other fields that only the log is filled from are never read by a
step.
-/

namespace Backfill

/-- What the log remembers. -/
inductive Entry
  /-- a worker has fetched a job -/
  | fetched (job : Job)
  /-- a capture of `values` has inserted `record` -/
  | inserted (values : DlqInsert) (record : DlqJob)
  /-- a capture of `values` has found a row with its key, which is `record` now -/
  | touched (values : DlqInsert) (record : DlqJob)
  /-- a requeue has been counted for this id -/
  | counted (dlqId : Int)
  /-- an enqueue has written `row` -/
  | written (row : JobRow)
  /-- a requeue of `dlqJob` has enqueued `row` -/
  | requeued (dlqJob : DlqJob) (row : JobRow)
  /-- the hook of a job has erased `records`; the job was fetched when the log had `fetchedAt`
  entries -/
  | erased (job : Job) (fetchedAt : Nat) (records : List DlqJob)

namespace Entry

/-- The record a capture has left. -/
def captured? : Entry → Option DlqJob
  | inserted _ record | touched _ record => some record
  | _ => none

/-- The values it was bound to. -/
def bound? : Entry → Option DlqInsert
  | inserted values _ | touched values _ => some values
  | _ => none

/-- The entry is one of those that remember what a statement did to the DLQ. -/
def counts : Entry → Bool
  | inserted _ _ | touched _ _ | counted _ => true
  | _ => false

/-- An entry that does not count is no capture. -/
theorem captured?_of_mark {entry : Entry} (mark : entry.counts = false) :
    entry.captured? = none := by
  cases entry <;> first
    | rfl
    | cases mark

theorem bound?_of_mark {entry : Entry} (mark : entry.counts = false) : entry.bound? = none := by
  cases entry <;> first
    | rfl
    | cases mark

end Entry

/-- The entries of an upsert. -/
def DlqInsert.entries (values : DlqInsert) (table : DlqTable) (now : Timestamp) : List Entry :=
  if table.holds (storedKey values.jobKey) then [.touched values (values.upsertedIn table now)]
  else [.inserted values (values.upsertedIn table now)]

/-- What a statement does to the DLQ, for the log. -/
def Statement.entries (s : Statement) (now : Timestamp) (fault : Option ForeignError)
    (db : Database) : List Entry :=
  match s, fault, db.dlq with
  | .moveFailedJob values, none, .ok table =>
      match db.jobs.get? values.originalJobId with
      | some _ => values.entries table now
      | none => []
  | .upsertDlq values, none, .ok table => values.entries table now
  | .recordRequeue _ dlqId, none, .ok _ => [.counted dlqId]
  | _, _, _ => []

/-- The row a statement enqueues. -/
def Statement.written (s : Statement) (now : Timestamp) (fault : Option ForeignError)
    (db : Database) : List Entry :=
  match s, fault with
  | .addJob identifier payload spec, none =>
      (db.addJob now (spec.newJob identifier payload now)).1.toList.map .written
  | _, _ => []

/-- The `JobComplete` hook of one completion. -/
structure Hook where
  job : Job
  fetchedAt : Nat
  /-- A statement of it has been answered with an error. -/
  refused : Bool
  routine : Client Unit

/-- A call of `requeue_dlq_job`. -/
structure Requeue where
  dlqId : Int
  /-- The row it has read. -/
  dlqJob : Option DlqJob
  routine : Client Job

structure Journal where
  cluster : Cluster
  /-- For each execution the length of the log when its job was fetched. -/
  tickets : List Nat
  hooks : List Hook
  requeues : List Requeue
  log : List Entry

inductive JournalAction
  /-- a step of the cluster -/
  | base (a : Action)
  /-- hook `i` sends its next statement -/
  | hookSend (i : Nat) (fault : Option ForeignError)
  /-- somebody calls `requeue_dlq_job` -/
  | requeue (dlqId : Int) (notes : Option String)
  /-- requeue `i` sends its next statement -/
  | requeueSend (i : Nat) (fault : Option ForeignError)

/-- The error the statement of an action is refused with. -/
def JournalAction.fault : JournalAction → Option ForeignError
  | .base (.send _ fault) | .hookSend _ fault | .requeueSend _ fault => fault
  | _ => none

/-- What the delete of a hook erases. -/
def Hook.entries (hook : Hook) (s : Statement) (fault : Option ForeignError) (db : Database) :
    List Entry :=
  match s, fault, db.dlq with
  | .deleteDlqByJobKey jobKey, none, .ok table =>
      [.erased hook.job hook.fetchedAt (table.rows.filter fun row => row.jobKey = some jobKey)]
  | _, _, _ => []

namespace Requeue

/-- The row a requeue works with once the statement has been answered. -/
def read (r : Requeue) : (s : Statement) → Statement.Reply s → Option DlqJob
  | .getDlqJob _, .ok found => found
  | _, _ => r.dlqJob

/-- The job a requeue has enqueued. -/
def entries (r : Requeue) : (s : Statement) → Statement.Reply s → List Entry
  | .addJob _ _ _, .ok added =>
      match r.dlqJob, (added : Option Job) with
      | some dlqJob, some job => [.requeued dlqJob job.toJobRow]
      | _, _ => []
  | _, _ => []

end Requeue

namespace Journal

/-- Nothing has happened yet. -/
def initial (now : Timestamp) (db : Database) : Journal where
  cluster := .initial now db
  tickets := []
  hooks := []
  requeues := []
  log := []

/-- The database of the journal. -/
abbrev db (j : Journal) : Database := j.cluster.db

/-- The tickets of the executions that are left, and of the one that starts. -/
def ticketsAfter (j : Journal) : Action → List Nat
  | .fetch _ _ => j.tickets ++ [j.log.length]
  | .complete i | .fail i _ _ | .crash i => j.tickets.eraseIdx i
  | _ => j.tickets

/-- The hook a completion starts. -/
def hooksOf (j : Journal) : Action → List Hook
  | .complete i => j.cluster.running[i]?.toList.map fun e =>
      { job := e.job
        fetchedAt := j.tickets[i]?.getD 0
        refused := false
        routine := Client.dlqCleanupHook e.job }
  | _ => []

/-- What a step of the cluster adds to the log. -/
def entriesOf (j : Journal) : Action → List Entry
  | .fetch worker jobId =>
      (j.db.getJob worker j.cluster.now jobId).toList.map fun taken => .fetched taken.1
  | .enqueue job => (j.db.addJob j.cluster.now job).1.toList.map .written
  | .send i fault =>
      (j.cluster.routines[i]?.bind Program.next?).toList.flatMap fun op =>
        op.entries j.cluster.now fault j.db ++ op.written j.cluster.now fault j.db
  | _ => []

/-- A step of the cluster. -/
def base (tables : CharTables) (j : Journal) (a : Action) : Option Journal :=
  (j.cluster.step tables a).map fun cluster =>
    { j with
      cluster := cluster
      tickets := j.ticketsAfter a
      hooks := j.hooks ++ j.hooksOf a
      log := j.log ++ j.entriesOf a }

/-- The cluster after a statement that none of its own routines has sent. -/
def answered (j : Journal) (op : Statement) (fault : Option ForeignError) : Cluster :=
  { j.cluster with db := (op.answer j.cluster.now fault j.db).2 }

/-- Hook `i` sends its next statement. -/
def hookSend (j : Journal) (i : Nat) (fault : Option ForeignError) : Option Journal :=
  match j.hooks[i]? with
  | some ⟨job, fetchedAt, refused, .call op next⟩ =>
      let reply := (op.answer j.cluster.now fault j.db).1
      some { j with
        cluster := j.answered op fault
        hooks := j.hooks.set i ⟨job, fetchedAt, refused || !reply.isOk, next reply⟩
        log := j.log ++ op.entries j.cluster.now fault j.db ++
          Hook.entries ⟨job, fetchedAt, refused, .call op next⟩ op fault j.db }
  | _ => none

/-- Requeue `i` sends its next statement. -/
def requeueSend (j : Journal) (i : Nat) (fault : Option ForeignError) : Option Journal :=
  match j.requeues[i]? with
  | some ⟨dlqId, dlqJob, .call op next⟩ =>
      let reply := (op.answer j.cluster.now fault j.db).1
      some { j with
        cluster := j.answered op fault
        requeues := j.requeues.set i
          ⟨dlqId, Requeue.read ⟨dlqId, dlqJob, .call op next⟩ op reply, next reply⟩
        log := j.log ++ op.entries j.cluster.now fault j.db ++
          Requeue.entries ⟨dlqId, dlqJob, .call op next⟩ op reply }
  | _ => none

/-- One step of the journal; `none` when the action is not possible. -/
def step (tables : CharTables) (j : Journal) : JournalAction → Option Journal
  | .base a => j.base tables a
  | .hookSend i fault => j.hookSend i fault
  | .requeue dlqId notes => some { j with
      requeues := j.requeues ++ [⟨dlqId, none, Client.requeueDlqJob dlqId notes⟩] }
  | .requeueSend i fault => j.requeueSend i fault

/-- The statement an action sends. -/
def sends? (j : Journal) : JournalAction → Option Statement
  | .base (.send i _) => j.cluster.routines[i]?.bind Program.next?
  | .hookSend i _ => j.hooks[i]?.bind fun hook => hook.routine.next?
  | .requeueSend i _ => j.requeues[i]?.bind fun requeue => requeue.routine.next?
  | _ => none

/-- The job an action enqueues, if the database does not refuse it. -/
def enqueues? (j : Journal) (a : JournalAction) : Option NewJob :=
  match a, j.sends? a, a.fault with
  | .base (.enqueue job), _, _ => some job
  | _, some (.addJob identifier payload spec), none =>
      some (spec.newJob identifier payload j.cluster.now)
  | _, _, _ => none

end Journal

/-- What one statement can do to the table of the DLQ, with its entries. -/
inductive DlqChange (now : Timestamp) (table : DlqTable) : DlqTable → List Entry → Prop
  | kept : DlqChange now table table []
  | upserted (values : DlqInsert) :
      DlqChange now table (values.upsertInto table now) (values.entries table now)
  | counted (dlqId : Int) (notes : Option String) :
      DlqChange now table
        (table.update (fun row => row.id = dlqId) (DlqJob.requeued notes now)) [.counted dlqId]
  | deleted (p : DlqJob → Bool) : DlqChange now table (table.delete p) []

/-- Where the rows of the DLQ come from: rows keep their id and their key, and an id is not
taken back. -/
theorem DlqChange.origin {now : Timestamp} {table table' : DlqTable} {entries : List Entry}
    (change : DlqChange now table table' entries) :
    table.nextId ≤ table'.nextId ∧ ∀ row ∈ table'.rows,
      (∃ old ∈ table.rows, old.id = row.id ∧ old.jobKey = row.jobKey) ∨ row.id = table.nextId := by
  cases change with
  | kept => exact ⟨le_refl _, fun row member => .inl ⟨row, member, rfl, rfl⟩⟩
  | upserted values =>
      refine ⟨(Int.le_add_one (le_refl _)).trans SerialTable.nextId_upsert.ge, fun row member => ?_⟩
      rcases SerialTable.mem_upsert.mp member with ⟨-, old, oldMember, rfl⟩ | ⟨-, old | rfl⟩
      · exact .inl ⟨old, oldMember, by split <;> exact ⟨rfl, rfl⟩⟩
      · exact .inl ⟨row, old, rfl, rfl⟩
      · exact .inr rfl
  | counted dlqId notes =>
      refine ⟨le_refl _, fun row member => ?_⟩
      obtain ⟨old, oldMember, rfl⟩ := SerialTable.mem_update.mp member
      exact .inl ⟨old, oldMember, by split <;> exact ⟨rfl, rfl⟩⟩
  | deleted p =>
      refine ⟨le_refl _, fun row member => ?_⟩
      exact .inl ⟨row, (SerialTable.mem_delete.mp member).1, rfl, rfl⟩

/-- A record keeps its task and its queue, and the time it failed changes only to that of the
statement. -/
theorem DlqChange.dated {now : Timestamp} {table table' : DlqTable} {entries : List Entry}
    (change : DlqChange now table table' entries) {row : DlqJob} (member : row ∈ table'.rows) :
    (∃ old ∈ table.rows, old.id = row.id ∧ old.taskIdentifier = row.taskIdentifier ∧
      old.queueName = row.queueName ∧ (row.failedAt = old.failedAt ∨ row.failedAt = now)) ∨
    (row.id = table.nextId ∧ row.failedAt = now) := by
  cases change with
  | kept => exact .inl ⟨row, member, rfl, rfl, rfl, .inl rfl⟩
  | upserted values =>
      rcases SerialTable.mem_upsert.mp member with ⟨-, old, oldMember, rfl⟩ | ⟨-, old | rfl⟩
      · refine .inl ⟨old, oldMember, ?_⟩
        split
        · exact ⟨rfl, rfl, rfl, .inr rfl⟩
        · exact ⟨rfl, rfl, rfl, .inl rfl⟩
      · exact .inl ⟨row, old, rfl, rfl, rfl, .inl rfl⟩
      · exact .inr ⟨rfl, rfl⟩
  | counted dlqId notes =>
      obtain ⟨old, oldMember, rfl⟩ := SerialTable.mem_update.mp member
      refine .inl ⟨old, oldMember, ?_⟩
      split
      · exact ⟨rfl, rfl, rfl, .inl rfl⟩
      · exact ⟨rfl, rfl, rfl, .inl rfl⟩
  | deleted p =>
      exact .inl ⟨row, (SerialTable.mem_delete.mp member).1, rfl, rfl, rfl, .inl rfl⟩

/-- A row the DLQ has had: its id is drawn, and the row that has it now, if there is one, has
its key. -/
def Known (table : DlqTable) (record : DlqJob) : Prop :=
  record.id < table.nextId ∧ ∀ row ∈ table.rows, row.id = record.id → row.jobKey = record.jobKey

theorem Known.of_mem {table : DlqTable} {record : DlqJob} (member : record ∈ table.rows) :
    Known table record :=
  ⟨table.id_lt record member, fun row among same => by rw [table.eq_of_id_eq among member same]⟩

/-- A captured record is in the table the capture leaves. -/
theorem Known.of_captured {now : Timestamp} {table table' : DlqTable} {entries : List Entry}
    {entry : Entry} {record : DlqJob} (change : DlqChange now table table' entries)
    (among : entry ∈ entries) (captured : entry.captured? = some record) : Known table' record := by
  cases change with
  | kept | deleted => cases among
  | counted =>
      rw [List.mem_singleton.mp among] at captured
      cases captured
  | upserted values =>
      have left : values.upsertedIn table now ∈ (values.upsertInto table now).rows :=
        SerialTable.upserted_mem
      unfold DlqInsert.entries at among
      split at among <;> rw [List.mem_singleton.mp among] at captured <;>
        exact Option.some.inj captured ▸ .of_mem left

theorem Known.change {now : Timestamp} {table table' : DlqTable} {entries : List Entry}
    {record : DlqJob} (known : Known table record) (change : DlqChange now table table' entries) :
    Known table' record := by
  obtain ⟨grows, origin⟩ := change.origin
  refine ⟨lt_of_lt_of_le known.1 grows, fun row member same => ?_⟩
  rcases origin row member with ⟨old, oldMember, id, key⟩ | new
  · rw [← key]
    exact known.2 old oldMember (id.trans same)
  · have below := known.1
    omega

/-- A row that has been deleted does not come back. -/
theorem Known.gone {now : Timestamp} {table table' : DlqTable} {entries : List Entry}
    {dlqId : Int} (drawn : dlqId < table.nextId) (gone : ∀ row ∈ table.rows, row.id ≠ dlqId)
    (change : DlqChange now table table' entries) :
    dlqId < table'.nextId ∧ ∀ row ∈ table'.rows, row.id ≠ dlqId := by
  obtain ⟨grows, origin⟩ := change.origin
  refine ⟨lt_of_lt_of_le drawn grows, fun row member => ?_⟩
  rcases origin row member with ⟨old, oldMember, id, -⟩ | new
  · exact id ▸ gone old oldMember
  · omega

namespace Statement

variable {s : Statement} {now : Timestamp} {fault : Option ForeignError} {db : Database}
  {table : DlqTable}

theorem entries_of_leaves (leaves : s.LeavesDlq = true) : s.entries now fault db = [] := by
  cases s <;> first
    | exact absurd leaves Bool.false_ne_true
    | rfl

/-- Every entry of a statement remembers what it did to the DLQ. -/
theorem counts_entries : ∀ entry ∈ s.entries now fault db, entry.counts = true := by
  have upserted : ∀ (values : DlqInsert) (table : DlqTable),
      ∀ entry ∈ values.entries table now, entry.counts = true := by
    intro values table entry among
    unfold DlqInsert.entries at among
    split at among <;> rw [List.mem_singleton.mp among] <;> rfl
  intro entry among
  unfold entries at among
  split at among
  · split at among
    · exact upserted _ _ entry among
    · cases among
  · exact upserted _ _ entry among
  · rw [List.mem_singleton.mp among]
    rfl
  · cases among

/-- What a statement enters for the row it enqueues. -/
theorem mem_written {entry : Entry} (among : entry ∈ s.written now fault db) :
    ∃ identifier payload spec row, s = .addJob identifier payload spec ∧ fault = none ∧
      (db.addJob now (spec.newJob identifier payload now)).1 = some row ∧ entry = .written row := by
  unfold written at among
  split at among
  next identifier payload spec =>
    obtain ⟨row, reported, rfl⟩ := List.mem_map.mp among
    exact ⟨identifier, payload, spec, row, rfl, rfl, Option.mem_toList.mp reported, rfl⟩
  next => cases among

/-- The table of the DLQ after a statement. -/
theorem dlq_answer (s : Statement) (now : Timestamp) (fault : Option ForeignError)
    (present : db.dlq = .ok table) :
    ∃ table', (s.answer now fault db).2.dlq = .ok table' ∧
      DlqChange now table table' (s.entries now fault db) := by
  cases fault with
  | some error =>
      refine ⟨table, present, ?_⟩
      cases s <;> exact .kept
  | none =>
      rw [answer_none]
      cases s with
      | moveFailedJob values =>
          simp only [exec, entries, Database.moveFailedJob, present]
          cases db.jobs.get? values.originalJobId with
          | none => exact ⟨_, present, .kept⟩
          | some row => exact ⟨_, rfl, .upserted values⟩
      | upsertDlq values =>
          simp only [exec, entries, present]
          exact ⟨_, rfl, .upserted values⟩
      | recordRequeue notes dlqId =>
          simp only [exec, entries, present]
          exact ⟨_, rfl, .counted dlqId notes⟩
      | deleteDlqJob dlqId =>
          simp only [exec, entries, present]
          exact ⟨_, rfl, .deleted _⟩
      | deleteDlqByJobKey jobKey =>
          simp only [exec, entries, present]
          exact ⟨_, rfl, .deleted _⟩
      | _ =>
          rw [entries_of_leaves rfl]
          exact ⟨table, (dlq_exec rfl).trans present, .kept⟩

end Statement

/-- What the hook erases is not counted a second time. -/
theorem Hook.counts_entries (hook : Hook) {op : Statement} {fault : Option ForeignError}
    {db : Database} : ∀ entry ∈ hook.entries op fault db, entry.counts = false := by
  intro entry among
  unfold Hook.entries at among
  split at among
  · rw [List.mem_singleton.mp among]
    rfl
  · cases among

/-- What a requeue enters is the row its enqueue has written. -/
theorem Requeue.mem_entries {requeue : Requeue} {op : Statement} {now : Timestamp}
    {fault : Option ForeignError} {db : Database} {entry : Entry}
    (among : entry ∈ requeue.entries op (op.answer now fault db).1) :
    ∃ dlqJob identifier payload spec written, requeue.dlqJob = some dlqJob ∧
      op = .addJob identifier payload spec ∧ fault = none ∧
      (db.addJob now (spec.newJob identifier payload now)).1 = some written ∧
      entry = .requeued dlqJob written := by
  cases op with
  | addJob identifier payload spec =>
      cases fault with
      | some error => cases among
      | none =>
          simp only [Statement.answer_none, Statement.exec, Requeue.entries] at among
          split at among
          next dlqJob job loaded added =>
            obtain ⟨written, reported, rfl⟩ := Option.map_eq_some_iff.mp added
            exact ⟨dlqJob, identifier, payload, spec, written, loaded, rfl, rfl, reported,
              List.mem_singleton.mp among⟩
          next => cases among
  | _ => simp [Requeue.entries] at among

/-- What a requeue enqueues is not counted before its bookkeeping. -/
theorem Requeue.counts_entries (requeue : Requeue) {op : Statement} {now : Timestamp}
    {fault : Option ForeignError} {db : Database} :
    ∀ entry ∈ requeue.entries op (op.answer now fault db).1, entry.counts = false := by
  intro entry among
  obtain ⟨_, _, _, _, _, -, -, -, -, rfl⟩ := mem_entries among
  rfl

namespace Journal

variable {tables : CharTables} {j j' : Journal} {a : JournalAction}

/-- A hook sends the statement it has got to. -/
theorem hookSend_some {i : Nat} {fault : Option ForeignError}
    (sent : j.hookSend i fault = some j') :
    ∃ hook op next, j.hooks[i]? = some hook ∧ hook.routine = .call op next ∧
      j' = { j with
        cluster := j.answered op fault
        hooks := j.hooks.set i
          { hook with
            refused := hook.refused || !(op.answer j.cluster.now fault j.db).1.isOk
            routine := next (op.answer j.cluster.now fault j.db).1 }
        log := j.log ++ op.entries j.cluster.now fault j.db ++ hook.entries op fault j.db } := by
  unfold hookSend at sent
  split at sent
  next job fetchedAt refused op next entry =>
    obtain rfl := Option.some.inj sent
    exact ⟨_, op, next, entry, rfl, rfl⟩
  next => cases sent

/-- A requeue sends the statement it has got to. -/
theorem requeueSend_some {i : Nat} {fault : Option ForeignError}
    (sent : j.requeueSend i fault = some j') :
    ∃ requeue op next, j.requeues[i]? = some requeue ∧ requeue.routine = .call op next ∧
      j' = { j with
        cluster := j.answered op fault
        requeues := j.requeues.set i
          { requeue with
            dlqJob := requeue.read op (op.answer j.cluster.now fault j.db).1
            routine := next (op.answer j.cluster.now fault j.db).1 }
        log := j.log ++ op.entries j.cluster.now fault j.db ++
          requeue.entries op (op.answer j.cluster.now fault j.db).1 } := by
  unfold requeueSend at sent
  split at sent
  next dlqId dlqJob op next entry =>
    obtain rfl := Option.some.inj sent
    exact ⟨_, op, next, entry, rfl, rfl⟩
  next => cases sent

/-- A step of the cluster, with the hook it starts and the entries it adds. -/
theorem base_some {b : Action} (taken : j.base tables b = some j') :
    ∃ cluster, j.cluster.step tables b = some cluster ∧
      j' = { j with
        cluster := cluster
        tickets := j.ticketsAfter b
        hooks := j.hooks ++ j.hooksOf b
        log := j.log ++ j.entriesOf b } := by
  obtain ⟨cluster, moved, rfl⟩ := Option.map_eq_some_iff.mp taken
  exact ⟨cluster, moved, rfl⟩

/-- A step is a step of the cluster, or it changes nothing of the cluster but its database. -/
theorem cluster_step (taken : j.step tables a = some j') :
    (∃ b, a = .base b ∧ j.cluster.step tables b = some j'.cluster) ∨
      ((∀ b, a ≠ .base b) ∧ j'.cluster = { j.cluster with db := j'.db }) := by
  cases a with
  | base b =>
      obtain ⟨cluster, moved, rfl⟩ := base_some taken
      exact .inl ⟨b, rfl, moved⟩
  | requeue dlqId notes =>
      obtain rfl := Option.some.inj taken
      exact .inr ⟨nofun, rfl⟩
  | hookSend i fault =>
      obtain ⟨hook, op, next, -, -, rfl⟩ := hookSend_some taken
      exact .inr ⟨nofun, rfl⟩
  | requeueSend i fault =>
      obtain ⟨requeue, op, next, -, -, rfl⟩ := requeueSend_some taken
      exact .inr ⟨nofun, rfl⟩

/-- The clock only goes forward. -/
theorem now_step (taken : j.step tables a = some j') : j.cluster.now ≤ j'.cluster.now := by
  rcases cluster_step taken with ⟨b, -, moved⟩ | ⟨-, same⟩
  · rw [Cluster.now_step moved]
    exact Int.le_add_of_nonneg_right (Int.natCast_nonneg _)
  · rw [same]

/-- An execution has been under way before, or the step starts it. -/
theorem running_of_step (taken : j.step tables a = some j') {e : Execution}
    (among : e ∈ j'.cluster.running) :
    e ∈ j.cluster.running ∨ ∃ worker jobId db, a = .base (.fetch worker jobId) ∧
      j.db.getJob worker j.cluster.now jobId = some (e.job, db) := by
  rcases cluster_step taken with ⟨b, rfl, moved⟩ | ⟨-, same⟩
  · rcases Cluster.running_step moved among with old | ⟨worker, jobId, db, rfl, got⟩
    · exact .inl old
    · exact .inr ⟨worker, jobId, db, rfl, got⟩
  · rw [same] at among
    exact .inl among

/-- Only a statement writes the DLQ and has its entries counted. -/
theorem dlq_base {cluster : Cluster} {b : Action} (moved : j.cluster.step tables b = some cluster)
    (silent : ∀ i fault, b ≠ .send i fault) :
    cluster.db.dlq = j.db.dlq ∧ ∀ entry ∈ j.entriesOf b, entry.counts = false := by
  cases b with
  | send i fault => exact absurd rfl (silent i fault)
  | fetch worker jobId =>
      obtain ⟨_, -, _, -, -, -, -, -, rfl⟩ := Cluster.fetch_some moved
      refine ⟨rfl, fun entry among => ?_⟩
      obtain ⟨taken, -, rfl⟩ := List.mem_map.mp among
      rfl
  | complete i =>
      obtain ⟨e, -, rfl⟩ := Option.map_eq_some_iff.mp moved
      exact ⟨Database.dlq_completeJob .., by simp [entriesOf]⟩
  | fail i error retryAt =>
      obtain ⟨e, -, rfl⟩ := Option.map_eq_some_iff.mp moved
      exact ⟨Database.dlq_failJob .., by simp [entriesOf]⟩
  | crash i | jobFail i =>
      obtain ⟨e, -, rfl⟩ := Option.map_eq_some_iff.mp moved
      exact ⟨rfl, by simp [entriesOf]⟩
  | advance micros | start routine =>
      obtain rfl := Option.some.inj moved
      exact ⟨rfl, by simp [entriesOf]⟩
  | enqueue job =>
      obtain rfl := Option.some.inj moved
      refine ⟨Database.dlq_addJob .., fun entry among => ?_⟩
      obtain ⟨row, -, rfl⟩ := List.mem_map.mp among
      rfl

/-- What a step does to the table of the DLQ and to the log: the change of one statement, its
entries, and others that do not count. -/
theorem dlq_step {table : DlqTable} (present : j.db.dlq = .ok table)
    (taken : j.step tables a = some j') :
    ∃ table' entries marks, j'.db.dlq = .ok table' ∧
      DlqChange j.cluster.now table table' entries ∧ j'.log = j.log ++ (entries ++ marks) ∧
      ∀ entry ∈ marks, entry.counts = false := by
  cases a with
  | requeue dlqId notes =>
      obtain rfl := Option.some.inj taken
      exact ⟨table, [], [], present, .kept, by simp, by simp⟩
  | hookSend i fault =>
      obtain ⟨hook, op, next, -, -, rfl⟩ := hookSend_some taken
      obtain ⟨table', after, change⟩ := op.dlq_answer j.cluster.now fault present
      exact ⟨table', _, _, after, change, List.append_assoc .., hook.counts_entries⟩
  | requeueSend i fault =>
      obtain ⟨requeue, op, next, -, -, rfl⟩ := requeueSend_some taken
      obtain ⟨table', after, change⟩ := op.dlq_answer j.cluster.now fault present
      exact ⟨table', _, _, after, change, List.append_assoc .., requeue.counts_entries⟩
  | base b =>
      obtain ⟨cluster, moved, rfl⟩ := base_some taken
      by_cases sent : ∃ i fault, b = .send i fault
      · obtain ⟨i, fault, rfl⟩ := sent
        obtain ⟨op, next, entry, rfl⟩ := Cluster.send_op moved
        obtain ⟨table', after, change⟩ := op.dlq_answer j.cluster.now fault present
        refine ⟨table', _, op.written j.cluster.now fault j.db, after, change, ?_, ?_⟩
        · simp [entriesOf, entry, Program.next?]
        · intro mark among
          obtain ⟨_, _, _, _, -, -, -, rfl⟩ := Statement.mem_written among
          rfl
      · obtain ⟨same, own⟩ := dlq_base moved fun i fault is => sent ⟨i, fault, is⟩
        exact ⟨table, [], j.entriesOf b, same.trans present, .kept, rfl, own⟩

/-- A step that sends a statement leaves the database its answer leaves. -/
theorem sends_step {op : Statement} (sends : j.sends? a = some op)
    (taken : j.step tables a = some j') : j'.db = (op.answer j.cluster.now a.fault j.db).2 := by
  cases a with
  | requeue dlqId notes => cases sends
  | hookSend i fault =>
      obtain ⟨hook, op', next, entry, routine, rfl⟩ := hookSend_some taken
      obtain rfl : op' = op := by simpa [sends?, entry, routine, Program.next?] using sends
      rfl
  | requeueSend i fault =>
      obtain ⟨requeue, op', next, entry, routine, rfl⟩ := requeueSend_some taken
      obtain rfl : op' = op := by simpa [sends?, entry, routine, Program.next?] using sends
      rfl
  | base b =>
      obtain ⟨cluster, moved, rfl⟩ := base_some taken
      cases b with
      | send i fault =>
          obtain ⟨op', next, entry, rfl⟩ := Cluster.send_op moved
          obtain rfl : op' = op := by simpa [sends?, entry, Program.next?] using sends
          rfl
      | _ => cases sends

/-- A step that sends no statement leaves the DLQ as it is. -/
theorem dlq_silent (silent : j.sends? a = none) (taken : j.step tables a = some j') :
    j'.db.dlq = j.db.dlq := by
  cases a with
  | requeue dlqId notes =>
      obtain rfl := Option.some.inj taken
      rfl
  | hookSend i fault =>
      obtain ⟨hook, op, next, entry, calls, rfl⟩ := hookSend_some taken
      simp [sends?, entry, calls, Program.next?] at silent
  | requeueSend i fault =>
      obtain ⟨requeue, op, next, entry, calls, rfl⟩ := requeueSend_some taken
      simp [sends?, entry, calls, Program.next?] at silent
  | base b =>
      obtain ⟨cluster, moved, rfl⟩ := base_some taken
      refine (dlq_base moved ?_).1
      rintro i fault rfl
      obtain ⟨op, next, entry, -⟩ := Cluster.send_op moved
      simp [sends?, entry, Program.next?] at silent

theorem enqueues_of_sends {identifier : String} {payload : Json} {spec : GraphileJobSpec}
    (sends : j.sends? a = some (.addJob identifier payload spec)) (accepted : a.fault = none) :
    j.enqueues? a = some (spec.newJob identifier payload j.cluster.now) := by
  unfold enqueues?
  split
  next job => cases sends
  next same accepted' =>
    obtain ⟨rfl, rfl, rfl⟩ := Statement.addJob.inj (Option.some.inj (sends.symm.trans same))
    rfl
  next none => exact absurd accepted (none _ _ _ sends)

/-- An enqueue is one of the cluster, or a statement of a routine. -/
theorem enqueues_some {job : NewJob} (enqueues : j.enqueues? a = some job) :
    a = .base (.enqueue job) ∨ ∃ identifier payload spec,
      j.sends? a = some (.addJob identifier payload spec) ∧ a.fault = none ∧
        job = spec.newJob identifier payload j.cluster.now := by
  unfold enqueues? at enqueues
  split at enqueues
  next => exact .inl (by rw [Option.some.inj enqueues])
  next sends accepted => exact .inr ⟨_, _, _, sends, accepted, (Option.some.inj enqueues).symm⟩
  next => cases enqueues

/-- An enqueue leaves the database its `add_job` leaves. -/
theorem db_enqueues {job : NewJob} (enqueues : j.enqueues? a = some job)
    (taken : j.step tables a = some j') : j'.db = (j.db.addJob j.cluster.now job).2 := by
  rcases enqueues_some enqueues with rfl | ⟨identifier, payload, spec, sends, accepted, rfl⟩
  · obtain ⟨cluster, moved, rfl⟩ := base_some taken
    obtain rfl := Option.some.inj moved
    rfl
  · rw [sends_step sends taken, accepted]
    rfl

theorem requeue_enqueues {i : Nat} {requeue : Requeue} {identifier : String} {payload : Json}
    {spec : GraphileJobSpec} {next : Statement.Reply (.addJob identifier payload spec) → Client Job}
    (entry : j.requeues[i]? = some requeue)
    (calls : requeue.routine = .call (.addJob identifier payload spec) next) :
    j.enqueues? (.requeueSend i none) = some (spec.newJob identifier payload j.cluster.now) :=
  enqueues_of_sends (by simp [sends?, entry, calls, Program.next?]) rfl

/-- The row an enqueue reports is in the queue after it. -/
theorem written_step {job : NewJob} {row : JobRow} (enqueues : j.enqueues? a = some job)
    (reported : (j.db.addJob j.cluster.now job).1 = some row)
    (taken : j.step tables a = some j') : row ∈ j'.db.jobs.rows := by
  rw [db_enqueues enqueues taken]
  exact (Database.addJob_written reported).1

/-- What a step can enter in the log. -/
inductive NewEntry (j : Journal) : JournalAction → Entry → Prop
  /-- a statement remembers what it does to the DLQ -/
  | counted {a : JournalAction} {op : Statement} {entry : Entry} (sends : j.sends? a = some op)
      (among : entry ∈ op.entries j.cluster.now a.fault j.db) : NewEntry j a entry
  | written {a : JournalAction} {job : NewJob} {row : JobRow} (enqueues : j.enqueues? a = some job)
      (reported : (j.db.addJob j.cluster.now job).1 = some row) : NewEntry j a (.written row)
  | requeued {i : Nat} {requeue : Requeue} {dlqJob : DlqJob} {identifier : String}
      {payload : Json} {spec : GraphileJobSpec} {row : JobRow}
      {next : Statement.Reply (.addJob identifier payload spec) → Client Job}
      (entry : j.requeues[i]? = some requeue) (loaded : requeue.dlqJob = some dlqJob)
      (calls : requeue.routine = .call (.addJob identifier payload spec) next)
      (reported :
        (j.db.addJob j.cluster.now (spec.newJob identifier payload j.cluster.now)).1 = some row) :
      NewEntry j (.requeueSend i none) (.requeued dlqJob row)
  | fetched {worker : String} {jobId : Int} {job : Job} {db : Database}
      (got : j.db.getJob worker j.cluster.now jobId = some (job, db)) :
      NewEntry j (.base (.fetch worker jobId)) (.fetched job)
  | erased {i : Nat} {fault : Option ForeignError} (job : Job) (n : Nat) (records : List DlqJob) :
      NewEntry j (.hookSend i fault) (.erased job n records)

/-- The log only grows, by the entries of the step. -/
theorem log_step (taken : j.step tables a = some j') :
    ∃ more, j'.log = j.log ++ more ∧ ∀ entry ∈ more, j.NewEntry a entry := by
  cases a with
  | requeue dlqId notes =>
      obtain rfl := Option.some.inj taken
      exact ⟨[], (List.append_nil _).symm, by simp⟩
  | hookSend i fault =>
      obtain ⟨hook, op, next, entry, calls, rfl⟩ := hookSend_some taken
      have sends : j.sends? (.hookSend i fault) = some op := by
        simp [sends?, entry, calls, Program.next?]
      refine ⟨_, List.append_assoc .., fun mark among => ?_⟩
      rcases List.mem_append.mp among with counts | erases
      · exact .counted sends counts
      · unfold Hook.entries at erases
        split at erases
        · rw [List.mem_singleton.mp erases]
          exact .erased ..
        · cases erases
  | requeueSend i fault =>
      obtain ⟨requeue, op, next, entry, calls, rfl⟩ := requeueSend_some taken
      have sends : j.sends? (.requeueSend i fault) = some op := by
        simp [sends?, entry, calls, Program.next?]
      refine ⟨_, List.append_assoc .., fun mark among => ?_⟩
      rcases List.mem_append.mp among with counts | requeues
      · exact .counted sends counts
      · obtain ⟨dlqJob, identifier, payload, spec, row, loaded, rfl, rfl, reported, rfl⟩ :=
          Requeue.mem_entries requeues
        exact .requeued entry loaded calls reported
  | base b =>
      obtain ⟨cluster, moved, rfl⟩ := base_some taken
      refine ⟨_, rfl, fun mark among => ?_⟩
      cases b with
      | send i fault =>
          obtain ⟨op, next, entry, -⟩ := Cluster.send_op moved
          have sends : j.sends? (.base (.send i fault)) = some op := by
            simp [sends?, entry, Program.next?]
          have more : j.entriesOf (.send i fault) =
              op.entries j.cluster.now fault j.db ++ op.written j.cluster.now fault j.db := by
            simp [entriesOf, entry, Program.next?]
          rw [more] at among
          rcases List.mem_append.mp among with counts | writes
          · exact .counted sends counts
          · obtain ⟨_, _, _, row, rfl, rfl, reported, rfl⟩ := Statement.mem_written writes
            exact .written (enqueues_of_sends sends rfl) reported
      | fetch worker jobId =>
          obtain ⟨⟨job, db⟩, got, rfl⟩ := List.mem_map.mp among
          exact .fetched (Option.mem_toList.mp got)
      | enqueue job =>
          obtain ⟨row, reported, rfl⟩ := List.mem_map.mp among
          exact .written rfl (Option.mem_toList.mp reported)
      | _ => cases among

/-- The log grows by what the statement of a step does to the DLQ, first of all. -/
theorem log_sends {op : Statement} (sends : j.sends? a = some op)
    (taken : j.step tables a = some j') :
    ∃ marks, j'.log = j.log ++ (op.entries j.cluster.now a.fault j.db ++ marks) := by
  cases a with
  | requeue dlqId notes => cases sends
  | hookSend i fault =>
      obtain ⟨hook, op', next, entry, calls, rfl⟩ := hookSend_some taken
      obtain rfl : op' = op := by simpa [sends?, entry, calls, Program.next?] using sends
      exact ⟨_, List.append_assoc ..⟩
  | requeueSend i fault =>
      obtain ⟨requeue, op', next, entry, calls, rfl⟩ := requeueSend_some taken
      obtain rfl : op' = op := by simpa [sends?, entry, calls, Program.next?] using sends
      exact ⟨_, List.append_assoc ..⟩
  | base b =>
      obtain ⟨cluster, moved, rfl⟩ := base_some taken
      cases b with
      | send i fault =>
          obtain ⟨op', next, entry, rfl⟩ := Cluster.send_op moved
          obtain rfl : op' = op := by simpa [sends?, entry, Program.next?] using sends
          refine ⟨op'.written j.cluster.now fault j.db, ?_⟩
          simp [entriesOf, entry, Program.next?]
          rfl
      | _ => cases sends

/-- What a step makes of a job row that stays in the queue, as far as its key goes: it is kept,
or the row is superseded and never available again. -/
structure Follows (old row : JobRow) : Prop where
  id_eq : row.id = old.id
  key_eq : row.key = old.key ∨ (row.key = none ∧ row.maxAttempts ≤ row.attempts)
  exhausted : old.key = none → old.maxAttempts ≤ old.attempts → row.maxAttempts ≤ row.attempts

/-- The rows of the queue after a step: what it made of a row that was there, or a new one. -/
theorem row_step {row : JobRow} (taken : j.step tables a = some j')
    (member : row ∈ j'.db.jobs.rows) :
    (∃ old ∈ j.db.jobs.rows, Follows old row) ∨ row.id = j.db.jobs.nextId := by
  have answered : ∀ (op : Statement) fault,
      row ∈ (op.answer j.cluster.now fault j.db).2.jobs.rows →
        (∃ old ∈ j.db.jobs.rows, Follows old row) ∨ row.id = j.db.jobs.nextId := by
    intro op fault among
    rcases Statement.row_answer among with ⟨old, oldMember, change⟩ | adds
    · exact .inl ⟨old, oldMember, change.id_eq, change.key_eq, change.exhausted⟩
    · exact .inr adds.id_eq
  cases a with
  | requeue dlqId notes =>
      obtain rfl := Option.some.inj taken
      exact .inl ⟨row, member, rfl, .inl rfl, fun _ spent => spent⟩
  | hookSend i fault =>
      obtain ⟨hook, op, next, -, -, rfl⟩ := hookSend_some taken
      exact answered op fault member
  | requeueSend i fault =>
      obtain ⟨requeue, op, next, -, -, rfl⟩ := requeueSend_some taken
      exact answered op fault member
  | base b =>
      obtain ⟨cluster, moved, rfl⟩ := base_some taken
      rcases Cluster.row_step moved member with ⟨old, oldMember, change⟩ | adds
      · exact .inl ⟨old, oldMember, change.id_eq, change.key_eq, change.exhausted⟩
      · exact .inr adds.id_eq

/-- No step takes a job id back. -/
theorem nextId_step (taken : j.step tables a = some j') :
    j.db.jobs.nextId ≤ j'.db.jobs.nextId := by
  cases a with
  | requeue dlqId notes =>
      obtain rfl := Option.some.inj taken
      exact le_refl _
  | hookSend i fault =>
      obtain ⟨hook, op, next, -, -, rfl⟩ := hookSend_some taken
      exact op.nextId_answer j.cluster.now fault j.db
  | requeueSend i fault =>
      obtain ⟨requeue, op, next, -, -, rfl⟩ := requeueSend_some taken
      exact op.nextId_answer j.cluster.now fault j.db
  | base b =>
      obtain ⟨cluster, moved, rfl⟩ := base_some taken
      exact Cluster.nextId_step moved

/-- Every job goes on to name a task that has a row. -/
theorem tasksPresent_step (tasked : j.db.TasksPresent) (taken : j.step tables a = some j') :
    j'.db.TasksPresent := by
  cases a with
  | requeue dlqId notes =>
      obtain rfl := Option.some.inj taken
      exact tasked
  | hookSend i fault =>
      obtain ⟨hook, op, next, -, -, rfl⟩ := hookSend_some taken
      exact Statement.tasksPresent_answer tasked
  | requeueSend i fault =>
      obtain ⟨requeue, op, next, -, -, rfl⟩ := requeueSend_some taken
      exact Statement.tasksPresent_answer tasked
  | base b =>
      obtain ⟨cluster, moved, rfl⟩ := base_some taken
      exact Cluster.tasksPresent_step tasked moved

/-- A hook is about to delete, or it has ended. -/
def HookStage (hook : Hook) : Prop :=
  (hook.refused = false ∧ hook.routine = Client.dlqCleanupHook hook.job) ∨
    hook.routine.next? = none

/-- The one statement of a hook, which only a job with a key has. -/
theorem HookStage.sends {hook : Hook} {op : Statement} {next : Statement.Reply op → Client Unit}
    (stage : HookStage hook) (calls : hook.routine = .call op next) :
    ∃ jobKey, hook.job.key = some jobKey ∧ op = .deleteDlqByJobKey jobKey ∧
      hook.refused = false ∧ ∀ reply, next reply = .done () := by
  rcases stage with ⟨fresh, start⟩ | last
  · rw [start, Client.dlqCleanupHook] at calls
    cases present : hook.job.key with
    | none =>
        rw [present] at calls
        cases calls
    | some jobKey =>
        rw [present] at calls
        have sends : Program.call (.deleteDlqByJobKey jobKey) _ = Program.call op next := calls
        cases sends
        refine ⟨jobKey, rfl, rfl, fresh, fun reply => ?_⟩
        cases reply <;> rfl
  · rw [calls] at last
    cases last

/-- A hook without a statement to send is the hook of a job without a key. -/
theorem HookStage.keyless {job : Job} (last : (Client.dlqCleanupHook job).next? = none) :
    job.key = none := by
  unfold Client.dlqCleanupHook at last
  cases present : job.key with
  | none => rfl
  | some jobKey =>
      rw [present] at last
      cases last

/-- Hooks go from their delete to their end. -/
theorem hooks_step (staged : ∀ hook ∈ j.hooks, HookStage hook)
    (taken : j.step tables a = some j') :
    ∀ hook ∈ j'.hooks, HookStage hook := by
  cases a with
  | requeue dlqId notes =>
      obtain rfl := Option.some.inj taken
      exact staged
  | requeueSend i fault =>
      obtain ⟨requeue, op, next, -, -, rfl⟩ := requeueSend_some taken
      exact staged
  | hookSend i fault =>
      obtain ⟨hook, op, next, entry, calls, rfl⟩ := hookSend_some taken
      intro other among
      rcases List.mem_or_eq_of_mem_set among with old | rfl
      · exact staged other old
      · obtain ⟨_, -, -, -, ends⟩ := (staged hook (List.mem_of_getElem? entry)).sends calls
        exact .inr (by rw [ends]; rfl)
  | base b =>
      obtain ⟨cluster, moved, rfl⟩ := base_some taken
      intro hook among
      rcases List.mem_append.mp among with old | new
      · exact staged hook old
      · cases b with
        | complete i =>
            obtain ⟨ended, entry, rfl⟩ := Option.map_eq_some_iff.mp moved
            obtain rfl : hook = _ := by simpa [hooksOf, entry] using new
            exact .inl ⟨rfl, rfl⟩
        | _ => cases new

end Journal

end Backfill
