import Backfill.Client.DlqRows
import Backfill.Client.RoundTrip
import Backfill.Cluster.DoubleExecution
import Backfill.Cluster.Journal
import Backfill.Misc.Contract

/-!
# What the columns hold in every state

`priority`, `attempts` and `max_attempts` are `smallint`s in the queue and `integer`s in the DLQ,
and a requeue casts the latter back (`dlq.rs:361`, `lib.rs:487`). No cast of a run ever changes a
number: everything that is enqueued has gone through `JobSpec`, a capture binds what the queue
holds, and the routine that binds it relies on nothing but the rows its scan has returned.
-/

namespace Backfill

/-- Numbers a `smallint` column takes, the second of which is not negative. -/
structure Smallints (priority maxAttempts : Int) : Prop where
  low : -2 ^ 15 ≤ priority
  high : priority < 2 ^ 15
  nonneg : 0 ≤ maxAttempts
  below : maxAttempts < 2 ^ 15

/-- A job row as the queue holds it at `now`. -/
structure JobRow.WellFormed (now : Timestamp) (row : JobRow) : Prop where
  columns : Smallints row.priority row.maxAttempts
  attempted : 0 ≤ row.attempts
  allowed : row.attempts ≤ row.maxAttempts
  created : row.createdAt ≤ row.updatedAt
  updated : row.updatedAt ≤ now
  locked : ∀ taken, row.lockedAt = some taken → taken ≤ now

/-- A record as the DLQ holds it at `now`: it has been requeued if it says when, and only then can
it have notes. -/
structure DlqJob.WellFormed (now : Timestamp) (record : DlqJob) : Prop where
  columns : ∃ maxAttempts, record.maxAttempts = some maxAttempts ∧
    Smallints record.priority maxAttempts
  touched : 1 ≤ record.failureCount
  failed : record.failedAt ≤ now
  counted : 0 ≤ record.requeuedCount
  requeued : record.lastRequeuedAt = none ↔ record.requeuedCount = 0
  stamped : ∀ taken, record.lastRequeuedAt = some taken → taken ≤ now
  noted : record.notes ≠ none → record.requeuedCount ≠ 0

/-- What a capture may bind. -/
def DlqInsert.WellFormed (values : DlqInsert) : Prop :=
  Smallints values.priority values.maxAttempts

/-- What `add_job` may be asked for. -/
def NewJob.WellFormed (job : NewJob) : Prop := Smallints job.priority job.maxAttempts

namespace Statement

/-- The statement enqueues what a `JobSpec` asks for, and captures what a job row can hold. -/
def WellFormed : Statement → Prop
  | moveFailedJob values | upsertDlq values => values.WellFormed
  | addJob _ _ spec => ∃ jobSpec : JobSpec, spec = jobSpec.toGraphile
  | _ => True

/-- What a routine may rely on: a scan returns what job rows can hold. -/
def Truthful : (s : Statement) → Reply s → Prop
  | findFailedJobs, .ok failed => ∀ job ∈ failed, job.toInsert.WellFormed
  | _, _ => True

end Statement

/-- A routine all of whose statements are in order when the replies are. -/
abbrev Client.InOrder {α : Type} (routine : Client α) : Prop :=
  routine.Honours Statement.Truthful Statement.WellFormed fun _ => True

/-- The queue and the DLQ at `now`. -/
structure Database.WellFormed (now : Timestamp) (db : Database) : Prop where
  rows : ∀ row ∈ db.jobs.rows, row.WellFormed now
  records : ∀ record ∈ db.dlqRows, record.WellFormed now

/-- What a job row says stays true. -/
theorem JobRow.WellFormed.later {now later : Timestamp} {row : JobRow} (after : now ≤ later)
    (formed : row.WellFormed now) : row.WellFormed later :=
  { formed with
    updated := formed.updated.trans after
    locked := fun taken locked => (formed.locked taken locked).trans after }

/-- So does what a record says. -/
theorem DlqJob.WellFormed.later {now later : Timestamp} {record : DlqJob} (after : now ≤ later)
    (formed : record.WellFormed now) : record.WellFormed later :=
  { formed with
    failed := formed.failed.trans after
    stamped := fun taken stamped => (formed.stamped taken stamped).trans after }

/-- A `JobSpec` asks for nothing else. -/
theorem JobSpec.wellFormed_newJob (spec : JobSpec) (identifier : String) (payload : Json)
    (now : Timestamp) : (spec.toGraphile.newJob identifier payload now).WellFormed := by
  obtain ⟨low, high, nonneg, below⟩ := spec.content_fits identifier payload
  exact ⟨low, high, nonneg, below⟩

/-- A failed attempt is entered at the time it fails. -/
theorem JobRow.WellFormed.failedWith {now : Timestamp} {row : JobRow} (formed : row.WellFormed now)
    (error : String) (retryAt : Timestamp) :
    ((JobRow.failedWith error retryAt now).apply row).WellFormed now :=
  { formed with
    created := formed.created.trans formed.updated
    updated := le_refl _
    locked := nofun }

theorem JobRow.WellFormed.unlock {now : Timestamp} {row : JobRow} (formed : row.WellFormed now) :
    (JobRow.unlock.apply row).WellFormed now :=
  { formed with locked := nofun }

/-- An available row has an attempt left. -/
theorem JobRow.WellFormed.fetched {now : Timestamp} {row : JobRow} (formed : row.WellFormed now)
    (worker : String) (available : row.isAvailable = true) :
    ((JobRow.fetched worker now).apply row).WellFormed now :=
  { formed with
    attempted := by
      have before := formed.attempted
      show 0 ≤ row.attempts + 1
      omega
    allowed := (JobRow.isAvailable_iff.mp available).2
    locked := fun _ taken => (Option.some.inj taken).ge }

/-- A row that gives up its attempts has made all of them. -/
theorem JobRow.WellFormed.superseded {now : Timestamp} {row : JobRow}
    (formed : row.WellFormed now) : ((JobRow.superseded now).apply row).WellFormed now :=
  { formed with
    attempted := formed.columns.nonneg
    allowed := le_refl _
    created := formed.created.trans formed.updated
    updated := le_refl _ }

theorem JobRow.WellFormed.shortCircuit {now : Timestamp} {row : JobRow}
    (formed : row.WellFormed now) (reason : String) :
    ((JobRow.shortCircuit reason now).apply row).WellFormed now :=
  { formed with
    attempted := formed.columns.nonneg
    allowed := le_refl _
    created := formed.created.trans formed.updated
    updated := le_refl _ }

/-- A row an enqueue overwrites starts over. -/
theorem JobRow.WellFormed.overwritten {now : Timestamp} {row : JobRow} {job : NewJob}
    (formed : row.WellFormed now) (asked : job.WellFormed) (taskId : Int)
    (jobQueueId : Option Int) : ((job.overwrite taskId jobQueueId now).apply row).WellFormed now := by
  by_cases dedupe : job.mode = .unsafeDedupe
  · simpa [NewJob.overwrite, dedupe] using formed
  · simp only [NewJob.overwrite, dedupe, if_false]
    exact
      { formed with
        columns := asked
        attempted := le_refl _
        allowed := asked.nonneg
        created := formed.created.trans formed.updated
        updated := le_refl _ }

theorem NewJob.WellFormed.draft {job : NewJob} (asked : job.WellFormed) (taskId : Int)
    (jobQueueId : Option Int) (now : Timestamp) (id : Int) :
    ((job.draft taskId jobQueueId now).row id).WellFormed now where
  columns := asked
  attempted := le_refl _
  allowed := asked.nonneg
  created := le_refl _
  updated := le_refl _
  locked := nofun

namespace Statement

variable {s : Statement} {now : Timestamp} {fault : Option ForeignError} {db : Database}

theorem RowChange.wellFormed {old row : JobRow} (change : s.RowChange now old row)
    (asks : s.WellFormed) (formed : old.WellFormed now) : row.WellFormed now := by
  cases change with
  | kept => exact formed
  | released stale => exact formed.unlock
  | shortCircuited available => exact formed.shortCircuit _
  | superseded locked => exact formed.superseded
  | overwritten unlocked keyed same =>
      obtain ⟨jobSpec, rfl⟩ := asks
      exact formed.overwritten (jobSpec.wellFormed_newJob ..) _ _

theorem RecordChange.wellFormed {old record : DlqJob} (change : s.RecordChange now old record)
    (formed : old.WellFormed now) : record.WellFormed now := by
  cases change with
  | kept => exact formed
  | touched =>
      exact
        { formed with
          touched := by
            have before := formed.touched
            show 1 ≤ old.failureCount + 1
            omega
          failed := le_refl _ }
  | counted =>
      have before := formed.counted
      exact
        { formed with
          counted := by
            show 0 ≤ old.requeuedCount + 1
            omega
          requeued := ⟨nofun, fun none => by
            have sum : old.requeuedCount + 1 = 0 := none
            omega⟩
          stamped := fun _ taken => (Option.some.inj taken).ge
          noted := fun _ none => by
            have sum : old.requeuedCount + 1 = 0 := none
            omega }

theorem AddsRecord.wellFormed {record : DlqJob} (adds : s.AddsRecord now db record)
    (asks : s.WellFormed) : record.WellFormed now := by
  obtain ⟨values, table, binds, -, rfl⟩ := adds
  have bound : values.WellFormed := by
    cases s <;> first
      | cases binds
        exact asks
      | cases binds
  exact
    { columns := ⟨_, rfl, bound⟩
      touched := le_refl _
      failed := le_refl _
      counted := le_refl _
      requeued := ⟨fun _ => rfl, fun _ => rfl⟩
      stamped := nofun
      noted := fun noted => absurd rfl noted }

/-- A statement in order leaves everything in order. -/
theorem wellFormed_answer (asks : s.WellFormed) (formed : db.WellFormed now) :
    (s.answer now fault db).2.WellFormed now := by
  constructor
  · intro row member
    rcases row_answer member with ⟨old, oldMember, change⟩ | ⟨_, _, _, _, _, rfl, rfl⟩
    · exact change.wellFormed asks (formed.rows old oldMember)
    · obtain ⟨jobSpec, rfl⟩ := asks
      exact (jobSpec.wellFormed_newJob ..).draft _ _ _ _
  · intro record member
    rcases record_answer member with ⟨old, oldMember, change⟩ | adds
    · exact change.wellFormed (formed.records old oldMember)
    · exact adds.wellFormed asks

/-- And what it is answered can be relied on. -/
theorem truthful_answer (s : Statement) (fault : Option ForeignError)
    (formed : db.WellFormed now) : s.Truthful (s.answer now fault db).1 := by
  cases s with
  | findFailedJobs =>
      cases fault with
      | some error => trivial
      | none =>
          cases present : db.dlq with
          | error missing =>
              simp only [answer_none, exec, present]
              trivial
          | ok table =>
              simp only [answer_none, exec, present]
              intro job scanned
              obtain ⟨row, member, -, -, joined⟩ := Database.of_mem_findFailedJobs scanned
              obtain ⟨identifier, -, rfl⟩ := Option.map_eq_some_iff.mp joined
              exact (formed.rows row member).columns
  | _ => trivial

end Statement

namespace Client

/-- A query hands on what its reply is relied on for. -/
theorem honours_query {rely : (s : Statement) → Statement.Reply s → Prop}
    {owes : Statement → Prop} {s : Statement} {post : s.Rows → Prop} (sends : owes s)
    (answered : ∀ rows, rely s (.ok rows) → post rows) : (query s).Honours rely owes post := by
  refine ⟨sends, fun reply kept => ?_⟩
  cases reply with
  | error error => trivial
  | ok rows => exact answered rows kept

/-- The moves of a scan bind what the scan has returned. -/
theorem inOrder_moveFailedJobs {failed : List FailedJob}
    (formed : ∀ job ∈ failed, job.toInsert.WellFormed) (moved : Nat) :
    (moveFailedJobs failed moved).InOrder := by
  induction failed generalizing moved with
  | nil => trivial
  | cons job failed ih =>
      refine ⟨formed job (List.mem_cons_self ..), fun reply _ => ?_⟩
      have rest := fun moved => ih (fun job among => formed job (List.mem_cons_of_mem _ among)) moved
      cases reply <;> exact rest _

theorem inOrder_processFailedJobs : processFailedJobs.InOrder := by
  have scan : (query .findFailedJobs).Honours Statement.Truthful Statement.WellFormed
      fun failed => ∀ job ∈ failed, job.toInsert.WellFormed :=
    honours_query trivial fun _ kept => kept
  exact scan.bind fun _ formed => inOrder_moveFailedJobs formed 0

/-- A job that is captured by hand is one a worker was given. -/
theorem inOrder_addToDlq {job : Job} (formed : Smallints job.priority job.maxAttempts)
    (failureReason : String) (lastError : Option Json) :
    (addToDlq job failureReason lastError).InOrder := by
  have named : (queueNameFor job.jobQueueId).InOrder := by
    unfold queueNameFor
    split
    · exact Program.Calls.honours ((calls_query trivial).bind fun _ => trivial)
    · trivial
  refine named.bind fun queueName _ => ?_
  have captures : Statement.WellFormed
      (.upsertDlq (job.toInsert queueName failureReason lastError)) := formed
  exact (calls_query captures).honours

/-- An enqueue goes through its `JobSpec`. -/
theorem inOrder_addRawJob (taskIdentifier : String) (payload : Json) (spec : JobSpec) :
    (addRawJob taskIdentifier payload spec.toGraphile).InOrder := by
  refine ⟨⟨spec, rfl⟩, fun reply _ => ?_⟩
  cases reply with
  | error error => trivial
  | ok added => cases added <;> trivial

/-- So does a requeue. -/
theorem inOrder_requeueDlqJob (dlqId : Int) (notes : Option String) :
    (requeueDlqJob dlqId notes).InOrder :=
  (calls_requeueDlqJob dlqId notes trivial (fun _ _ spec => ⟨spec, rfl⟩) trivial).honours

/-- What workers run besides their jobs is in order. -/
theorem inOrder_workerRoutine {timeout : Duration} {routine : Client Nat}
    (started : Cluster.WorkerRoutine timeout routine) : routine.InOrder := by
  have deleting : cleanupPermanentlyFailedJobs.Calls Statement.WellFormed := by
    refine (calls_query trivial).bind fun deleted => ?_
    split
    · exact ⟨trivial, fun _ => trivial⟩
    · trivial
  cases started with
  | dlqTick => exact inOrder_processFailedJobs
  | startup config same =>
      have cleanup : (startupCleanupWithTimeouts config.staleQueueLockTimeout
          config.staleJobLockTimeout).Calls Statement.WellFormed :=
        (calls_query trivial).bind fun _ => (calls_query trivial).bind fun _ =>
          deleting.bind fun _ => trivial
      have inOrder : (startup config).InOrder := by
        unfold startup
        split
        · exact inOrder_processFailedJobs.attempt.bind fun _ _ =>
            cleanup.honours.attempt.bind fun _ _ => trivial
        · exact cleanup.honours.attempt.bind fun _ _ => trivial
      exact inOrder.bind fun _ _ => trivial
  | cleanup queueLockTimeout =>
      refine Program.Calls.honours (Program.Calls.bind ?_ fun _ => trivial)
      exact (calls_query trivial).attempt.bind fun _ => (calls_query trivial).attempt.bind
        fun _ => trivial

end Client

/-- What a step of a cluster makes of a row, when what it enqueues and sends is in order. -/
theorem Cluster.RowChange.wellFormed {s : Cluster} {a : Action} {old row : JobRow}
    (change : s.RowChange a old row) (enqueues : ∀ job, a = .enqueue job → job.WellFormed)
    (sends : ∀ i op, s.Sends i op → op.WellFormed) (formed : old.WellFormed s.now) :
    row.WellFormed s.now := by
  cases change with
  | kept => exact formed
  | fetched available => exact formed.fetched _ available
  | failed => exact formed.failedWith _ _
  | superseded => exact formed.superseded
  | overwritten => exact formed.overwritten (enqueues _ rfl) _ _
  | answered sending change => exact change.wellFormed (sends _ _ sending) formed

namespace Journal

/-- Jobs are enqueued and routines started the way the client does it. -/
def ThroughClient (j : Journal) : JournalAction → Prop
  | .base (.enqueue job) => ∃ (spec : JobSpec) (identifier : String) (payload : Json),
      job = spec.toGraphile.newJob identifier payload j.cluster.now
  | .base (.start routine) => routine.InOrder
  | _ => True

/-- The tables, and the routines that are under way. -/
structure WellFormed (j : Journal) : Prop where
  db : j.db.WellFormed j.cluster.now
  routines : ∀ routine ∈ j.cluster.routines, routine.InOrder
  hooks : ∀ hook ∈ j.hooks, hook.routine.InOrder
  requeues : ∀ requeue ∈ j.requeues, requeue.routine.InOrder

variable {tables : CharTables} {j j' : Journal} {a : JournalAction}

namespace WellFormed

theorem initial {now : Timestamp} {db : Database} (formed : db.WellFormed now) :
    (Journal.initial now db).WellFormed where
  db := formed
  routines := by simp [Journal.initial, Cluster.initial]
  hooks := by simp [Journal.initial]
  requeues := by simp [Journal.initial]

/-- A statement some routine is about to send. -/
theorem sends (formed : j.WellFormed) (i : Nat) (op : Statement) (sends : j.cluster.Sends i op) :
    op.WellFormed := by
  obtain ⟨routine, entry, next⟩ := Option.bind_eq_some_iff.mp sends
  exact (formed.routines routine (List.mem_of_getElem? entry)).next next

/-- The routines after a step of the cluster. -/
theorem routines_base {b : Action} {cluster : Cluster} (formed : j.WellFormed)
    (client : j.ThroughClient (.base b)) (moved : j.cluster.step tables b = some cluster) :
    ∀ routine ∈ cluster.routines, routine.InOrder := by
  intro routine among
  obtain ⟨i, entry⟩ := List.getElem?_of_mem among
  have before : ∀ {k : Nat} {routine : Client Nat}, j.cluster.routines[k]? = some routine →
      routine.InOrder := fun entry => formed.routines _ (List.mem_of_getElem? entry)
  cases b with
  | send k fault =>
      obtain ⟨op, next, sending, rfl⟩ := Cluster.send_op moved
      rcases List.mem_or_eq_of_mem_set among with old | rfl
      · exact formed.routines routine old
      · exact (before sending).2 _ (op.truthful_answer fault formed.db)
  | start started =>
      cases Cluster.routines_step moved entry with
      | kept entry => exact before entry
      | started last => exact client
  | jobFail k =>
      cases Cluster.routines_step moved entry with
      | kept entry => exact before entry
      | hooked last failed =>
          rw [Client.permanentFailureHook]
          split
          · trivial
          · exact ⟨trivial, fun _ _ => trivial⟩
  | _ =>
      cases Cluster.routines_step moved entry with
      | kept entry => exact before entry

/-- The tables after a step of the cluster. -/
theorem db_base {b : Action} {cluster : Cluster} (formed : j.WellFormed)
    (client : j.ThroughClient (.base b)) (moved : j.cluster.step tables b = some cluster) :
    cluster.db.WellFormed j.cluster.now := by
  have enqueued : ∀ job, b = .enqueue job → job.WellFormed := by
    rintro job rfl
    obtain ⟨spec, identifier, payload, rfl⟩ := client
    exact spec.wellFormed_newJob ..
  constructor
  · intro row member
    rcases Cluster.row_step moved member with ⟨old, oldMember, change⟩ | adds
    · exact change.wellFormed enqueued formed.sends (formed.db.rows old oldMember)
    · cases b with
      | enqueue job =>
          obtain ⟨_, _, rfl⟩ := adds
          exact (enqueued job rfl).draft _ _ _ _
      | send i fault =>
          obtain ⟨op, sending, _, _, _, _, _, rfl, rfl⟩ := adds
          obtain ⟨jobSpec, rfl⟩ := formed.sends i _ sending
          exact (jobSpec.wellFormed_newJob ..).draft _ _ _ _
      | _ => exact adds.elim
  · cases b with
    | send i fault =>
        obtain ⟨op, next, entry, rfl⟩ := Cluster.send_op moved
        exact (Statement.wellFormed_answer (formed.sends i op (Cluster.sends_of_entry entry))
          formed.db).records
    | _ =>
        intro record member
        have same := (dlq_base moved fun _ _ is => by cases is).1
        rw [Database.dlqRows, same] at member
        exact formed.db.records record member

/-- One step. -/
theorem step (formed : j.WellFormed) (client : j.ThroughClient a)
    (taken : j.step tables a = some j') : j'.WellFormed := by
  have later := now_step taken
  cases a with
  | base b =>
      obtain ⟨cluster, moved, rfl⟩ := base_some taken
      have db := formed.db_base client moved
      refine ⟨⟨fun row member => (db.rows row member).later later,
        fun record member => (db.records record member).later later⟩,
        formed.routines_base client moved, fun hook among => ?_, formed.requeues⟩
      rcases List.mem_append.mp among with old | new
      · exact formed.hooks hook old
      · cases b with
        | complete i =>
            obtain ⟨e, entry, rfl⟩ := Option.map_eq_some_iff.mp moved
            obtain rfl : hook = _ := by simpa [hooksOf, entry] using new
            exact (Client.calls_dlqCleanupHook _ fun _ => trivial).honours
        | _ => cases new
  | hookSend i fault =>
      obtain ⟨hook, op, next, entry, calls, rfl⟩ := hookSend_some taken
      have order := formed.hooks hook (List.mem_of_getElem? entry)
      rw [calls] at order
      refine ⟨Statement.wellFormed_answer order.1 formed.db, formed.routines, fun other among => ?_,
        formed.requeues⟩
      rcases List.mem_or_eq_of_mem_set among with old | rfl
      · exact formed.hooks other old
      · exact order.2 _ (op.truthful_answer fault formed.db)
  | requeue dlqId notes =>
      obtain rfl := Option.some.inj taken
      refine ⟨formed.db, formed.routines, formed.hooks, fun requeue among => ?_⟩
      rcases List.mem_append.mp among with old | new
      · exact formed.requeues requeue old
      · rw [List.mem_singleton.mp new]
        exact Client.inOrder_requeueDlqJob dlqId notes
  | requeueSend i fault =>
      obtain ⟨requeue, op, next, entry, calls, rfl⟩ := requeueSend_some taken
      have order := formed.requeues requeue (List.mem_of_getElem? entry)
      rw [calls] at order
      refine ⟨Statement.wellFormed_answer order.1 formed.db, formed.routines, formed.hooks,
        fun other among => ?_⟩
      rcases List.mem_or_eq_of_mem_set among with old | rfl
      · exact formed.requeues other old
      · exact order.2 _ (op.truthful_answer fault formed.db)

/-- Every run. -/
theorem run {as : List JournalAction} (formed : j.WellFormed)
    (path : Transition.Run (Journal.step tables) ThroughClient j as j') : j'.WellFormed :=
  path.invariant (fun _ _ _ formed client taken => formed.step client taken) formed

end WellFormed

/-- However workers, hooks, requeues and captures interleave, the tables stay well formed: no job
has made more attempts than it is allowed, nothing is dated later than now, and a record says when
it was requeued exactly when it counts a requeue. So every number of a job fits its `smallint`, and
a requeue of any record asks for exactly the priority and the attempts the record gives. -/
theorem columns_exact (tables : CharTables) {now : Timestamp} {db : Database}
    (formed : db.WellFormed now) {as : List JournalAction} {j : Journal}
    (path : Transition.Run (Journal.step tables) ThroughClient (initial now db) as j) :
    j.db.WellFormed j.cluster.now ∧
    (∀ row ∈ j.db.jobs.rows, (asI16 row.attempts).toInt = row.attempts ∧
      (asI16 row.maxAttempts).toInt = row.maxAttempts ∧
      (asI16 row.priority).toInt = row.priority) ∧
    ∀ record ∈ j.db.dlqRows, record.toSpec.priority.value.toInt = record.priority ∧
      record.maxAttempts = some
        (record.toSpec.content record.taskIdentifier record.payload).maxAttempts := by
  have reached := (WellFormed.initial formed).run path
  refine ⟨reached.db, fun row member => ?_, fun record member => ?_⟩
  · obtain ⟨⟨low, high, nonneg, below⟩, attempted, allowed, -⟩ := reached.db.rows row member
    exact ⟨toInt_asI16_of_fits (by omega) (by omega), toInt_asI16_of_fits (by omega) below,
      toInt_asI16_of_fits low high⟩
  · obtain ⟨maxAttempts, given, low, high, nonneg, below⟩ :=
      (reached.db.records record member).columns
    refine ⟨toInt_asI16_of_fits low high, ?_⟩
    rw [record.content_toSpec, DlqJob.content, given, Option.getD_some, min_eq_left (by omega),
      max_eq_right nonneg]

theorem wellFormed_failedInvoice (payload : Json) : (failedInvoice payload).WellFormed 0 where
  rows row member := by
    have asked : (invoiceJob payload).WellFormed := by
      show Smallints 0 1
      constructor <;> decide
    obtain rfl : row = _ := List.mem_singleton.mp member
    exact (asked.draft _ _ 0 _).shortCircuit "boom"
  records record member := by cases member

/-- A failed job is captured and requeued, and its record asks for the one attempt it was
allowed. -/
theorem columns_exact_failedInvoice :
    ∃ as j, Transition.Run (Journal.step .ascii) ThroughClient
        (initial 0 (failedInvoice .null)) as j ∧
      j.db.dlqRows.map DlqJob.requeuedCount = [1] ∧
      j.db.WellFormed j.cluster.now ∧
      ∀ record ∈ j.db.dlqRows, record.maxAttempts = some
        (record.toSpec.content record.taskIdentifier record.payload).maxAttempts := by
  have path : Transition.Run (Journal.step .ascii) ThroughClient (initial 0 (failedInvoice .null))
      [.base (.start Client.processFailedJobs), .base (.send 0 none), .base (.send 0 none),
        .requeue 1 none, .requeueSend 0 none, .requeueSend 0 none, .requeueSend 0 none] _ :=
    .of_run (by simp [ThroughClient, Client.inOrder_processFailedJobs]) rfl
  have exact := columns_exact .ascii (wellFormed_failedInvoice .null) path
  exact ⟨_, _, path, rfl, exact.1, fun record member => (exact.2.2 record member).2⟩

end Journal

end Backfill
