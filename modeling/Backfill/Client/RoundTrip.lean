import Backfill.Client.Description
import Backfill.Client.RequeueRun

/-!
# From a job to its record and back

A capture writes a job into columns of the DLQ, and a requeue reads a `JobSpec` off them. What
the two must agree on is the content of the job. They do for every content whose texts are not too
long for the columns, but one: the record of a parallel job has the empty queue name, and so has
the record of a job in the queue `""`.
-/

namespace Backfill

/-- What a job is apart from its schedule and its attempts. -/
structure JobContent where
  taskIdentifier : String
  payload : Json
  queue : Queue
  priority : Int
  maxAttempts : Int
  key : Option String

/-- The job a `JobSpec` asks for; 25 attempts are the default of `add_job`. -/
def JobSpec.content (spec : JobSpec) (taskIdentifier : String) (payload : Json) :
    JobContent where
  taskIdentifier := taskIdentifier
  payload := payload
  queue := spec.queue
  priority := spec.priority.value.toInt
  maxAttempts := ((spec.maxAttempts.map clampI16).getD 25).toInt
  key := spec.jobKey

/-- The job a record stands for: the empty queue name is that of a parallel job, the priority is
what the low 16 bits of the column are as an `i16`, and of the attempts only what lies between 0
and `i16::MAX` counts. -/
def DlqJob.content (record : DlqJob) : JobContent where
  taskIdentifier := record.taskIdentifier
  payload := record.payload
  queue := if record.queueName = "" then .parallel else .serial record.queueName
  priority := record.priority.bmod (2 ^ 16)
  maxAttempts := max 0 (min (record.maxAttempts.getD 25) 32767)
  key := record.jobKey

/-- The job a requeue of the record asks for. -/
theorem DlqJob.content_toSpec (record : DlqJob) :
    record.toSpec.content record.taskIdentifier record.payload = record.content := by
  have priority : (asI16 record.priority).toInt = record.priority.bmod (2 ^ 16) :=
    Int16.toInt_ofInt
  have maxAttempts : ((record.maxAttempts.map clampI16).getD 25).toInt =
      max 0 (min (record.maxAttempts.getD 25) 32767) := by
    cases record.maxAttempts with
    | none => rfl
    | some n => exact toInt_clampI16 n
  simp only [JobSpec.content, DlqJob.toSpec, DlqJob.content, priority, maxAttempts]

/-- The queue a job row refers to, if it is there. -/
def Database.queue? (db : Database) : Option Int → Option Queue
  | none => some .parallel
  | some queueId => (db.jobQueues.get? queueId).map fun row => .serial row.queueName

/-- In this database, this is a job with this content. -/
structure Database.HasContent (db : Database) (job : Job) (content : JobContent) : Prop where
  taskIdentifier : job.taskIdentifier = content.taskIdentifier
  named : db.taskIdentifier? job.taskId = some content.taskIdentifier
  payload : job.payload = content.payload
  queue : db.queue? job.jobQueueId = some content.queue
  priority : job.priority = content.priority
  maxAttempts : job.maxAttempts = content.maxAttempts
  key : job.key = content.key

/-- The queue a record with this queue name stands for. -/
def Queue.ofName (name : String) : Queue := if name = "" then .parallel else .serial name

@[simp] theorem Queue.ofName_empty : Queue.ofName "" = .parallel := if_pos rfl

theorem Queue.ofName_of_ne {name : String} (named : name ≠ "") : Queue.ofName name = .serial name :=
  if_neg named

@[simp] theorem Queue.name_ofName (name : String) : (Queue.ofName name).name.getD "" = name := by
  by_cases empty : name = ""
  · rw [empty, ofName_empty]
    rfl
  · rw [ofName_of_ne empty]
    rfl

/-- A queue after a capture, which writes its name into a column, and a requeue. -/
def Queue.requeued (queue : Queue) : Queue := .ofName (varchar 100 (queue.name.getD ""))

/-- Further rounds change nothing. -/
@[simp] theorem Queue.requeued_requeued (queue : Queue) :
    queue.requeued.requeued = queue.requeued := by
  rw [requeued, requeued, name_ofName, varchar_varchar]

/-- A serial queue comes back as it was when it has a name that is not too long. -/
theorem Queue.requeued_eq_iff {queue : Queue} : queue.requeued = queue ↔
    ∀ name, queue = .serial name → name ≠ "" ∧ name.toList.length ≤ 100 := by
  cases queue with
  | parallel =>
      have same : Queue.requeued .parallel = .ofName (varchar 100 "") := rfl
      rw [same, varchar_empty, ofName_empty]
      exact iff_of_true rfl (fun _ same => by cases same)
  | serial name =>
      have same : Queue.requeued (.serial name) = .ofName (varchar 100 name) := rfl
      rw [same]
      simp only [Queue.serial.injEq, forall_eq']
      by_cases empty : varchar 100 name = ""
      · rw [empty, ofName_empty]
        refine iff_of_false (fun same => by cases same) fun both => both.1 ?_
        rwa [varchar_eq_self_iff.mpr both.2] at empty
      · rw [ofName_of_ne empty, Queue.serial.injEq, varchar_eq_self_iff]
        refine ⟨fun short => ⟨fun none => empty ?_, short⟩, And.right⟩
        rw [none, varchar_empty]

namespace JobContent

/-- The columns `priority` and `max_attempts` of a job are `smallint`s, and the latter is not
negative. -/
def Fits (content : JobContent) : Prop :=
  -2 ^ 15 ≤ content.priority ∧ content.priority < 2 ^ 15 ∧
    0 ≤ content.maxAttempts ∧ content.maxAttempts < 2 ^ 15

/-- The content after a capture and a requeue: the texts are as long as their columns let them be,
and the queue `""` has become parallel. -/
def requeued (content : JobContent) : JobContent :=
  { content with
    taskIdentifier := varchar 200 content.taskIdentifier
    queue := content.queue.requeued
    key := storedKey content.key }

/-- The texts are short enough for the columns of the DLQ, and a serial queue has a name. -/
structure RoundTrips (content : JobContent) : Prop where
  taskIdentifier : content.taskIdentifier.toList.length ≤ 200
  queue : ∀ name, content.queue = .serial name → name ≠ "" ∧ name.toList.length ≤ 100
  key : ∀ key, content.key = some key → key.toList.length ≤ 200

end JobContent

namespace JobContent

/-- Further rounds change nothing. -/
@[simp] theorem requeued_requeued (content : JobContent) :
    content.requeued.requeued = content.requeued := by
  simp only [requeued, varchar_varchar, Queue.requeued_requeued, storedKey_storedKey]

/-- The content after `n` rounds. -/
def afterRounds (content : JobContent) : Nat → JobContent
  | 0 => content
  | _ + 1 => content.requeued

theorem Fits.afterRounds {content : JobContent} (fits : content.Fits) (n : Nat) :
    (content.afterRounds n).Fits := by
  cases n <;> exact fits

theorem requeued_afterRounds (content : JobContent) (n : Nat) :
    (content.afterRounds n).requeued = content.requeued := by
  cases n with
  | zero => rfl
  | succ n => exact content.requeued_requeued

/-- A key comes back as it was when it is not too long. -/
theorem storedKey_eq_self_iff {key : Option String} :
    storedKey key = key ↔ ∀ text, key = some text → text.toList.length ≤ 200 := by
  cases key with
  | none => simp [storedKey]
  | some text =>
      simp only [storedKey, Option.map_some, Option.some.injEq, forall_eq', varchar_eq_self_iff]

/-- The jobs that a round brings back as they were. -/
theorem requeued_eq_iff {content : JobContent} :
    content.requeued = content ↔ content.RoundTrips := by
  constructor
  · intro same
    exact ⟨varchar_eq_self_iff.mp (congrArg JobContent.taskIdentifier same),
      Queue.requeued_eq_iff.mp (congrArg JobContent.queue same),
      storedKey_eq_self_iff.mp (congrArg JobContent.key same)⟩
  · rintro ⟨task, queue, key⟩
    rw [requeued, varchar_eq_self_iff.mpr task, Queue.requeued_eq_iff.mpr queue,
      storedKey_eq_self_iff.mpr key]

end JobContent

theorem JobSpec.content_fits (spec : JobSpec) (taskIdentifier : String) (payload : Json) :
    (spec.content taskIdentifier payload).Fits := by
  refine ⟨Int16.le_toInt _, Int16.toInt_lt _, ?_⟩
  cases given : spec.maxAttempts with
  | none => simp [content, given]
  | some n =>
      simp only [content, given, Option.map_some, Option.getD_some, toInt_clampI16]
      omega

/-- The record has the columns of a capture of a job with this content. -/
structure DlqJob.Records (record : DlqJob) (content : JobContent) : Prop where
  taskIdentifier : record.taskIdentifier = varchar 200 content.taskIdentifier
  payload : record.payload = content.payload
  queueName : record.queueName = varchar 100 (content.queue.name.getD "")
  priority : record.priority = content.priority
  maxAttempts : record.maxAttempts = some content.maxAttempts
  jobKey : record.jobKey = storedKey content.key

/-- What a record asks for is a matter of its description and its key. -/
theorem DlqJob.content_congr {record other : DlqJob}
    (description : record.description = other.description) (jobKey : record.jobKey = other.jobKey) :
    record.content = other.content := by
  simp only [DlqJob.description, Prod.mk.injEq] at description
  obtain ⟨task, payload, queue, priority, attempts⟩ := description
  simp only [DlqJob.content, task, payload, queue, priority, attempts, jobKey]

namespace DlqJob.Records

variable {record : DlqJob} {content : JobContent}

/-- What a requeue makes of a record of a job. -/
theorem content_eq (records : record.Records content) (fits : content.Fits) :
    record.content = content.requeued := by
  obtain ⟨low, high, attempts, attempts'⟩ := fits
  have priority : record.priority.bmod (2 ^ 16) = content.priority := by
    rw [records.priority]
    exact Int.bmod_eq_of_le_mul_two (by omega) (by omega)
  have maxAttempts : max 0 (min content.maxAttempts 32767) = content.maxAttempts := by omega
  simp only [DlqJob.content, JobContent.requeued, Queue.requeued, Queue.ofName, priority,
    records.queueName, records.maxAttempts, Option.getD_some, maxAttempts, records.taskIdentifier,
    records.payload, records.jobKey]

/-- The insert arm of a capture of the job. -/
theorem of_bound {db : Database} {job : Job} {values : DlqInsert} {now : Timestamp} {id : Int}
    (bound : Describes.Bound db job values) (has : db.HasContent job content) :
    ((values.draft now).row id).Records content := by
  refine ⟨congrArg (varchar 200) (bound.taskIdentifier.trans has.taskIdentifier),
    bound.payload.trans has.payload, congrArg (varchar 100) ?_, bound.priority.trans has.priority,
    congrArg some (bound.maxAttempts.trans has.maxAttempts),
    congrArg storedKey (bound.jobKey.trans has.key)⟩
  have queue := has.queue
  cases refers : job.jobQueueId with
  | none =>
      rw [refers] at queue
      rw [bound.parallel refers, ← Option.some.inj queue]
      rfl
  | some queueId =>
      rw [refers] at queue
      obtain ⟨row, found, same⟩ := Option.map_eq_some_iff.mp queue
      rw [bound.serial row.queueName (by simp [Database.queueName?, refers, found]), ← same]
      rfl

end DlqJob.Records

namespace Database

/-- A job means the same wherever its task and its queue do. -/
theorem HasContent.congr {db db' : Database} {job : Job} {content : JobContent}
    (has : db.HasContent job content) (tasks : db'.tasks = db.tasks)
    (queues : db'.jobQueues = db.jobQueues) : db'.HasContent job content := by
  refine { has with named := ?_, queue := ?_ }
  · rw [← has.named, taskIdentifier?, taskIdentifier?, tasks]
  · rw [← has.queue, queue?.eq_def, queue?.eq_def, queues]

/-- A job has one content. -/
theorem HasContent.unique {db : Database} {job : Job} {content content' : JobContent}
    (has : db.HasContent job content) (has' : db.HasContent job content') : content = content' := by
  obtain ⟨task, -, payload, queue, priority, maxAttempts, key⟩ := has
  obtain ⟨task', -, payload', queue', priority', maxAttempts', key'⟩ := has'
  cases content
  cases content'
  simp_all

/-- The row an enqueue writes is the job that was asked for. -/
theorem hasContent_addJob {db : Database} {spec : JobSpec} {taskIdentifier : String}
    {payload : Json} {now : Timestamp} {written : JobRow}
    (reported : (db.addJob now (spec.toGraphile.newJob taskIdentifier payload now)).1 =
      some written) :
    (db.addJob now (spec.toGraphile.newJob taskIdentifier payload now)).2.HasContent
      { written with taskIdentifier := taskIdentifier } (spec.content taskIdentifier payload) := by
  generalize asked : spec.toGraphile.newJob taskIdentifier payload now = job at reported
  have identifier : job.identifier = taskIdentifier := asked ▸ rfl
  have named : (db.addJob now job).2.taskIdentifier?
      ((db.prepared job).taskId job.identifier) = some taskIdentifier := by
    obtain ⟨task, among, id, same⟩ := db.taskId_prepared job
    have found : (db.prepared job).tasks.get? ((db.prepared job).taskId job.identifier) =
        some task := SerialTable.get?_eq_some.mpr ⟨among, id⟩
    rw [taskIdentifier?, show (db.addJob now job).2.tasks = (db.prepared job).tasks from rfl, found,
      ← identifier, ← same]
    rfl
  have queued : (db.addJob now job).2.queue?
      ((db.prepared job).jobQueueId job.queueName) = some spec.queue := by
    have name : job.queueName = spec.queue.name := asked ▸ rfl
    cases queue : spec.queue with
    | parallel =>
        rw [name, queue]
        rfl
    | serial queueName =>
        obtain ⟨row, among, id, same⟩ :=
          db.jobQueueId_prepared job (show job.queueName = some queueName by rw [name, queue]; rfl)
        have found : (db.prepared job).jobQueues.get? row.id = some row :=
          SerialTable.get?_eq_some.mpr ⟨among, rfl⟩
        rw [id, queue?, show (db.addJob now job).2.jobQueues = (db.prepared job).jobQueues from rfl,
          found, ← same]
        rfl
  have columns : job.payload = payload ∧ job.priority = spec.priority.value.toInt ∧
      job.maxAttempts = ((spec.maxAttempts.map clampI16).getD 25).toInt ∧ job.key = spec.jobKey :=
    asked ▸ ⟨rfl, rfl, rfl, rfl⟩
  obtain ⟨payloads, priority, maxAttempts, key⟩ := columns
  rcases addJob_reported reported with ⟨old, -, ⟨-, -, same, replaces⟩, rfl⟩ | rfl
  · refine ⟨rfl, ?_, ?_, ?_, ?_, ?_, ?_⟩ <;>
      simp only [NewJob.overwrite, replaces, if_false]
    · exact named
    · exact payloads
    · exact queued
    · exact priority
    · exact maxAttempts
    · exact same.trans key
  · exact ⟨rfl, named, payloads, queued, priority, maxAttempts, key⟩

/-- The row of a job that has been enqueued has the columns its specification asks for. -/
theorem columns_addJob {db : Database} {spec : JobSpec} {taskIdentifier : String}
    {payload : Json} {now : Timestamp} {written row : JobRow}
    (reported : (db.addJob now (spec.toGraphile.newJob taskIdentifier payload now)).1 =
      some written)
    (stored : row ∈
      (db.addJob now (spec.toGraphile.newJob taskIdentifier payload now)).2.jobs.rows)
    (same : row.id = written.id) :
    row.priority = spec.priority.value.toInt ∧
      row.maxAttempts = ((spec.maxAttempts.map clampI16).getD 25).toInt := by
  have has := hasContent_addJob reported
  obtain rfl := SerialTable.eq_of_id_eq _ stored (addJob_written reported).1 same
  exact ⟨has.priority, has.maxAttempts⟩

/-- A requeue asks for a job that is due at once. -/
theorem runAt_requeued {db : Database} {record : DlqJob} {now : Timestamp} {written : JobRow}
    (reported : (db.addJob now (record.toSpec.toGraphile.newJob record.taskIdentifier
      record.payload now)).1 = some written) : written.runAt = now := by
  have replaces := record.mode_newJob now
  rcases addJob_reported reported with ⟨old, -, -, rfl⟩ | rfl
  · simp only [NewJob.overwrite, replaces, reduceCtorEq, if_false, false_and]
    rfl
  · rfl

end Database

namespace Session

variable {session : Session} {taskIdentifier : String} {payload : Json} {spec : JobSpec}

/-- An enqueue whose statement is not answered with a row reports no job. -/
theorem enqueueOutcome_ne (jobKey : Option String) (error : ForeignError) (job : Job)
    (session : Session) :
    (session.run (Client.enqueueOutcome jobKey (.error error))).1 ≠ .ok (.enqueued job) := by
  unfold Client.enqueueOutcome
  cases jobKey with
  | none => simp [run]
  | some key =>
      dsimp only
      split <;> simp [run]

/-- The statement of an enqueue is answered with the job that it has added. -/
theorem exec_addJob {job : Job} {left : Session}
    (added : exec (.addJob taskIdentifier payload spec.toGraphile) session =
      (.ok (some job), left)) :
    ∃ written, (session.db.addJob (session.upcoming 0).now (spec.toGraphile.newJob taskIdentifier
        payload (session.upcoming 0).now)).1 = some written ∧
      job = { written with taskIdentifier := taskIdentifier } ∧
      left = session.after 1 (session.db.addJob (session.upcoming 0).now (spec.toGraphile.newJob
        taskIdentifier payload (session.upcoming 0).now)).2 := by
  obtain ⟨db, executed, rfl⟩ := exec_ok added
  simp only [Statement.exec, Prod.mk.injEq, Except.ok.injEq, Option.map_eq_some_iff] at executed
  obtain ⟨⟨written, reported, rfl⟩, rfl⟩ := executed
  exact ⟨written, reported, rfl, rfl⟩

/-- An enqueue that reports a job has added it with its only statement. -/
theorem run_enqueue {job : Job}
    (ran : (session.run (Client.enqueue taskIdentifier payload spec)).1 = .ok (.enqueued job)) :
    ∃ written, (session.db.addJob (session.upcoming 0).now (spec.toGraphile.newJob taskIdentifier
        payload (session.upcoming 0).now)).1 = some written ∧
      job = { written with taskIdentifier := taskIdentifier } ∧
      (session.run (Client.enqueue taskIdentifier payload spec)).2 =
        session.after 1 (session.db.addJob (session.upcoming 0).now (spec.toGraphile.newJob
          taskIdentifier payload (session.upcoming 0).now)).2 := by
  simp only [run, Client.enqueue, Client.addRawJob, Program.bind_call, Program.run_call] at ran ⊢
  rcases answered : exec (.addJob taskIdentifier payload spec.toGraphile) session with
    ⟨reply, left⟩
  rw [answered] at ran
  cases reply with
  | error error => exact absurd ran (enqueueOutcome_ne _ _ _ _)
  | ok outcome =>
      cases outcome with
      | none => exact absurd ran (enqueueOutcome_ne _ _ _ _)
      | some added =>
          obtain rfl := EnqueueOutcome.enqueued.inj (Except.ok.inj ran)
          exact exec_addJob answered

/-- The bookkeeping of a requeue writes the DLQ only. -/
theorem recordRequeue_keeps (session : Session) (dlqId : Int) (notes : Option String) :
    ∃ dlq, (exec (.recordRequeue notes dlqId) session).2.db = { session.db with dlq := dlq } := by
  cases fault : (session.upcoming 0).fault (.recordRequeue notes dlqId) with
  | some error =>
      rw [exec_refused fault]
      exact ⟨session.db.dlq, rfl⟩
  | none =>
      rw [exec_accepted fault]
      cases present : session.db.dlq with
      | error error =>
          refine ⟨session.db.dlq, ?_⟩
          have kept : (Statement.recordRequeue notes dlqId).exec (session.upcoming 0).now
              session.db = (.error error, session.db) := by simp only [Statement.exec, present]
          rw [kept]
          rfl
      | ok table =>
          refine ⟨.ok (table.update (fun row => row.id = dlqId)
            (DlqJob.requeued notes (session.upcoming 0).now)), ?_⟩
          simp only [Statement.exec, present, after]

/-- A record that is read is a row of the table. -/
theorem exec_getDlqJob_some {dlqId : Int} {record : DlqJob} {left : Session}
    (read : exec (.getDlqJob dlqId) session = (.ok (some record), left)) :
    record ∈ session.db.dlqRows ∧ record.id = dlqId ∧ left = session.after 1 session.db := by
  obtain ⟨db, executed, rfl⟩ := exec_ok read
  cases present : session.db.dlq with
  | error error =>
      simp only [Statement.exec, present] at executed
      cases executed
  | ok table =>
      simp only [Statement.exec, present, Prod.mk.injEq, Except.ok.injEq] at executed
      obtain ⟨found, rfl⟩ := executed
      obtain ⟨member, same⟩ := SerialTable.get?_eq_some.mp found
      exact ⟨Database.dlqRows_ok present ▸ member, same, rfl⟩

/-- A requeue that reports a job has read its record, added the job and, at most, counted it. -/
theorem run_requeueDlqJob {dlqId : Int} {notes : Option String} {job : Job}
    (ran : (session.run (Client.requeueDlqJob dlqId notes)).1 = .ok job) :
    ∃ record ∈ session.db.dlqRows, record.id = dlqId ∧ ∃ written dlq,
      (session.db.addJob (session.upcoming 1).now (record.toSpec.toGraphile.newJob
        record.taskIdentifier record.payload (session.upcoming 1).now)).1 = some written ∧
      job = { written with taskIdentifier := record.taskIdentifier } ∧
      (session.run (Client.requeueDlqJob dlqId notes)).2.db =
        { (session.db.addJob (session.upcoming 1).now (record.toSpec.toGraphile.newJob
          record.taskIdentifier record.payload (session.upcoming 1).now)).2 with dlq := dlq } := by
  have runs := requeueRun exec dlqId notes session
  unfold run at ran ⊢
  rw [ran] at runs
  generalize (Client.requeueDlqJob dlqId notes).visits exec session = sent at runs
  generalize ((Client.requeueDlqJob dlqId notes).run exec session).2 = left at runs ⊢
  cases runs with
  | @enqueued record t u _ read added =>
      obtain ⟨member, same, rfl⟩ := exec_getDlqJob_some read
      obtain ⟨written, reported, rfl, rfl⟩ := exec_addJob added
      obtain ⟨dlq, counted⟩ := recordRequeue_keeps _ dlqId notes
      exact ⟨record, member, same, written, dlq, reported, rfl, counted⟩

/-- A capture of the job, on either of the two paths, has left this record; no other job of the pass
is stored under its key. -/
inductive Captures (session : Session) (job : Job) (record : DlqJob) : Prop
  | scanned (ties : ScanOrder) (queued : job.toJobRow ∈ session.db.jobs.rows)
      (alone : ∀ other ∈ session.passMoved (ties.batch session.db), other.id ≠ job.id →
        job.key = none ∨ storedKey other.jobKey ≠ storedKey job.key)
      (gone : ∀ r ∈ (session.pass ties).db.jobs.rows, r.id ≠ job.id)
      (member : record ∈ (session.pass ties).db.dlqRows)
      (names : record.originalJobId = some job.id)
  | added (failureReason : String) (lastError : Option Json)
      (ran : (session.run (Client.addToDlq job failureReason lastError)).1 = .ok record)

/-- The record of a capture asks for the job that was captured, if the rows under its key do. -/
theorem Captures.content_eq {job : Job} {record : DlqJob} {content : JobContent}
    {table : DlqTable} (captured : session.Captures job record)
    (present : session.db.dlq = .ok table) (has : session.db.HasContent job content)
    (fits : content.Fits) (met : ∀ d ∈ table.rows, job.key ≠ none → d.jobKey = storedKey job.key →
      d.content = content.requeued) : record.content = content.requeued := by
  cases captured with
  | scanned ties queued alone gone member names =>
      obtain ⟨table', rows, passed, taken, among, joined, unrecorded⟩ :=
        passed_of_gone present queued gone
      have apart := (ties.pairwise_batch session.db).sublist (session.passMoved_sublist _)
      have sameId : taken.id = job.id := Database.failedJob?_id joined
      have sameKey : taken.jobKey = job.key := Database.failedJob?_key joined
      have captured := passed.capturedAs_of_names present apart among
        (by rwa [sameId]) (rows ▸ member) (by rwa [sameId])
      have bound : Describes.Bound session.db job taken.toInsert :=
        Describes.bound_failedJob joined (has.named.trans (by rw [has.taskIdentifier]))
      have lone := FailedJob.mates_eq_singleton apart among fun other otherAmong differ =>
        sameKey ▸ alone other otherAmong (sameId ▸ differ)
      have origin := captured.origin
      rw [lone] at origin
      rcases origin with ⟨old, oldMember, keyed, sameOld, -, description, -⟩ |
        ⟨-, ⟨first, head, description⟩, -⟩
      · rw [DlqJob.content_congr description (captured.jobKey.trans sameOld.symm)]
        rw [sameKey] at keyed sameOld
        exact met old oldMember keyed sameOld
      · obtain rfl := Option.some.inj head
        rw [DlqJob.content_congr description captured.jobKey]
        exact (DlqJob.Records.of_bound bound has).content_eq fits
  | added failureReason lastError ran =>
      obtain ⟨values, now, bound, rfl, -⟩ := run_addToDlq present ran
      have stored : storedKey values.jobKey = storedKey job.key := congrArg storedKey bound.jobKey
      rcases table.upserted_cases (values.draft now) (values.touch now) with
        ⟨old, oldMember, keyed, same, -, copy⟩ | ⟨-, copy⟩ <;> rw [DlqInsert.upsertedIn, copy]
      · have keyed' : job.key ≠ none := fun keyless =>
          keyed (stored.trans (congrArg storedKey keyless))
        exact met old oldMember keyed' (same.trans stored)
      · exact (DlqJob.Records.of_bound bound has).content_eq fits

/-- A job that was enqueued from the `JobSpec` and has been captured and requeued `n` times, what
the last enqueue or requeue was added at, and the record of the last round. What others do in
between leaves the job and its record what they are, and adds no other record under its key. -/
inductive Rounds (taskIdentifier : String) (payload : Json) (spec : JobSpec) :
    Nat → Database → Job → Timestamp → Option DlqJob → Prop
  | enqueued {session : Session} {job : Job}
      (ran : (session.run (Client.enqueue taskIdentifier payload spec)).1 = .ok (.enqueued job)) :
      Rounds taskIdentifier payload spec 0
        (session.run (Client.enqueue taskIdentifier payload spec)).2.db job
        (session.upcoming 0).now none
  | requeued {n : Nat} {db : Database} {job : Job} {addedAt : Timestamp} {last : Option DlqJob}
      (before : Rounds taskIdentifier payload spec n db job addedAt last)
      {session : Session} {table : DlqTable} {failed : Job} (same : failed.id = job.id)
      (kept : ∀ content, db.HasContent job content → session.db.HasContent failed content)
      (present : session.db.dlq = .ok table)
      (alone : ∀ d ∈ table.rows, failed.key ≠ none → d.jobKey = storedKey failed.key →
        ∃ record, last = some record ∧ d.id = record.id ∧ d.content = record.content)
      {record : DlqJob} (captured : session.Captures failed record)
      {session' : Session} {table' : DlqTable} (present' : session'.db.dlq = .ok table')
      {found : DlqJob} (member : found ∈ table'.rows) (sameId : found.id = record.id)
      (recorded : found.content = record.content)
      {notes : Option String} {job' : Job}
      (ran : (session'.run (Client.requeueDlqJob found.id notes)).1 = .ok job') :
      Rounds taskIdentifier payload spec (n + 1)
        (session'.run (Client.requeueDlqJob found.id notes)).2.db job'
        (session'.upcoming 1).now (some found)

namespace Rounds

variable {n : Nat} {db : Database} {job : Job} {addedAt : Timestamp} {last : Option DlqJob}

/-- What the job is after `n` rounds, and what the record of the last one asks for. -/
theorem content (rounds : Rounds taskIdentifier payload spec n db job addedAt last) :
    db.HasContent job ((spec.content taskIdentifier payload).afterRounds n) ∧
    (n ≠ 0 → job.runAt = addedAt) ∧
    ∀ record, last = some record →
      record.content = (spec.content taskIdentifier payload).requeued := by
  induction rounds with
  | enqueued ran =>
      obtain ⟨written, reported, rfl, left⟩ := run_enqueue ran
      rw [left]
      exact ⟨Database.hasContent_addJob reported, absurd rfl,
        fun _ none => absurd none (Option.some_ne_none _).symm⟩
  | @requeued n db job addedAt last before session table failed same kept present alone record
      captured session' table' present' found member sameId recorded notes job' ran ih =>
      obtain ⟨has, -, lastContent⟩ := ih
      have rounded := (spec.content taskIdentifier payload).requeued_afterRounds n
      have met : ∀ d ∈ table.rows, failed.key ≠ none → d.jobKey = storedKey failed.key →
          d.content = ((spec.content taskIdentifier payload).afterRounds n).requeued := by
        intro d among keyed sameKey
        obtain ⟨record, isLast, -, copy⟩ := alone d among keyed sameKey
        rw [copy, lastContent record isLast, rounded]
      have asks : found.content = (spec.content taskIdentifier payload).requeued := by
        rw [recorded, captured.content_eq present (kept _ has)
          ((spec.content_fits ..).afterRounds n) met, rounded]
      obtain ⟨read, among, readId, written, dlq, reported, rfl, left⟩ := run_requeueDlqJob ran
      rw [Database.dlqRows_ok present'] at among
      obtain rfl := table'.eq_of_id_eq among member readId
      refine ⟨?_, fun _ => Database.runAt_requeued reported, ?_⟩
      · have tasks := congrArg Database.tasks left
        have queues := congrArg Database.jobQueues left
        have added := (Database.hasContent_addJob reported).congr tasks queues
        rwa [read.content_toSpec, asks] at added
      · intro record isLast
        rw [← Option.some.inj isLast]
        exact asks

end Rounds

/-- A job that is enqueued from a `JobSpec` has its content; and after any positive number of
captures and requeues it has it again and is due at once, exactly when its texts are not too long
for the columns of the DLQ and its queue is not the serial queue with the empty name. -/
theorem round_trip_iff (taskIdentifier : String) (payload : Json) (spec : JobSpec) :
    (∀ db job addedAt last, Rounds taskIdentifier payload spec 0 db job addedAt last →
      db.HasContent job (spec.content taskIdentifier payload)) ∧
    ∀ n db job addedAt last, Rounds taskIdentifier payload spec (n + 1) db job addedAt last →
      (db.HasContent job (spec.content taskIdentifier payload) ∧ job.runAt = addedAt ↔
        (spec.content taskIdentifier payload).RoundTrips) := by
  constructor
  · intro db job addedAt last rounds
    exact rounds.content.1
  · intro n db job addedAt last rounds
    obtain ⟨has, due, -⟩ := rounds.content
    have settled : (spec.content taskIdentifier payload).requeued =
        spec.content taskIdentifier payload ↔ (spec.content taskIdentifier payload).RoundTrips :=
      JobContent.requeued_eq_iff
    rw [← settled]
    constructor
    · rintro ⟨has', -⟩
      exact has.unique has'
    · intro same
      rw [JobContent.afterRounds, same] at has
      exact ⟨has, due (Nat.succ_ne_zero n)⟩

/-- A job in the serial queue `name`. -/
def invoiceSpec (name : String) : JobSpec where
  runAt := none
  priority := ⟨-5⟩
  queue := .serial name
  maxAttempts := some 1
  jobKey := some "invoice"
  jobKeyMode := .replace

/-- The database once that job is enqueued, with the job. -/
def enqueuedInvoice (name : String) : Database :=
  ((undisturbed 0 .fresh).run (Client.enqueue "send_email" .null (invoiceSpec name))).2.db

/-- The queue after the job has used up its attempt. -/
def exhaustedInvoice (name : String) : Database :=
  let db := enqueuedInvoice name
  { db with jobs := db.jobs.update (fun _ => true) (JobRow.shortCircuit "boom" 0) }

/-- The job as it was enqueued. -/
def submittedInvoice : Job :=
  { invoice 1 .null with jobQueueId := some 1, priority := -5, attempts := 0, lastError := none }

/-- The job in the queue now. -/
def spentInvoice : Job := { submittedInvoice with attempts := 1, lastError := some "boom" }

theorem hasContent_exhausted (name : String) (content : JobContent)
    (has : (enqueuedInvoice name).HasContent submittedInvoice content) :
    (undisturbed 0 (exhaustedInvoice name)).db.HasContent spentInvoice content :=
  ⟨has.taskIdentifier, has.named, has.payload, has.queue, has.priority, has.maxAttempts, has.key⟩

/-- The database after a pass over that queue. -/
def movedInvoice (name : String) : Session :=
  ((undisturbed 0 (exhaustedInvoice name)).run Client.processFailedJobs).2

/-- It uses up its attempt, is moved and is requeued: it is the job that was enqueued. -/
theorem round_trip_invoice :
    ∃ db job addedAt last,
      Rounds "send_email" .null (invoiceSpec "invoices") 1 db job addedAt last ∧
      db.HasContent job ((invoiceSpec "invoices").content "send_email" .null) ∧
        job.runAt = addedAt := by
  have first : Rounds "send_email" .null (invoiceSpec "invoices") 0 (enqueuedInvoice "invoices")
      submittedInvoice 0 none := @Rounds.enqueued _ _ _ (undisturbed 0 .fresh) _ rfl
  have captured : (undisturbed 0 (exhaustedInvoice "invoices")).Captures spentInvoice _ :=
    .scanned default (.head _) (by decide) (by intro r member; cases member) (.head _) rfl
  have present : (movedInvoice "invoices").db.dlq = .ok _ := rfl
  have same : spentInvoice.id = submittedInvoice.id := rfl
  have before : (undisturbed 0 (exhaustedInvoice "invoices")).db.dlq = .ok .empty := rfl
  have requeued : ((movedInvoice "invoices").run (Client.requeueDlqJob 1 none)).1 = .ok _ := rfl
  have rounds := first.requeued same (hasContent_exhausted "invoices") before
    (by intro d member; cases member) captured present (.head _) rfl rfl requeued
  exact ⟨_, _, _, _, rounds, ((round_trip_iff _ _ _).2 _ _ _ _ _ rounds).mpr
    ⟨by decide, by rintro name ⟨⟩; decide, by rintro key ⟨⟩; decide⟩⟩

/-- The same job in the queue `""` comes back as a parallel job. -/
theorem empty_queue_becomes_parallel :
    ∃ db job addedAt last, Rounds "send_email" .null (invoiceSpec "") 1 db job addedAt last ∧
      db.queue? job.jobQueueId = some .parallel ∧
      ¬ db.HasContent job ((invoiceSpec "").content "send_email" .null) := by
  have first : Rounds "send_email" .null (invoiceSpec "") 0 (enqueuedInvoice "")
      submittedInvoice 0 none := @Rounds.enqueued _ _ _ (undisturbed 0 .fresh) _ rfl
  have captured : (undisturbed 0 (exhaustedInvoice "")).Captures spentInvoice _ :=
    .scanned default (.head _) (by decide) (by intro r member; cases member) (.head _) rfl
  have present : (movedInvoice "").db.dlq = .ok _ := rfl
  have same : spentInvoice.id = submittedInvoice.id := rfl
  have before : (undisturbed 0 (exhaustedInvoice "")).db.dlq = .ok .empty := rfl
  have requeued : ((movedInvoice "").run (Client.requeueDlqJob 1 none)).1 = .ok _ := rfl
  have rounds := first.requeued same (hasContent_exhausted "") before
    (by intro d member; cases member) captured present (.head _) rfl rfl requeued
  refine ⟨_, _, _, _, rounds, rfl, fun has => ?_⟩
  cases has.queue

end Session

end Backfill
