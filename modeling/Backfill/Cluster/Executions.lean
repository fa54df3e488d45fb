import Backfill.Client.RoundTrip
import Backfill.Cluster.UnrunJobs
import Backfill.Retries

/-!
# How often a failing job is executed

`RetryPolicy::total_attempts` counts one attempt more than `max_attempts`, for the first one;
`should_retry` counts none. A job is fetched while `attempts < max_attempts`, and its first fetch is
an attempt like the others.
-/

namespace Backfill

/-- The entry is a fetch of this job. -/
def Entry.fetches (jobId : Int) : Entry → Bool
  | fetched job => decide (job.id = jobId)
  | _ => false

/-- How often the job has been executed. -/
def executions (jobId : Int) (log : List Entry) : Nat := log.countP (Entry.fetches jobId)

theorem executions_append (jobId : Int) (log more : List Entry) :
    executions jobId (log ++ more) = executions jobId log + executions jobId more :=
  List.countP_append ..

namespace Attempts

/-- Any step but an enqueue under the key of this job, and a failure of it for good. -/
structure Retries (tables : CharTables) (jobId : Int) (s : Attempts) (a : JournalAction) :
    Prop where
  exhausts : OnlyHooksExhaust a
  others : ∀ new, s.journal.enqueues? a = some new → ∀ row ∈ s.db.jobs.rows, row.id = jobId →
    new.key = none ∨ row.key ≠ new.key
  retryable : ∀ i error retryAt, a = .base (.fail i error retryAt) →
    ∀ e, s.journal.cluster.running[i]? = some e → e.job.id = jobId →
      (WorkerError.classifyFromMessage tables error).isRetryable = true

/-- The row of the job, if it is in the queue, has counted `n` of the attempts it is allowed. -/
structure Counts (tables : CharTables) (allowed jobId : Int) (n : Nat) (s : Attempts) : Prop where
  drawn : jobId < s.db.jobs.nextId
  counted : ∀ row ∈ s.db.jobs.rows, row.id = jobId →
    row.attempts = n ∧ row.maxAttempts = allowed ∧ row.attempts ≤ allowed
  retried : ∀ job, s.FailedForGood tables job → job.id ≠ jobId

variable {tables : CharTables} {s s' : Attempts} {a : JournalAction} {jobId allowed : Int}
  {n : Nat}

/-- A fetch of the job is one execution of it. -/
theorem executions_fetch {worker : String}
    (taken : s.step tables (.base (.fetch worker jobId)) = some s') :
    ∃ more, s'.journal.log = s.journal.log ++ more ∧ executions jobId more = 1 := by
  obtain ⟨cluster, moved, same⟩ := Journal.base_some (step_some taken).1
  obtain ⟨⟨job, db⟩, got, -⟩ := Option.map_eq_some_iff.mp moved
  obtain ⟨row, -, rfl, -, -, -, copied, -⟩ := Database.getJob_some got
  have sameId : job.id = row.id := by rw [copied]; rfl
  refine ⟨[.fetched job], ?_, by simp [executions, Entry.fetches, sameId]⟩
  rw [same]
  simp [Journal.entriesOf, got]

/-- No other step is one. -/
theorem executions_other (other : ∀ worker, a ≠ .base (.fetch worker jobId))
    (taken : s.step tables a = some s') :
    ∃ more, s'.journal.log = s.journal.log ++ more ∧ executions jobId more = 0 := by
  obtain ⟨more, log, entered⟩ := Journal.log_step (step_some taken).1
  refine ⟨more, log, List.countP_eq_zero.mpr fun entry among fetches => ?_⟩
  cases entered entry among with
  | counted sends marks =>
      have counts := Statement.counts_entries entry marks
      cases entry <;> first
        | cases fetches
        | cases counts
  | written | requeued | erased => cases fetches
  | fetched got =>
      obtain ⟨row, -, rfl, -, -, -, copied, -⟩ := Database.getJob_some got
      have same : row.id = jobId := by
        rw [Entry.fetches, decide_eq_true_iff, copied] at fetches
        exact fetches
      exact other _ (by rw [same])

/-- The counts of a row that a step which is no fetch of it leaves in the queue. -/
theorem Counts.row_other (counts : Counts tables allowed jobId n s) (hooked : Hooked tables s)
    (retries : Retries tables jobId s a) (taken : s.step tables a = some s')
    (other : ∀ worker, a ≠ .base (.fetch worker jobId)) {row : JobRow}
    (member : row ∈ s'.db.jobs.rows) (same : row.id = jobId) :
    row.attempts = n ∧ row.maxAttempts = allowed ∧ row.attempts ≤ allowed := by
  have moved := (step_some taken).1
  cases enqueues : s.journal.enqueues? a with
  | some new =>
      rcases Journal.changed_step moved member with ⟨old, oldMember, change⟩ | fresh
      · have sameOld : old.id = jobId := change.id_eq.symm.trans same
        have kept : old ∈ s'.db.jobs.rows := by
          rw [db, Journal.db_enqueues enqueues moved]
          exact Database.mem_addJob_of_ne oldMember
            (retries.others new enqueues old oldMember sameOld)
        obtain rfl := s'.db.jobs.eq_of_id_eq member kept (same.trans sameOld.symm)
        exact counts.counted row oldMember same
      · exact absurd (fresh.symm.trans same) counts.drawn.ne'
  | none =>
      obtain ⟨old, oldMember, change⟩ := Journal.changed_of_silent enqueues moved member
      have sameOld : old.id = jobId := change.rowChange.id_eq.symm.trans same
      have before := counts.counted old oldMember sameOld
      cases change with
      | kept | failed | released => exact before
      | fetched => exact absurd (by rw [sameOld]) (other _)
      | shortCircuited sends =>
          obtain ⟨job, failed, sameJob⟩ := hooked.failedForGood_of_sends sends
          exact absurd (sameJob.trans sameOld) (counts.retried job failed)

/-- The counts of a row that has been fetched. -/
theorem Counts.row_fetch (counts : Counts tables allowed jobId n s) {worker : String}
    (taken : s.step tables (.base (.fetch worker jobId)) = some s') {row : JobRow}
    (member : row ∈ s'.db.jobs.rows) (same : row.id = jobId) :
    row.attempts = n + 1 ∧ row.maxAttempts = allowed ∧ row.attempts ≤ allowed := by
  obtain ⟨cluster, moved, left⟩ := Journal.base_some (step_some taken).1
  obtain ⟨found, foundMember, job, key, available, -, -, -, rfl⟩ := Cluster.fetch_some moved
  rw [db, left] at member
  obtain ⟨old, oldMember, rfl⟩ := Database.mem_lockJob.mp member
  by_cases hit : old.id = found.id
  · rw [if_pos hit] at same ⊢
    obtain ⟨attempts, maxAttempts, within⟩ := counts.counted old oldMember same
    have left := (JobRow.isAvailable_iff.mp available).2
    rw [s.db.jobs.eq_of_id_eq foundMember oldMember hit.symm] at left
    refine ⟨?_, maxAttempts, ?_⟩
    · show old.attempts + 1 = n + 1
      rw [attempts]
    · show old.attempts + 1 ≤ allowed
      omega
  · rw [if_neg hit] at same
    exact absurd (same.trans key.symm) hit

/-- What every step makes of the count. -/
theorem Counts.step (counts : Counts tables allowed jobId n s) (hooked : Hooked tables s)
    (retries : Retries tables jobId s a) (taken : s.step tables a = some s') :
    ∃ more, s'.journal.log = s.journal.log ++ more ∧
      Counts tables allowed jobId (n + executions jobId more) s' := by
  have drawn := lt_of_lt_of_le counts.drawn (Journal.nextId_step (step_some taken).1)
  have retried : ∀ job, s'.FailedForGood tables job → job.id ≠ jobId := by
    intro job failed
    rcases failedForGood_step hooked taken failed with before | ⟨i, error, retryAt, e, rfl, entry,
      rfl, permanent⟩
    · exact counts.retried job before
    · intro same
      have retryable := retries.retryable i error retryAt rfl e entry same
      cases retryable.symm.trans permanent
  by_cases fetches : ∃ worker, a = .base (.fetch worker jobId)
  · obtain ⟨worker, rfl⟩ := fetches
    obtain ⟨more, log, once⟩ := executions_fetch taken
    refine ⟨more, log, drawn, fun row member same => ?_, retried⟩
    rw [once]
    exact counts.row_fetch taken member same
  · have other : ∀ worker, a ≠ .base (.fetch worker jobId) :=
      fun worker is => fetches ⟨worker, is⟩
    obtain ⟨more, log, none⟩ := executions_other other taken
    refine ⟨more, log, drawn, fun row member same => ?_, retried⟩
    rw [none]
    exact counts.row_other hooked retries taken other member same

/-- A run counts what it executes. -/
theorem Counts.run (counts : Counts tables allowed jobId n s) (hooked : Hooked tables s)
    {as : List JournalAction} {t : Attempts}
    (path : Transition.Run (Attempts.step tables) (Retries tables jobId) s as t) :
    ∃ more, t.journal.log = s.journal.log ++ more ∧
      Counts tables allowed jobId (n + executions jobId more) t := by
  refine (path.invariant (I := fun t => Hooked tables t ∧ ∃ more,
    t.journal.log = s.journal.log ++ more ∧
      Counts tables allowed jobId (n + executions jobId more) t) ?_
    ⟨hooked, [], (List.append_nil _).symm, counts⟩).2
  rintro u a v ⟨hooked, before, log, counts⟩ retries taken
  obtain ⟨more, log', counts⟩ := counts.step hooked retries taken
  refine ⟨hooked.step retries.exhausts taken, before ++ more, ?_, ?_⟩
  · rw [log', log, List.append_assoc]
  · rwa [executions_append, ← Nat.add_assoc]

variable {taskIdentifier : String} {payload : Json} {spec : JobSpec} {policy : RetryPolicy}

/-- A job that has just been enqueued has no attempt counted. -/
theorem Enqueued.counts (low : 1 ≤ policy.maxAttempts) (high : policy.maxAttempts ≤ 32767)
    (enqueued : Enqueued tables taskIdentifier payload (spec.withRetryPolicy policy) jobId s) :
    Counts tables policy.maxAttempts jobId 0 s := by
  obtain ⟨path, enqueues, reported, rfl, settled, taken⟩ := enqueued
  have written := Journal.written_step enqueues reported (step_some taken).1
  refine ⟨s.db.jobs.id_lt _ written, fun row member same => ?_, fun job failed => ?_⟩
  · obtain rfl := s.db.jobs.eq_of_id_eq member written same
    obtain ⟨stored, fresh, -⟩ := Database.addJob_written reported
    have columns := Database.columns_addJob reported stored rfl
    rw [JobSpec.maxAttempts_withRetryPolicy low high] at columns
    rw [fresh, columns.2]
    exact ⟨rfl, rfl, by omega⟩
  · rcases failedForGood_step (.of_run path) taken failed with before | ⟨_, _, _, _, rfl, -⟩
    · exact settled job before.unsettled
    · cases enqueues

/-- Some time after it was enqueued with the policy, a job that does not fail for good has been
executed `n` times, and its row in the queue is `row`. -/
inductive Tried (tables : CharTables) (taskIdentifier : String) (payload : Json) (spec : JobSpec)
    (policy : RetryPolicy) (n : Nat) (row : JobRow) : Prop
  | intro {s t : Attempts} {as : List JournalAction} {more : List Entry}
      (enqueued : Enqueued tables taskIdentifier payload (spec.withRetryPolicy policy) row.id s)
      (path : Transition.Run (Attempts.step tables) (Retries tables row.id) s as t)
      (log : t.journal.log = s.journal.log ++ more) (count : executions row.id more = n)
      (member : row ∈ t.db.jobs.rows)

/-- What the policy promises: that the job is up for the DLQ when it has been executed
`total_attempts` times, and that it can be fetched again exactly when it should be retried. -/
structure Promised (policy : RetryPolicy) (n : Nat) (row : JobRow) : Prop where
  total : row.failed = true → (n : Int) = policy.totalAttempts
  retried : row.lockedAt = none → (row.isAvailable = true ↔ policy.shouldRetry n = true)

/-- The row counts the executions of the job. -/
theorem Tried.counted (low : 1 ≤ policy.maxAttempts) (high : policy.maxAttempts ≤ 32767)
    {row : JobRow} (tried : Tried tables taskIdentifier payload spec policy n row) :
    row.attempts = n ∧ row.maxAttempts = policy.maxAttempts ∧
      row.attempts ≤ policy.maxAttempts := by
  obtain ⟨enqueued, path, log, rfl, member⟩ := tried
  obtain ⟨more, log', counts⟩ := (enqueued.counts low high).run enqueued.hooked path
  obtain rfl := List.append_cancel_left (log.symm.trans log')
  rw [Nat.zero_add] at counts
  exact counts.counted row member rfl

end Attempts

namespace Database

variable {db : Database} {worker error : String} {now retryAt : Timestamp} {row : JobRow}

/-- A queue is free while the row it has is not locked. -/
theorem queueFree_some_iff {queueId : Int} : db.queueFree (some queueId) = true ↔
    ∃ queue ∈ db.jobQueues.rows, queue.id = queueId ∧ queue.lockedAt = none := by
  simp only [queueFree, Option.any_eq_true, Option.isNone_iff_eq_none, SerialTable.get?_eq_some,
    and_assoc]

/-- A row that can be fetched is fetched. -/
theorem getJob_of_free (worker : String) {identifier : String} (member : row ∈ db.jobs.rows)
    (named : db.taskIdentifier? row.taskId = some identifier) (available : row.isAvailable = true)
    (due : row.runAt ≤ now) (free : db.queueFree row.jobQueueId = true) :
    db.getJob worker now row.id = some
      ({ (JobRow.fetched worker now).apply row with taskIdentifier := identifier },
        db.lockJob worker now row) := by
  have found : db.jobs.get? row.id = some row := SerialTable.get?_eq_some.mpr ⟨member, rfl⟩
  simp only [getJob, found, named, Option.bind_eq_bind, Option.bind_some, available, due, free,
    and_self, if_true]

/-- A row whose attempt fails at once is unlocked again. -/
theorem mem_failJob_lockJob (member : row ∈ db.jobs.rows) :
    (JobRow.failedWith error retryAt now).apply ((JobRow.fetched worker now).apply row) ∈
      ((db.lockJob worker now row).failJob worker row.id error retryAt now).jobs.rows := by
  have locked : (JobRow.fetched worker now).apply row ∈ (db.lockJob worker now row).jobs.rows :=
    mem_lockJob.mpr ⟨row, member, by simp⟩
  have found : (db.lockJob worker now row).jobs.get? row.id =
      some ((JobRow.fetched worker now).apply row) := SerialTable.get?_eq_some.mpr ⟨locked, rfl⟩
  have held : ((JobRow.fetched worker now).apply row).lockedBy = some worker := rfl
  simp only [failJob, found, held, if_true]
  exact SerialTable.mem_update.mpr ⟨_, locked, by simp [JobRow.fetched]⟩

/-- And so is its queue. -/
theorem queueFree_failJob_lockJob (member : row ∈ db.jobs.rows)
    (free : db.queueFree row.jobQueueId = true) :
    ((db.lockJob worker now row).failJob worker row.id error retryAt now).queueFree
      row.jobQueueId = true := by
  have locked : (JobRow.fetched worker now).apply row ∈ (db.lockJob worker now row).jobs.rows :=
    mem_lockJob.mpr ⟨row, member, by simp⟩
  have found : (db.lockJob worker now row).jobs.get? row.id =
      some ((JobRow.fetched worker now).apply row) := SerialTable.get?_eq_some.mpr ⟨locked, rfl⟩
  have held : ((JobRow.fetched worker now).apply row).lockedBy = some worker := rfl
  have queued : ((JobRow.fetched worker now).apply row).jobQueueId = row.jobQueueId := rfl
  simp only [failJob, found, held, if_true]
  cases queue : row.jobQueueId with
  | none => rfl
  | some queueId =>
      rw [queue] at free
      obtain ⟨old, oldMember, same, -⟩ := queueFree_some_iff.mp free
      refine queueFree_some_iff.mpr ⟨JobQueueRow.unlock.apply ((JobQueueRow.lock worker now).apply
        old), SerialTable.mem_update.mpr ⟨(JobQueueRow.lock worker now).apply old,
          SerialTable.mem_update.mpr ⟨old, oldMember, by simp [same, queue]⟩, ?_⟩, same, rfl⟩
      simp [queued, queue, JobQueueRow.lock, same]

theorem tasks_failJob_lockJob (jobId : Int) :
    ((db.lockJob worker now row).failJob worker jobId error retryAt now).tasks = db.tasks := by
  unfold failJob
  split
  · rfl
  · split <;> rfl

end Database

namespace Attempts

/-- Nothing is running, and the row can be fetched if it has an attempt left. -/
structure Ready (s : Attempts) (row : JobRow) : Prop where
  member : row ∈ s.db.jobs.rows
  unlocked : row.lockedAt = none
  due : row.runAt ≤ s.journal.cluster.now
  named : ∃ identifier, s.db.taskIdentifier? row.taskId = some identifier
  free : s.db.queueFree row.jobQueueId = true
  idle : s.journal.cluster.running = []

variable {tables : CharTables} {s : Attempts} {row : JobRow}

/-- An error without a text is retryable. -/
theorem isRetryable_empty (tables : CharTables) :
    (WorkerError.classifyFromMessage tables "").isRetryable = true := by rfl

/-- What the cluster can do, can be done. -/
theorem step_base {b : Action} {cluster : Cluster}
    (moved : s.journal.cluster.step tables b = some cluster) :
    ∃ t, s.step tables (.base b) = some t ∧ t.journal.cluster = cluster := by
  simp only [Attempts.step, Journal.step, Journal.base, moved, Option.map_some]
  exact ⟨_, rfl, rfl⟩

/-- The execution of a row that a worker has just fetched. -/
def attemptAt (s : Attempts) (row : JobRow) (identifier : String) : Execution where
  worker := "worker"
  job := { (JobRow.fetched "worker" s.journal.cluster.now).apply row with
    taskIdentifier := identifier }
  queueName := s.db.queueName? row.jobQueueId
  startedAt := s.journal.cluster.now

/-- A worker can fetch the row, and then it executes nothing else. -/
theorem Ready.fetched (tables : CharTables) (ready : Ready s row)
    (left : row.attempts < row.maxAttempts) :
    ∃ identifier, s.db.taskIdentifier? row.taskId = some identifier ∧
      s.journal.cluster.step tables (.fetch "worker" row.id) =
        some { s.journal.cluster with
          db := s.db.lockJob "worker" s.journal.cluster.now row
          running := [attemptAt s row identifier] } := by
  obtain ⟨identifier, named⟩ := ready.named
  refine ⟨identifier, named, ?_⟩
  have got := Database.getJob_of_free "worker" ready.member named
    (JobRow.isAvailable_iff.mpr ⟨ready.unlocked, left⟩) ready.due ready.free
  simp only [Cluster.step, Cluster.fetch, got, Option.map_some, ready.idle, List.nil_append]
  rfl

/-- The row is fetched and its handler fails. -/
theorem Ready.attempt (tables : CharTables) (ready : Ready s row)
    (left : row.attempts < row.maxAttempts) :
    ∃ as t row', Transition.Run (Attempts.step tables) (Retries tables row.id) s as t ∧
      Ready t row' ∧ row'.id = row.id ∧ row'.attempts = row.attempts + 1 ∧
        row'.maxAttempts = row.maxAttempts := by
  obtain ⟨identifier, named, fetched⟩ := ready.fetched tables left
  set now := s.journal.cluster.now
  obtain ⟨t, fetches, cluster⟩ := step_base fetched
  have failed : t.journal.cluster.step tables (.fail 0 "" now) =
      some { t.journal.cluster with
        db := t.journal.cluster.db.failJob "worker" row.id "" now now
        running := []
        failures := t.journal.cluster.failures ++
          [{ job := (attemptAt s row identifier).job, error := "" }] } := by
    rw [cluster]
    rfl
  obtain ⟨u, fails, cluster'⟩ := step_base failed
  have db : u.db = (s.db.lockJob "worker" now row).failJob "worker" row.id "" now now := by
    rw [Attempts.db, Journal.db, cluster', cluster]
  have fetchAllowed : Retries tables row.id s (.base (.fetch "worker" row.id)) :=
    ⟨nofun, nofun, nofun⟩
  have failAllowed : Retries tables row.id t (.base (.fail 0 "" now)) := by
    refine ⟨nofun, nofun, ?_⟩
    rintro _ _ _ ⟨⟩ _ _ _
    exact isRetryable_empty tables
  refine ⟨_, u, (JobRow.failedWith "" now now).apply ((JobRow.fetched "worker" now).apply row),
    .cons fetchAllowed fetches (.cons failAllowed fails (.nil u)), ?_, rfl, rfl, rfl⟩
  constructor
  · rw [db]
    exact Database.mem_failJob_lockJob ready.member
  · rfl
  · rw [cluster', cluster]
    exact le_refl now
  · refine ⟨identifier, ?_⟩
    rw [Database.taskIdentifier?, db, Database.tasks_failJob_lockJob]
    exact named
  · rw [db]
    exact Database.queueFree_failJob_lockJob ready.member ready.free
  · rw [cluster']

/-- So all its attempts can be used up. -/
theorem Ready.exhaust (tables : CharTables) (ready : Ready s row)
    (within : row.attempts ≤ row.maxAttempts) :
    ∃ as t row', Transition.Run (Attempts.step tables) (Retries tables row.id) s as t ∧
      row' ∈ t.db.jobs.rows ∧ row'.id = row.id ∧ row'.lockedAt = none ∧
        row'.maxAttempts = row.maxAttempts ∧ row'.maxAttempts ≤ row'.attempts := by
  obtain ⟨n, left⟩ : ∃ n : Nat, row.maxAttempts = row.attempts + n :=
    ⟨(row.maxAttempts - row.attempts).toNat, by omega⟩
  induction n generalizing s row with
  | zero => exact ⟨_, s, row, .nil s, ready.member, rfl, ready.unlocked, rfl, by omega⟩
  | succ n ih =>
      obtain ⟨as, t, row', path, ready', same, attempts, maxAttempts⟩ :=
        ready.attempt tables (by omega)
      obtain ⟨bs, u, last, rest, member, same', unlocked, maxAttempts', spent⟩ :=
        ih ready' (by omega) (by omega)
      rw [same] at rest same'
      exact ⟨_, u, last, path.append rest, member, same', unlocked,
        maxAttempts'.trans maxAttempts, spent⟩

/-- The queue of the first job of the fresh schema is not locked. -/
theorem unlocked_prepared_fresh {job : NewJob} {queue : JobQueueRow}
    (member : queue ∈ (Database.fresh.prepared job).jobQueues.rows) : queue.lockedAt = none := by
  unfold Database.prepared at member
  split at member
  · cases member
  · rcases SerialTable.mem_upsert.mp member with ⟨-, old, oldMember, -⟩ | ⟨-, old | rfl⟩
    · cases oldMember
    · cases old
    · rfl

/-- The first job of the fresh schema can be fetched when it is due. -/
theorem exists_ready (tables : CharTables) (taskIdentifier : String) (payload : Json)
    (spec : JobSpec) : ∃ s row, Enqueued tables taskIdentifier payload spec row.id s ∧
      Ready s row ∧ row.attempts = 0 ∧
        row.maxAttempts = ((spec.maxAttempts.map clampI16).getD 25).toInt := by
  set now := spec.runAt.getD 0 with clock
  set job := spec.toGraphile.newJob taskIdentifier payload now with asked
  obtain ⟨written, reported⟩ := Database.addJob_fresh job now
  obtain ⟨member, fresh, unlocked⟩ := Database.addJob_written reported
  have columns := Database.columns_addJob reported member rfl
  have has := Database.hasContent_addJob reported
  obtain ⟨s, taken, cluster⟩ := @step_base tables (initial now .fresh) (.enqueue job) _ rfl
  have db : s.db = (Database.fresh.addJob now job).2 := by
    rw [Attempts.db, Journal.db, cluster]
    rfl
  refine ⟨s, written, .first reported taken, ?_, fresh, columns.2⟩
  constructor
  · rwa [db]
  · exact unlocked
  · have due : written.runAt = spec.runAt.getD now := by
      rcases Database.addJob_reported reported with ⟨old, oldMember, -⟩ | draft
      · cases oldMember
      · rw [draft]
        rfl
    rw [cluster, due]
    show spec.runAt.getD now ≤ now
    rw [clock]
    cases spec.runAt <;> exact le_refl _
  · rw [db]
    exact ⟨_, has.named⟩
  · rw [db]
    have queued := has.queue
    cases queue : written.jobQueueId with
    | none => rfl
    | some queueId =>
        simp only [queue, Database.queue?, Option.map_eq_some_iff] at queued
        obtain ⟨found, got, -⟩ := queued
        obtain ⟨among, same⟩ := SerialTable.get?_eq_some.mp got
        exact Database.queueFree_some_iff.mpr ⟨found, among, same, unlocked_prepared_fresh among⟩
  · rw [cluster]
    rfl

/-- Whatever it is enqueued with, a job under the policy can use up its attempts. -/
theorem exists_failed (tables : CharTables) (taskIdentifier : String) (payload : Json)
    (spec : JobSpec) (policy : RetryPolicy) (low : 1 ≤ policy.maxAttempts)
    (high : policy.maxAttempts ≤ 32767) :
    ∃ n row, Tried tables taskIdentifier payload spec policy n row ∧ row.failed = true ∧
      row.lockedAt = none := by
  obtain ⟨s, row, enqueued, ready, fresh, allowed⟩ :=
    exists_ready tables taskIdentifier payload (spec.withRetryPolicy policy)
  rw [JobSpec.maxAttempts_withRetryPolicy low high] at allowed
  obtain ⟨as, t, last, path, member, same, unlocked, maxAttempts, spent⟩ :=
    ready.exhaust tables (by omega)
  rw [← same] at enqueued path
  obtain ⟨more, log, -⟩ := (enqueued.counts low high).run enqueued.hooked path
  refine ⟨_, last, .intro enqueued path log rfl member, ?_, unlocked⟩
  exact JobRow.failed_iff.mpr ⟨spent, by omega⟩

/-- The job is up for the DLQ when it has been executed once less than `total_attempts` says, and
until then it is retried as `should_retry` says. -/
theorem Tried.failed_and_retried {taskIdentifier : String} {payload : Json} {spec : JobSpec}
    {policy : RetryPolicy} (low : 1 ≤ policy.maxAttempts) (high : policy.maxAttempts ≤ 32767)
    {n : Nat} {row : JobRow} (tried : Tried tables taskIdentifier payload spec policy n row) :
    (row.failed = true → (n : Int) + 1 = policy.totalAttempts) ∧
      (row.lockedAt = none → (row.isAvailable = true ↔ policy.shouldRetry n = true)) := by
  obtain ⟨attempts, maxAttempts, within⟩ := tried.counted low high
  refine ⟨fun failed => ?_, fun unlocked => ?_⟩
  · have spent := (JobRow.failed_iff.mp failed).1
    rw [RetryPolicy.totalAttempts]
    omega
  · simp [JobRow.isAvailable_iff, unlocked, RetryPolicy.shouldRetry, attempts, maxAttempts]

/-- So no policy that fits into the column keeps its promise, whatever it is used for. -/
theorem totalAttempts_never (tables : CharTables) (taskIdentifier : String) (payload : Json)
    (spec : JobSpec) (policy : RetryPolicy) (low : 1 ≤ policy.maxAttempts)
    (high : policy.maxAttempts ≤ 32767) :
    (∀ n row, Tried tables taskIdentifier payload spec policy n row →
      (row.failed = true → (n : Int) + 1 = policy.totalAttempts) ∧
        (row.lockedAt = none → (row.isAvailable = true ↔ policy.shouldRetry n = true))) ∧
      ¬ ∀ n row, Tried tables taskIdentifier payload spec policy n row → Promised policy n row := by
  refine ⟨fun n row tried => tried.failed_and_retried low high, fun promised => ?_⟩
  obtain ⟨n, row, tried, failed, -⟩ := exists_failed tables taskIdentifier payload spec policy low
    high
  have once := (tried.failed_and_retried low high).1 failed
  have total := (promised n row tried).total failed
  omega

/-- The fast preset keeps it as little. -/
theorem totalAttempts_never_fast :
    ¬ ∀ n row, Tried .ascii "send_email" .null .default .fast n row → Promised .fast n row :=
  (totalAttempts_never .ascii "send_email" .null .default .fast (by decide) (by decide)).2

/-- A job under it is up for the DLQ after three attempts of the four it speaks of. -/
theorem fast_failed_after_three : ∃ n row,
    Tried .ascii "send_email" .null .default .fast n row ∧ row.failed = true ∧ n = 3 ∧
      RetryPolicy.fast.totalAttempts = 4 ∧ ¬ Promised .fast n row := by
  obtain ⟨n, row, tried, failed, -⟩ :=
    exists_failed .ascii "send_email" .null .default .fast (by decide) (by decide)
  have once := (tried.failed_and_retried (by decide) (by decide)).1 failed
  have four : RetryPolicy.fast.totalAttempts = 4 := rfl
  refine ⟨n, row, tried, failed, by omega, rfl, fun promised => ?_⟩
  have total := promised.total failed
  omega

end Attempts

end Backfill
