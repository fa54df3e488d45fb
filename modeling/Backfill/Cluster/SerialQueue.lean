import Backfill.Cluster
import Backfill.Misc.ListFacts

/-!
# Mutual exclusion in a serial queue

A serial queue runs one job at a time because the fetch of one of its jobs locks the queue
row. The lock says nothing about the execution that took it, so it protects that execution
only as long as it cannot become stale before the execution ends: the timeout of queue
locks must not be shorter than the one executions are allowed to use up.
-/

namespace Backfill

/-- Two executions that do not belong to one serial queue. -/
def Execution.Exclusive (e e' : Execution) : Prop :=
  e.queueName = none ∨ e.queueName ≠ e'.queueName

instance (e e' : Execution) : Decidable (e.Exclusive e') := inferInstanceAs (Decidable (_ ∨ _))

instance : Std.Symm Execution.Exclusive where
  symm e e' exclusive := by
    rcases exclusive with parallel | differ
    · by_cases absent : e'.queueName = none
      · exact .inl absent
      · exact .inr fun same => absent (same.trans parallel)
    · exact .inr differ.symm

namespace Cluster

/-- The statements of the stale-lock cleanup with the timeouts of `config`. -/
def ReleasesOf (config : WorkerConfig) (op : Statement) : Prop :=
  op = .releaseQueueLocks (asI64 config.staleQueueLockTimeout.asSecs) ∨
    op = .releaseJobLocks (asI64 config.staleJobLockTimeout.asSecs)

/-- Workers and the two releases of stale locks. -/
def WorkersAndReleases (config : WorkerConfig) : Action → Prop
  | .advance _ | .fetch _ _ | .complete _ | .fail _ _ _ | .send _ _ => True
  | .start routine => routine = Client.releaseStaleQueueLocks config.staleQueueLockTimeout ∨
      routine = Client.releaseStaleJobLocks config.staleJobLockTimeout
  | .crash _ | .jobFail _ | .enqueue _ => False

/-- No execution is older than the timeout of job locks. -/
def ExecutionsInTime (config : WorkerConfig) (s : Cluster) : Prop :=
  ∀ e ∈ s.running, s.now - e.startedAt ≤ config.staleJobLockTimeout.asMicros

instance (config : WorkerConfig) (s : Cluster) : Decidable (ExecutionsInTime config s) :=
  inferInstanceAs (Decidable (∀ e ∈ s.running, _ ≤ _))

/-- The steps of workers and releases while all executions are in time. -/
def SerialSteps (config : WorkerConfig) (s : Cluster) (a : Action) : Prop :=
  WorkersAndReleases config a ∧ ExecutionsInTime config s

/-- At most one job of any serial queue is executing. -/
def SerialExclusion (s : Cluster) : Prop := s.running.Pairwise Execution.Exclusive

instance (s : Cluster) : Decidable (SerialExclusion s) :=
  inferInstanceAs (Decidable (s.running.Pairwise _))

/-- An execution of a serial job holds the lock of its queue since it was fetched. -/
def HoldsQueue (db : Database) (e : Execution) : Prop :=
  ∀ name, e.queueName = some name → ∃ queue ∈ db.jobQueues.rows,
    some queue.id = e.job.jobQueueId ∧ queue.queueName = name ∧
      queue.lockedAt = some e.startedAt

/-- What workers and releases keep as long as queue locks outlive executions. -/
structure QueuesHeld (config : WorkerConfig) (s : Cluster) : Prop where
  routines : ∀ routine ∈ s.routines, routine.Calls (ReleasesOf config)
  held : ∀ e ∈ s.running, HoldsQueue s.db e
  /-- a queue that is not named is not there: the job is a parallel one -/
  parallel : ∀ e ∈ s.running, e.queueName = none → e.job.jobQueueId = none
  queued : ∀ e ∈ s.running, ∀ row ∈ s.db.jobs.rows, row.id = e.job.id →
    row.jobQueueId = e.job.jobQueueId
  exclusion : SerialExclusion s

namespace QueuesHeld

variable {config : WorkerConfig} {s s' : Cluster}

theorem initial (config : WorkerConfig) (now : Timestamp) (db : Database) :
    QueuesHeld config (initial now db) := by
  constructor <;> simp [Cluster.initial, SerialExclusion]

/-- Clearing the queue lock of one execution leaves the others theirs. -/
theorem holdsQueue_of_clear {db : Database} {e other : Execution} (worker : String)
    (exclusive : e.Exclusive other) (parallel : e.queueName = none → e.job.jobQueueId = none)
    (own : HoldsQueue db e) (held : HoldsQueue db other) :
    HoldsQueue (db.clearQueueLock worker e.job.jobQueueId) other := by
  intro name named
  obtain ⟨queue, member, key, sameName, locked⟩ := held name named
  refine ⟨queue, Database.mem_clearQueueLock_of_ne member fun same => ?_, key, sameName, locked⟩
  cases mine : e.queueName with
  | none => simp [parallel mine] at same
  | some name' =>
      obtain ⟨queue', member', key', sameName', -⟩ := own name' mine
      have sameRow := db.jobQueues.eq_of_id_eq member member'
        (Option.some.inj (same.trans key'.symm))
      rcases exclusive with absent | differ
      · simp [mine] at absent
      · rw [mine, named] at differ
        exact differ (by rw [← sameName, ← sameName', sameRow])

theorem complete {i : Nat} (inv : QueuesHeld config s) (completed : s.complete i = some s') :
    QueuesHeld config s' := by
  obtain ⟨e, entry, rfl⟩ := Option.map_eq_some_iff.mp completed
  have running := List.mem_of_getElem? entry
  refine ⟨inv.routines, ?_, ?_, ?_, ListFacts.pairwise_eraseIdx inv.exclusion⟩
  · intro other left
    have held := inv.held other (List.mem_of_mem_eraseIdx left)
    have exclusive := ListFacts.related_of_mem_eraseIdx inv.exclusion entry left
    cases found : s.db.jobs.get? e.job.id with
    | none => simpa [Database.completeJob, found] using held
    | some row =>
        obtain ⟨member, key⟩ := SerialTable.get?_eq_some.mp found
        have cleared := holdsQueue_of_clear e.worker exclusive
          (inv.parallel e running) (inv.held e running) held
        rw [← inv.queued e running row member key] at cleared
        simp only [Database.completeJob, found]
        exact cleared
  · exact fun other left => inv.parallel other (List.mem_of_mem_eraseIdx left)
  · intro other left row newMember
    exact inv.queued other (List.mem_of_mem_eraseIdx left) row
      (Database.mem_completeJob.mp newMember).1

theorem fail {i : Nat} {error : String} {retryAt : Timestamp} (inv : QueuesHeld config s)
    (failed : s.fail i error retryAt = some s') : QueuesHeld config s' := by
  obtain ⟨e, entry, rfl⟩ := Option.map_eq_some_iff.mp failed
  have running := List.mem_of_getElem? entry
  refine ⟨inv.routines, ?_, ?_, ?_, ListFacts.pairwise_eraseIdx inv.exclusion⟩
  · intro other left
    have held := inv.held other (List.mem_of_mem_eraseIdx left)
    have exclusive := ListFacts.related_of_mem_eraseIdx inv.exclusion entry left
    cases found : s.db.jobs.get? e.job.id with
    | none => simpa [Database.failJob, found] using held
    | some row =>
        obtain ⟨member, key⟩ := SerialTable.get?_eq_some.mp found
        by_cases mine : row.lockedBy = some e.worker
        · have cleared := holdsQueue_of_clear e.worker exclusive
            (inv.parallel e running) (inv.held e running) held
          rw [← inv.queued e running row member key] at cleared
          simp only [Database.failJob, found, if_pos mine]
          exact cleared
        · simpa [Database.failJob, found, mine] using held
  · exact fun other left => inv.parallel other (List.mem_of_mem_eraseIdx left)
  · intro other left row newMember same
    obtain ⟨old, oldMember, rfl | ⟨-, -, rfl⟩⟩ := Database.of_mem_failJob newMember
    · exact inv.queued other (List.mem_of_mem_eraseIdx left) row oldMember same
    · exact inv.queued other (List.mem_of_mem_eraseIdx left) old oldMember same

theorem fetch {worker : String} {jobId : Int} (inv : QueuesHeld config s)
    (fetched : s.fetch worker jobId = some s') : QueuesHeld config s' := by
  obtain ⟨row, member, job, rfl, available, -, free, copied, rfl⟩ := fetch_some fetched
  have idCopied : job.id = row.id := by rw [copied]; rfl
  have queueCopied : job.jobQueueId = row.jobQueueId := by rw [copied]; rfl
  -- the queue row of the fetched job, if it has one, was not locked
  have unlocked : ∀ queue ∈ s.db.jobQueues.rows, some queue.id = row.jobQueueId →
      queue.lockedAt = none := by
    intro queue queueMember key
    rw [← key] at free
    have found : s.db.jobQueues.get? queue.id = some queue :=
      SerialTable.get?_eq_some.mpr ⟨queueMember, rfl⟩
    simpa [Database.queueFree, found] using free
  have stays : ∀ e ∈ s.running, HoldsQueue (s.db.lockJob worker s.now row) e := by
    intro e running name named
    obtain ⟨queue, queueMember, key, sameName, locked⟩ := inv.held e running name named
    refine ⟨queue, SerialTable.mem_update.mpr ⟨queue, queueMember, ?_⟩, key, sameName, locked⟩
    rw [if_neg]
    intro same
    have free := unlocked queue queueMember (by simpa using same)
    simp [free] at locked
  have named : ∀ name, s.db.queueName? row.jobQueueId = some name →
      ∃ queue ∈ s.db.jobQueues.rows, some queue.id = row.jobQueueId ∧ queue.queueName = name := by
    intro name serial
    obtain ⟨queue, joined, rfl⟩ := Option.map_eq_some_iff.mp serial
    obtain ⟨queueId, queued, found⟩ := Option.bind_eq_some_iff.mp joined
    obtain ⟨queueMember, key⟩ := SerialTable.get?_eq_some.mp found
    exact ⟨queue, queueMember, by rw [key, queued], rfl⟩
  refine ⟨inv.routines, ?_, ?_, ?_, ?_⟩
  · intro e running
    rcases List.mem_append.mp running with before | new
    · exact stays e before
    · rw [List.mem_singleton.mp new]
      intro name serial
      obtain ⟨queue, queueMember, key, sameName⟩ := named name serial
      refine ⟨(JobQueueRow.lock worker s.now).apply queue,
        SerialTable.mem_update.mpr ⟨queue, queueMember, ?_⟩, key.trans queueCopied.symm,
        sameName, rfl⟩
      rw [if_pos (by simpa using key)]
  · intro e running unnamed
    rcases List.mem_append.mp running with before | new
    · exact inv.parallel e before unnamed
    · rw [List.mem_singleton.mp new] at unnamed ⊢
      cases queued : row.jobQueueId with
      | none => exact queueCopied.trans queued
      | some queueId =>
          simp only [Database.queueName?, queued, Option.bind_some, Option.map_eq_none_iff]
            at unnamed
          simp [Database.queueFree, queued, unnamed] at free
  · intro e running r newMember same
    obtain ⟨old, oldMember, rfl⟩ := Database.mem_lockJob.mp newMember
    have kept : (if old.id = row.id then (JobRow.fetched worker s.now).apply old
        else old).jobQueueId = old.jobQueueId := by
      split <;> rfl
    have sameId : old.id = e.job.id := by
      rw [← same]
      split <;> rfl
    rw [kept]
    rcases List.mem_append.mp running with before | new
    · exact inv.queued e before old oldMember sameId
    · rw [List.mem_singleton.mp new] at sameId ⊢
      rw [s.db.jobs.eq_of_id_eq oldMember member (sameId.trans idCopied)]
      exact queueCopied.symm
  · refine ListFacts.pairwise_concat inv.exclusion fun e running => ?_
    cases mine : e.queueName with
    | none => exact .inl mine
    | some name =>
        refine .inr fun same => ?_
        rw [mine] at same
        obtain ⟨queue, queueMember, -, sameName, locked⟩ := inv.held e running name mine
        obtain ⟨other, otherMember, otherKey, otherName⟩ := named name same.symm
        have sameRow : queue = other :=
          s.db.jobQueues.eq_of_index_eq queueMember otherMember (by simp)
            (by rw [sameName, otherName])
        subst sameRow
        simp [unlocked queue otherMember otherKey] at locked

theorem send {i : Nat} {fault : Option ForeignError} (inv : QueuesHeld config s)
    (outlives : config.staleJobLockTimeout.asMicros ≤
      Timestamp.seconds (asI64 config.staleQueueLockTimeout.asSecs))
    (inTime : ExecutionsInTime config s) (sent : s.send i fault = some s') :
    QueuesHeld config s' := by
  obtain ⟨routine, rest, db, events, entry, answered, rfl⟩ := send_some sent
  have calls := inv.routines routine (List.mem_of_getElem? entry)
  cases routine with
  | done value => cases answered
  | fail error => cases answered
  | call op next =>
      obtain ⟨rfl, rfl, rfl⟩ := Client.send_call answered
      obtain ⟨releases, callsNext⟩ := calls
      have routines : ∀ r ∈ s.routines.set i (next (op.answer s.now fault s.db).1),
          r.Calls (ReleasesOf config) := by
        intro r member
        rcases List.mem_or_eq_of_mem_set member with old | rfl
        · exact inv.routines r old
        · exact callsNext _
      cases fault with
      | some error => exact ⟨routines, inv.held, inv.parallel, inv.queued, inv.exclusion⟩
      | none =>
          rcases releases with rfl | rfl
          · refine ⟨routines, ?_, inv.parallel, inv.queued, inv.exclusion⟩
            intro e running name serial
            obtain ⟨queue, member, key, sameName, locked⟩ := inv.held e running name serial
            refine ⟨queue, SerialTable.mem_update.mpr ⟨queue, member, ?_⟩, key, sameName, locked⟩
            -- the execution is in time, so its queue lock is not stale yet
            have young := inTime e running
            have fresh : lockedBefore (lockCutoff s.now
                (asI64 config.staleQueueLockTimeout.asSecs)) queue.lockedAt = false := by
              rw [locked]
              exact decide_eq_false (not_lt.mpr (Int.sub_le_of_sub_le (young.trans outlives)))
            rw [fresh, if_neg (by decide)]
          · refine ⟨routines, inv.held, inv.parallel, ?_, inv.exclusion⟩
            intro e running r newMember same
            obtain ⟨old, oldMember, rfl⟩ := SerialTable.mem_update.mp newMember
            split at same
            next stale =>
              rw [if_pos stale]
              exact inv.queued e running old oldMember same
            next held =>
              rw [if_neg held]
              exact inv.queued e running old oldMember same

/-- Every step of workers and releases while executions are in time. -/
theorem step {tables : CharTables} {a : Action} (inv : QueuesHeld config s)
    (outlives : config.staleJobLockTimeout.asMicros ≤
      Timestamp.seconds (asI64 config.staleQueueLockTimeout.asSecs))
    (allowed : SerialSteps config s a) (taken : s.step tables a = some s') :
    QueuesHeld config s' := by
  obtain ⟨among, inTime⟩ := allowed
  cases a with
  | advance micros =>
      obtain rfl := Option.some.inj taken
      exact ⟨inv.routines, inv.held, inv.parallel, inv.queued, inv.exclusion⟩
  | fetch worker jobId => exact inv.fetch taken
  | complete i => exact inv.complete taken
  | fail i error retryAt => exact inv.fail taken
  | send i fault => exact inv.send outlives inTime taken
  | start routine =>
      obtain rfl := Option.some.inj taken
      refine ⟨?_, inv.held, inv.parallel, inv.queued, inv.exclusion⟩
      intro r member
      rcases List.mem_append.mp member with old | new
      · exact inv.routines r old
      · rw [List.mem_singleton.mp new]
        rcases among with rfl | rfl
        · exact ⟨.inl rfl, fun reply => by cases reply <;> trivial⟩
        · exact ⟨.inr rfl, fun reply => by cases reply <;> trivial⟩
  | crash i => exact among.elim
  | jobFail i => exact among.elim
  | enqueue job => exact among.elim

end QueuesHeld

/-- Where the queue-lock timeout, in the whole seconds the release binds, is at least the
job-lock timeout, at most one job of a serial queue is executing in every state of every
run in which executions end in time. -/
theorem exclusion_of_outlives (tables : CharTables) {config : WorkerConfig}
    (outlives : config.staleJobLockTimeout.asMicros ≤
      Timestamp.seconds (asI64 config.staleQueueLockTimeout.asSecs))
    {now : Timestamp} {db : Database} {as : List Action} {s : Cluster}
    (path : Transition.Run (Cluster.step tables) (SerialSteps config) (initial now db) as s) :
    SerialExclusion s :=
  (path.invariant (fun _ _ _ inv allowed taken => QueuesHeld.step inv outlives allowed taken)
    (QueuesHeld.initial config now db)).exclusion

/-- A queue `"reports"` with two jobs. -/
def twoReports : Database :=
  let job := { singleAttempt with queueName := some "reports" }
  ((Database.fresh.addJob 0 job).2.addJob 0 job).2

/-- The first report is being worked on since the beginning. -/
def firstReport (now : Timestamp) (routines : List (Client Nat)) : Cluster :=
  { ((initial 0 twoReports).fetch "a" 1).get rfl with now := now, routines := routines }

/-- Its queue has been unlocked. -/
def unlockedReports (now : Timestamp) (routines : List (Client Nat)) : Cluster :=
  { firstReport now routines with
    db := { (firstReport now routines).db with
      jobQueues := (firstReport now routines).db.jobQueues.update (fun _ => true)
        JobQueueRow.unlock } }

/-- A release whose cutoff is behind the fetch unlocks the queue. -/
theorem send_firstReport (tables : CharTables) {now : Timestamp} {timeout : Duration}
    (stale : 0 < lockCutoff now (asI64 timeout.asSecs)) :
    ∃ count, Cluster.step tables (firstReport now [Client.releaseStaleQueueLocks timeout])
      (.send 0 none) = some (unlockedReports now [.done count]) := by
  have late : ∀ row ∈ (firstReport now []).db.jobQueues.rows,
      lockedBefore (lockCutoff now (asI64 timeout.asSecs)) row.lockedAt = true := by
    intro row member
    obtain rfl : row = ⟨1, "reports", some 0, some "a"⟩ := List.mem_singleton.mp member
    exact decide_eq_true stale
  have unlocked := SerialTable.update_congr (e := JobQueueRow.unlock) late
  refine ⟨((firstReport now []).db.staleQueues (lockCutoff now (asI64 timeout.asSecs))).length, ?_⟩
  exact congrArg (fun queues => some { firstReport now [.done _] with
    db := { (firstReport now []).db with jobQueues := queues } }) unlocked

/-- The second report, as it waits in the queue. -/
def secondReport : JobRow := (twoReports.jobs.get? 2).get rfl

/-- With the queue unlocked the second report is fetched. -/
theorem fetch_unlockedReports {now : Timestamp} (routines : List (Client Nat)) (due : 0 ≤ now) :
    ∃ s, (unlockedReports now routines).fetch "b" 2 = some s ∧ ¬ SerialExclusion s := by
  have taken : (unlockedReports now routines).db.getJob "b" now 2 =
      some ({ (JobRow.fetched "b" now).apply secondReport with taskIdentifier := "send_email" },
        (unlockedReports now routines).db.lockJob "b" now secondReport) := if_pos ⟨rfl, due, rfl⟩
  refine ⟨_, congrArg (Option.map _) taken, ?_⟩
  intro exclusive
  have apart := List.pairwise_pair.mp exclusive
  rcases apart with parallel | differ
  · cases parallel
  · exact differ rfl

/-- A configuration whose queue locks can become stale before executions have to end lets
two jobs of one serial queue execute at a time. -/
theorem exists_not_serialExclusion (tables : CharTables) {config : WorkerConfig}
    (short : Timestamp.seconds (asI64 config.staleQueueLockTimeout.asSecs) <
      config.staleJobLockTimeout.asMicros) :
    ∃ as s, Transition.Run (Cluster.step tables) (SerialSteps config) (initial 0 twoReports) as s ∧
      ¬ SerialExclusion s := by
  obtain ⟨micros, whole⟩ := Int.eq_ofNat_of_zero_le config.staleJobLockTimeout.asMicros_nonneg
  have stale : 0 < lockCutoff (0 + micros) (asI64 config.staleQueueLockTimeout.asSecs) := by
    rw [lockCutoff, Int.zero_add, ← whole]
    exact Int.sub_pos_of_lt short
  have inTime {s : Cluster} (running : s.running = (firstReport 0 []).running)
      (early : s.now ≤ config.staleJobLockTimeout.asMicros) : ExecutionsInTime config s := by
    intro e member
    rw [running] at member
    obtain rfl := List.mem_singleton.mp member
    exact (Int.sub_zero s.now).symm ▸ early
  have inside : (0 : Int) + micros ≤ config.staleJobLockTimeout.asMicros := by
    rw [whole, Int.zero_add]
  obtain ⟨count, sent⟩ := send_firstReport tables stale
  obtain ⟨s, again, broken⟩ := fetch_unlockedReports [.done count]
    (Int.add_nonneg (Int.le_refl 0) (Int.natCast_nonneg micros))
  let release := Client.releaseStaleQueueLocks config.staleQueueLockTimeout
  refine ⟨[.fetch "a" 1, .advance micros, .start release, .send 0 none, .fetch "b" 2], s, ?_,
    broken⟩
  have idle : ExecutionsInTime config (initial 0 twoReports) := fun e member =>
    absurd member List.not_mem_nil
  have fetched : Cluster.step tables (initial 0 twoReports) (.fetch "a" 1) =
      some (firstReport 0 []) := rfl
  have advanced : Cluster.step tables (firstReport 0 []) (.advance micros) =
      some (firstReport (0 + micros) []) := rfl
  have started : Cluster.step tables (firstReport (0 + micros) []) (.start release) =
      some (firstReport (0 + micros) [release]) := rfl
  refine .cons ⟨trivial, idle⟩ fetched ?_
  refine .cons ⟨trivial, inTime rfl config.staleJobLockTimeout.asMicros_nonneg⟩ advanced ?_
  refine .cons ⟨.inl rfl, inTime rfl inside⟩ started ?_
  refine .cons ⟨trivial, inTime rfl inside⟩ sent ?_
  exact .cons ⟨trivial, inTime rfl inside⟩ again (.nil s)

/-- In every state of every run in which executions end in time at most one job of a serial
queue is executing, exactly when the queue-lock timeout, in the whole seconds the release
binds, is at least the job-lock timeout. -/
theorem serialExclusion_iff (tables : CharTables) (config : WorkerConfig) :
    (∀ now db as s,
      Transition.Run (Cluster.step tables) (SerialSteps config) (initial now db) as s →
        SerialExclusion s) ↔
      config.staleJobLockTimeout.asMicros ≤
        Timestamp.seconds (asI64 config.staleQueueLockTimeout.asSecs) := by
  constructor
  · intro exclusive
    by_contra short
    obtain ⟨as, s, path, broken⟩ := exists_not_serialExclusion tables (Int.lt_of_not_ge short)
    exact broken (exclusive 0 twoReports as s path)
  · exact fun outlives now db as s path => exclusion_of_outlives tables outlives path

/-- The default configuration with a queue-lock timeout as long as that of job locks. -/
def evenTimeouts : WorkerConfig :=
  { WorkerConfig.default with staleQueueLockTimeout := defaultStaleJobLockTimeout }

/-- With equal timeouts a release after 301 seconds leaves the queue locked, and the second
job is fetched only after the first is done. -/
theorem serialExclusion_evenTimeouts :
    ∃ as s, Transition.Run (Cluster.step .ascii) (SerialSteps evenTimeouts)
        (initial 0 twoReports) as s ∧ s.running.length = 1 ∧ SerialExclusion s := by
  have path : Transition.Run (Cluster.step .ascii) (SerialSteps evenTimeouts)
      (initial 0 twoReports)
      [.fetch "a" 1, .advance 301000000,
        .start (Client.releaseStaleQueueLocks evenTimeouts.staleQueueLockTimeout), .send 0 none,
        .complete 0, .fetch "b" 2] _ :=
    .cons ⟨trivial, by decide⟩ rfl <| .cons ⟨trivial, by decide⟩ rfl <|
      .cons ⟨.inl rfl, by decide⟩ rfl <| .cons ⟨trivial, by decide⟩ rfl <|
        .cons ⟨trivial, by decide⟩ rfl <| .cons ⟨trivial, by decide⟩ rfl <| .nil _
  exact ⟨_, _, path, rfl, (serialExclusion_iff .ascii evenTimeouts).mpr (by decide) _ _ _ _ path⟩

/-- With the default timeouts the queue lock of an execution that is 301 seconds old is
released, and the second job of the queue starts next to it. -/
theorem default_breaks_serialExclusion :
    ∃ as s, Transition.Run (Cluster.step .ascii) (SerialSteps .default)
        (initial 0 twoReports) as s ∧ ExecutionsInTime .default s ∧ ¬ SerialExclusion s := by
  have path : Transition.Run (Cluster.step .ascii) (SerialSteps .default) (initial 0 twoReports)
      [.fetch "a" 1, .advance 301000000,
        .start (Client.releaseStaleQueueLocks WorkerConfig.default.staleQueueLockTimeout),
        .send 0 none, .fetch "b" 2] _ :=
    .cons ⟨trivial, by decide⟩ rfl <| .cons ⟨trivial, by decide⟩ rfl <|
      .cons ⟨.inl rfl, by decide⟩ rfl <| .cons ⟨trivial, by decide⟩ rfl <|
        .cons ⟨trivial, by decide⟩ rfl <| .nil _
  exact ⟨_, _, path, by decide, by decide⟩

end Cluster

end Backfill
