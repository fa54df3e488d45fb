import Backfill.Cluster.Rows
import Backfill.Misc.ListFacts

/-!
# No job is executed twice at once

Workers release each other's job locks once these are older than a timeout. As long as an
execution ends within the timeout of its fetch, or crashes, the row of its job keeps the lock
that was stamped by that fetch, whatever else happens to the queue; so nobody else can fetch
the job.
-/

namespace Backfill

namespace Cluster

/-- More than `timeout` has passed since the fetch. -/
def Overdue (timeout : Duration) (now : Timestamp) (e : Execution) : Prop :=
  e.startedAt + timeout.asMicros < now

/-- What workers configured with the job lock timeout `timeout` run besides their jobs, each
with a queue lock timeout of its own. -/
inductive WorkerRoutine (timeout : Duration) : Client Nat → Prop
  | dlqTick : WorkerRoutine timeout Client.processFailedJobs
  | startup (config : WorkerConfig) (same : config.staleJobLockTimeout = timeout) :
      WorkerRoutine timeout (Client.startupRoutine config)
  | cleanup (queueLockTimeout : Duration) :
      WorkerRoutine timeout (Client.staleLockCleanupRoutine queueLockTimeout timeout)

/-- Any step of such workers; the handler of an execution that is overdue does not return any
more, so all that can become of it is a crash. -/
def EndsInTime (timeout : Duration) (s : Cluster) : Action → Prop
  | .complete i | .fail i _ _ => ∀ e, s.running[i]? = some e → ¬ Overdue timeout s.now e
  | .start routine => WorkerRoutine timeout routine
  | _ => True

/-- The statement releases no job lock, or those that are older than `secs` seconds. -/
def ReleasesAfter (secs : Int) : Statement → Prop
  | .releaseJobLocks bound => bound = secs
  | _ => True

theorem releasesAfter_iff {secs bound : Int} :
    ReleasesAfter secs (.releaseJobLocks bound) ↔ bound = secs :=
  .rfl

/-- The statements such a worker sends besides its jobs. -/
theorem WorkerRoutine.calls {I : Statement → Prop} {timeout : Duration} {routine : Client Nat}
    (started : WorkerRoutine timeout routine) (scans : I .findFailedJobs)
    (moves : ∀ values, I (.moveFailedJob values)) (queues : ∀ secs, I (.releaseQueueLocks secs))
    (jobs : I (.releaseJobLocks (asI64 timeout.asSecs))) (deletes : I .deleteFailedJobs)
    (relation : I .dlqRelation) : routine.Calls I := by
  have moving : ∀ failed moved, (Client.moveFailedJobs failed moved).Calls I := by
    intro failed
    induction failed with
    | nil => exact fun _ => trivial
    | cons job failed ih =>
        refine fun moved => ⟨moves _, fun reply => ?_⟩
        cases reply <;> exact ih _
  have tick : Client.processFailedJobs.Calls I :=
    (Client.calls_query scans).bind fun failed => moving failed 0
  cases started with
  | dlqTick => exact tick
  | startup config same =>
      subst same
      refine Program.Calls.bind ?_ fun _ => trivial
      have cleanup : (Client.startupCleanupWithTimeouts config.staleQueueLockTimeout
          config.staleJobLockTimeout).Calls I :=
        Client.calls_startupCleanupWithTimeouts (queues _) jobs deletes relation
      unfold Client.startup
      split
      · exact tick.attempt.bind fun _ => cleanup.attempt.bind fun _ => trivial
      · exact cleanup.attempt.bind fun _ => trivial
  | cleanup queueLockTimeout =>
      refine Program.Calls.bind ?_ fun _ => trivial
      exact (Client.calls_query (queues _)).attempt.bind fun _ =>
        (Client.calls_query jobs).attempt.bind fun _ => trivial

/-- Every release of such a worker is bound to the seconds of the timeout. -/
theorem WorkerRoutine.releases {timeout : Duration} {routine : Client Nat}
    (started : WorkerRoutine timeout routine) :
    routine.Calls (ReleasesAfter (asI64 timeout.asSecs)) :=
  started.calls trivial (fun _ => trivial) (fun _ => trivial) (releasesAfter_iff.mpr rfl) trivial
    trivial

/-- The lock of every execution that is not overdue is the one its fetch has stamped. -/
structure LocksHeld (timeout : Duration) (s : Cluster) : Prop where
  calls : ∀ routine ∈ s.routines, routine.Calls (ReleasesAfter (asI64 timeout.asSecs))
  drawn : ∀ e ∈ s.running, e.job.id < s.db.jobs.nextId
  held : ∀ e ∈ s.running, ¬ Overdue timeout s.now e → ∀ row ∈ s.db.jobs.rows,
    row.id = e.job.id → row.lockedAt = some e.startedAt
  apart : s.running.Pairwise fun e e' =>
    ¬ Overdue timeout s.now e → ¬ Overdue timeout s.now e' → e.job.id ≠ e'.job.id

instance (timeout : Duration) (now : Timestamp) : Std.Symm fun e e' =>
    ¬ Overdue timeout now e → ¬ Overdue timeout now e' → e.job.id ≠ e'.job.id where
  symm _ _ apart inTime inTime' := (apart inTime' inTime).symm

namespace LocksHeld

variable {tables : CharTables} {timeout : Duration} {s s' : Cluster} {a : Action}
  {e : Execution} {row : JobRow}

theorem initial (timeout : Duration) (now : Timestamp) (db : Database) :
    LocksHeld timeout (initial now db) := by
  constructor <;> simp [Cluster.initial]

/-- A release with the timeout of an execution that is not overdue spares its lock. -/
theorem not_stale (whole : timeout.nanos = 0) (fits : timeout.secs < 2 ^ 63)
    {now : Timestamp} (inTime : ¬ Overdue timeout now e) :
    ¬ lockedBefore (lockCutoff now (asI64 timeout.asSecs)) (some e.startedAt) = true := by
  intro stale
  obtain ⟨taken, same, below⟩ := lockedBefore_iff.mp stale
  obtain rfl := Option.some.inj same
  have age := lt_lockCutoff_iff.mp below
  rw [Duration.asSecs, asI64_of_lt fits] at age
  have micros : timeout.asMicros = timeout.secs * 1000000 := by simp [Duration.asMicros, whole]
  exact inTime (Int.add_lt_of_lt_sub_left (micros ▸ age))

/-- Whatever a step does to the row of an execution that goes on, it leaves its lock. -/
theorem locked_step (whole : timeout.nanos = 0) (fits : timeout.secs < 2 ^ 63)
    (inv : LocksHeld timeout s) (taken : s.step tables a = some s') (running : e ∈ s.running)
    (inTime : ¬ Overdue timeout s.now e)
    (others : ∀ i error retryAt e', a = .fail i error retryAt → s.running[i]? = some e' →
      e'.job.id ≠ e.job.id)
    (member : row ∈ s'.db.jobs.rows) (same : row.id = e.job.id) :
    row.lockedAt = some e.startedAt := by
  rcases row_step taken member with ⟨old, oldMember, change⟩ | adds
  · have locked := inv.held e running inTime old oldMember (change.id_eq ▸ same)
    have busy : old.lockedAt ≠ none := by simp [locked]
    cases change with
    | kept => exact locked
    | fetched available => exact absurd (JobRow.isAvailable_iff.mp available).1 busy
    | failed entry key => exact absurd (key.symm.trans same) (others _ _ _ _ rfl entry)
    | superseded => exact locked
    | overwritten unlocked => exact absurd unlocked busy
    | answered sends change =>
        rcases change.lockedAt_eq with kept | ⟨secs, rfl, stale⟩
        · exact kept.trans locked
        · obtain ⟨routine, entry, sends⟩ := Option.bind_eq_some_iff.mp sends
          have calls := inv.calls routine (List.mem_of_getElem? entry)
          cases routine with
          | done value => cases sends
          | fail error => cases sends
          | call op next =>
              obtain rfl := Option.some.inj sends
              rw [releasesAfter_iff.mp calls.1, locked] at stale
              exact absurd stale (not_stale whole fits inTime)
  · have below := inv.drawn e running
    have drawn := adds.id_eq
    omega

/-- A step that starts no execution: some of those that were there go on. -/
theorem of_sublist (whole : timeout.nanos = 0) (fits : timeout.secs < 2 ^ 63)
    (inv : LocksHeld timeout s) (allowed : EndsInTime timeout s a)
    (taken : s.step tables a = some s') (later : s.now ≤ s'.now)
    (remain : s'.running.Sublist s.running)
    (others : ∀ i error retryAt e', a = .fail i error retryAt → s.running[i]? = some e' →
      ∀ e ∈ s'.running, ¬ Overdue timeout s.now e → e'.job.id ≠ e.job.id) :
    LocksHeld timeout s' := by
  have inTime : ∀ e, ¬ Overdue timeout s'.now e → ¬ Overdue timeout s.now e :=
    fun e current past => current (lt_of_lt_of_le past later)
  refine ⟨?_, ?_, ?_, ?_⟩
  · refine calls_step (fun _ _ => trivial) ?_ inv.calls taken
    rintro routine rfl
    exact WorkerRoutine.releases allowed
  · exact fun e running =>
      lt_of_lt_of_le (inv.drawn e (remain.subset running)) (nextId_step taken)
  · intro e running current row member same
    exact locked_step whole fits inv taken (remain.subset running) (inTime e current)
      (fun i error retryAt e' is entry => others i error retryAt e' is entry e running
        (inTime e current)) member same
  · exact (inv.apart.sublist remain).imp fun apart current current' =>
      apart (inTime _ current) (inTime _ current')

theorem fetch {worker : String} {jobId : Int} (whole : timeout.nanos = 0)
    (fits : timeout.secs < 2 ^ 63) (inv : LocksHeld timeout s)
    (taken : s.step tables (.fetch worker jobId) = some s') : LocksHeld timeout s' := by
  have kept : ∀ e ∈ s.running, ¬ Overdue timeout s.now e → ∀ row ∈ s'.db.jobs.rows,
      row.id = e.job.id → row.lockedAt = some e.startedAt := fun e running inTime row =>
    locked_step whole fits inv taken running inTime fun _ _ _ _ is => by cases is
  obtain ⟨found, foundMember, job, rfl, available, -, -, copied, rfl⟩ := fetch_some taken
  have idCopied : job.id = found.id := by rw [copied]; rfl
  have unlocked := (JobRow.isAvailable_iff.mp available).1
  refine ⟨inv.calls, ?_, ?_, ?_⟩
  · intro e running
    rcases List.mem_append.mp running with old | new
    · exact inv.drawn e old
    · rw [List.mem_singleton.mp new]
      exact idCopied ▸ s.db.jobs.id_lt found foundMember
  · intro e running inTime row member same
    rcases List.mem_append.mp running with old | new
    · exact kept e old inTime row member same
    · rw [List.mem_singleton.mp new] at same ⊢
      obtain ⟨old, oldMember, rfl⟩ := Database.mem_lockJob.mp member
      split at same
      next => simp [*, JobRow.fetched]
      next other => exact absurd (same.trans idCopied) other
  · refine ListFacts.pairwise_concat inv.apart fun e running inTime _ same => ?_
    -- the row of an execution that is not overdue is locked, the fetched one was not
    have locked := inv.held e running inTime found foundMember (same.trans idCopied).symm
    rw [unlocked] at locked
    cases locked

/-- Every step of workers whose executions end in time. -/
theorem step (whole : timeout.nanos = 0) (fits : timeout.secs < 2 ^ 63)
    (inv : LocksHeld timeout s) (allowed : EndsInTime timeout s a)
    (taken : s.step tables a = some s') : LocksHeld timeout s' := by
  cases a with
  | fetch worker jobId => exact inv.fetch whole fits taken
  | fail i error retryAt =>
      obtain ⟨ended, entry, rfl⟩ := Option.map_eq_some_iff.mp taken
      refine of_sublist whole fits inv allowed taken (le_refl _) (List.eraseIdx_sublist ..) ?_
      rintro _ _ _ e' ⟨⟩ entry' e left inTime
      exact ListFacts.related_of_mem_eraseIdx inv.apart entry' left (allowed e' entry') inTime
  | advance micros =>
      obtain rfl := Option.some.inj taken
      exact of_sublist whole fits inv allowed taken
        (Int.le_add_of_nonneg_right (Int.natCast_nonneg _)) (.refl _)
        (fun _ _ _ _ is => by cases is)
  | complete i | crash i =>
      obtain ⟨ended, entry, rfl⟩ := Option.map_eq_some_iff.mp taken
      exact of_sublist whole fits inv allowed taken (le_refl _) (List.eraseIdx_sublist ..)
        (fun _ _ _ _ is => by cases is)
  | jobFail i =>
      obtain ⟨ctx, entry, rfl⟩ := Option.map_eq_some_iff.mp taken
      exact of_sublist whole fits inv allowed taken (le_refl _) (.refl _)
        (fun _ _ _ _ is => by cases is)
  | enqueue job | start routine =>
      obtain rfl := Option.some.inj taken
      exact of_sublist whole fits inv allowed taken (le_refl _) (.refl _)
        (fun _ _ _ _ is => by cases is)
  | send i fault =>
      obtain ⟨op, next, entry, rfl⟩ := send_op taken
      exact of_sublist whole fits inv allowed taken (le_refl _) (.refl _)
        (fun _ _ _ _ is => by cases is)

end LocksHeld

/-- With any number of workers that share a job lock timeout of whole seconds, in every
interleaving: two running executions are of different jobs, unless one of them has outlived
the timeout. -/
theorem running_apart (tables : CharTables) {timeout : Duration} (whole : timeout.nanos = 0)
    (fits : timeout.secs < 2 ^ 63) {now : Timestamp} {db : Database} {as : List Action}
    {s : Cluster}
    (path : Transition.Run (Cluster.step tables) (EndsInTime timeout) (initial now db) as s) :
    s.running.Pairwise fun e e' =>
      e.job.id = e'.job.id → Overdue timeout s.now e ∨ Overdue timeout s.now e' := by
  have inv : LocksHeld timeout s :=
    path.invariant (fun _ _ _ inv allowed taken => inv.step whole fits allowed taken)
      (.initial timeout now db)
  refine inv.apart.imp fun {e e'} apart same => ?_
  by_contra current
  obtain ⟨inTime, inTime'⟩ := not_or.mp current
  exact apart inTime inTime' same

/-- The handler of job 1 hangs. An hour after its fetch a cleanup releases its lock and another
worker fetches the job as well; only then does the first worker crash, and the second returns in
time. -/
theorem hung_handler_doubled :
    ∃ as s rest s', Transition.Run (Cluster.step .ascii) (EndsInTime defaultStaleJobLockTimeout)
        (initial 0 (Database.fresh.addJob 0 { singleAttempt with maxAttempts := 2 }).2) as s ∧
      Transition.Run (Cluster.step .ascii) (EndsInTime defaultStaleJobLockTimeout) s rest s' ∧
      s'.running = [] ∧ s.running.map (fun e => (e.worker, e.job.id)) = [("first", 1), ("other", 1)]
    := by
  have path : Transition.Run (Cluster.step .ascii) (EndsInTime defaultStaleJobLockTimeout)
      (initial 0 (Database.fresh.addJob 0 { singleAttempt with maxAttempts := 2 }).2)
      [.fetch "first" 1, .advance 3600000001, .start (Client.staleLockCleanupRoutine
        defaultStaleQueueLockTimeout defaultStaleJobLockTimeout), .send 0 none, .send 0 none,
        .fetch "other" 1] _ :=
    .of_run (by simp [EndsInTime, WorkerRoutine.cleanup]) rfl
  refine ⟨_, _, [.crash 0, .complete 0], _, path,
    .cons trivial rfl (.cons ?_ rfl (.nil _)), rfl, rfl⟩
  rintro e ⟨⟩
  -- the second worker returns at the time of its own fetch
  exact not_lt.mpr (by decide)

/-- Half an hour after its fetch a job is still locked for a cleanup that runs between two
fetches. -/
theorem running_apart_across_cleanup :
    ∃ as s, Transition.Run (Cluster.step .ascii) (EndsInTime defaultStaleJobLockTimeout)
        (initial 0 ((Database.fresh.addJob 0 singleAttempt).2.addJob 0 singleAttempt).2) as s ∧
      s.running.length = 2 ∧ s.running.Pairwise fun e e' => e.job.id = e'.job.id →
        Overdue defaultStaleJobLockTimeout s.now e ∨
          Overdue defaultStaleJobLockTimeout s.now e' := by
  have path : Transition.Run (Cluster.step .ascii) (EndsInTime defaultStaleJobLockTimeout)
      (initial 0 ((Database.fresh.addJob 0 singleAttempt).2.addJob 0 singleAttempt).2)
      [.fetch "worker" 1, .advance 1800000000, .start (Client.staleLockCleanupRoutine
        defaultStaleQueueLockTimeout defaultStaleJobLockTimeout), .send 0 none, .send 0 none,
        .fetch "other" 2] _ :=
    .of_run (by simp [EndsInTime, WorkerRoutine.cleanup]) rfl
  exact ⟨_, _, path, rfl, running_apart .ascii rfl (by decide) path⟩

end Cluster

end Backfill
