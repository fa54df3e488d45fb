import Backfill.Cluster.DlqTick
import Backfill.Misc.ListFacts

/-!
# Captures of rows that a worker still holds

`get_job` counts an attempt when it is fetched, so a job that is running its last permitted
attempt is exhausted and locked. The scan of `process_failed_jobs` asks only for the first
of the two. Where it happens to return unlocked rows only, the capture is safe: an
exhausted unlocked row can be neither fetched nor revived before its move.
-/

namespace Backfill

namespace Cluster

/-- Workers that fetch, complete and fail jobs, and DLQ ticks. -/
def WorkersAndTicks : Action → Prop
  | .advance _ | .fetch _ _ | .complete _ | .fail _ _ _ | .send _ _ => True
  | .start routine => routine = Client.processFailedJobs
  | .crash _ | .jobFail _ | .enqueue _ => False

/-- No row the scan of `db` would return is locked. -/
def ScanFindsUnlocked (db : Database) : Prop :=
  ∀ row ∈ db.jobs.rows, row.id ∈ db.findFailedJobs.map FailedJob.id → row.lockedAt = none

instance (db : Database) : Decidable (ScanFindsUnlocked db) :=
  inferInstanceAs (Decidable (∀ row ∈ db.jobs.rows, _ → _))

/-- A step of workers and ticks whose scan, if it is one, returns unlocked rows only. -/
def UnlockedScans (s : Cluster) : Action → Prop
  | .send i _ => s.Sends i .findFailedJobs → ScanFindsUnlocked s.db
  | a => WorkersAndTicks a

/-- What workers and ticks keep as long as every scan returns unlocked rows only. -/
structure CapturesReleased (s : Cluster) : Prop where
  ticks : ∀ routine ∈ s.routines, DlqTick routine
  /-- a bound row that is still there is exhausted and nobody works on it -/
  pending : ∀ routine ∈ s.routines, ∀ values ∈ routine.pendingMoves, ∀ row ∈ s.db.jobs.rows,
    row.id = values.originalJobId → row.exhausted = true ∧ row.lockedAt = none
  locked : ∀ e ∈ s.running, ∀ row ∈ s.db.jobs.rows, row.id = e.job.id → row.lockedAt ≠ none
  distinct : s.running.Pairwise fun e e' => e.job.id ≠ e'.job.id
  /-- a captured row was unlocked and its id is out of circulation -/
  captured : ∀ row record, .captured row record ∈ s.history → row.lockedAt = none ∧
    (∀ r ∈ s.db.jobs.rows, r.id ≠ row.id) ∧ ∀ e ∈ s.running, e.job.id ≠ row.id
  succeeded : ∀ job, .succeeded job ∈ s.history → ∀ r ∈ s.db.jobs.rows, r.id ≠ job.id
  apart : ∀ row record job, .captured row record ∈ s.history → .succeeded job ∈ s.history →
    row.id ≠ job.id

instance : Std.Symm fun e e' : Execution => e.job.id ≠ e'.job.id where
  symm _ _ := Ne.symm

namespace CapturesReleased

variable {s s' : Cluster}

theorem initial (now : Timestamp) (db : Database) : CapturesReleased (initial now db) := by
  constructor <;> simp [Cluster.initial]

theorem fetch {worker : String} {jobId : Int} (inv : CapturesReleased s)
    (fetched : s.fetch worker jobId = some s') : CapturesReleased s' := by
  obtain ⟨row, member, job, rfl, available, -, -, copied, rfl⟩ := fetch_some fetched
  obtain ⟨unlocked, left⟩ := JobRow.isAvailable_iff.mp available
  have idCopied : job.id = row.id := by rw [copied]; rfl
  have idle : ∀ e ∈ s.running, e.job.id ≠ row.id := fun e running same =>
    inv.locked e running row member same.symm unlocked
  refine ⟨inv.ticks, ?_, ?_, ?_, ?_, ?_, inv.apart⟩
  · intro routine started values bound r newMember same
    obtain ⟨old, oldMember, rfl⟩ := Database.mem_lockJob.mp newMember
    split at same
    next key =>
      -- the fetched row is available, a bound one is exhausted
      have spent := (inv.pending routine started values bound old oldMember same).1
      rw [s.db.jobs.eq_of_id_eq oldMember member key, JobRow.exhausted_iff] at spent
      omega
    next other =>
      rw [if_neg other]
      exact inv.pending routine started values bound old oldMember same
  · intro e running r newMember same
    obtain ⟨old, oldMember, rfl⟩ := Database.mem_lockJob.mp newMember
    split at same
    next key => simp [key, JobRow.fetched]
    next other =>
      rw [if_neg other]
      rcases List.mem_append.mp running with before | new
      · exact inv.locked e before old oldMember same
      · rw [List.mem_singleton.mp new] at same
        exact absurd (same.trans idCopied) other
  · exact ListFacts.pairwise_concat inv.distinct fun e running => idCopied ▸ idle e running
  · intro capturedRow record remembered
    obtain ⟨released, absent, inactive⟩ := inv.captured capturedRow record remembered
    refine ⟨released, ?_, ?_⟩
    · intro r newMember
      obtain ⟨old, oldMember, rfl⟩ := Database.mem_lockJob.mp newMember
      split <;> exact absent old oldMember
    · intro e running
      rcases List.mem_append.mp running with before | new
      · exact inactive e before
      · rw [List.mem_singleton.mp new]
        exact idCopied ▸ absent row member
  · intro done remembered r newMember
    obtain ⟨old, oldMember, rfl⟩ := Database.mem_lockJob.mp newMember
    split <;> exact inv.succeeded done remembered old oldMember

theorem complete {i : Nat} (inv : CapturesReleased s) (completed : s.complete i = some s') :
    CapturesReleased s' := by
  obtain ⟨e, entry, rfl⟩ := Option.map_eq_some_iff.mp completed
  have running := List.mem_of_getElem? entry
  refine ⟨inv.ticks, ?_, ?_, ListFacts.pairwise_eraseIdx inv.distinct, ?_, ?_, ?_⟩
  · intro routine started values bound r newMember
    exact inv.pending routine started values bound r (Database.mem_completeJob.mp newMember).1
  · intro other left r newMember
    exact inv.locked other (List.mem_of_mem_eraseIdx left) r
      (Database.mem_completeJob.mp newMember).1
  · intro row record remembered
    obtain ⟨released, absent, inactive⟩ := inv.captured row record (by simpa using remembered)
    exact ⟨released, fun r newMember => absent r (Database.mem_completeJob.mp newMember).1,
      fun other left => inactive other (List.mem_of_mem_eraseIdx left)⟩
  · intro job remembered r newMember
    obtain ⟨oldMember, other⟩ := Database.mem_completeJob.mp newMember
    rcases List.mem_append.mp remembered with before | new
    · exact inv.succeeded job before r oldMember
    · obtain rfl : job = e.job := by simpa using new
      exact other
  · intro row record job capture success
    have before : Event.captured row record ∈ s.history := by simpa using capture
    rcases List.mem_append.mp success with earlier | new
    · exact inv.apart row record job before earlier
    · obtain rfl : job = e.job := by simpa using new
      exact ((inv.captured row record before).2.2 e running).symm

theorem fail {i : Nat} {error : String} {retryAt : Timestamp} (inv : CapturesReleased s)
    (failed : s.fail i error retryAt = some s') : CapturesReleased s' := by
  obtain ⟨e, entry, rfl⟩ := Option.map_eq_some_iff.mp failed
  refine ⟨inv.ticks, ?_, ?_, ListFacts.pairwise_eraseIdx inv.distinct, ?_, ?_, inv.apart⟩
  · intro routine started values bound r newMember same
    obtain ⟨old, oldMember, rfl | ⟨key, held, rfl⟩⟩ := Database.of_mem_failJob newMember
    · exact inv.pending routine started values bound r oldMember same
    · exact ⟨(inv.pending routine started values bound old oldMember same).1, rfl⟩
  · intro other left r newMember same
    obtain ⟨old, oldMember, rfl | ⟨key, held, rfl⟩⟩ := Database.of_mem_failJob newMember
    · exact inv.locked other (List.mem_of_mem_eraseIdx left) r oldMember same
    · -- the unlocked row is that of the execution that has just ended
      exact absurd (key.symm.trans same)
        (ListFacts.related_of_mem_eraseIdx inv.distinct entry left)
  · intro row record remembered
    obtain ⟨released, absent, inactive⟩ := inv.captured row record remembered
    refine ⟨released, ?_, fun other left => inactive other (List.mem_of_mem_eraseIdx left)⟩
    intro r newMember
    obtain ⟨old, oldMember, rfl | ⟨key, held, rfl⟩⟩ := Database.of_mem_failJob newMember
    · exact absent r oldMember
    · exact absent old oldMember
  · intro job remembered r newMember
    obtain ⟨old, oldMember, rfl | ⟨key, held, rfl⟩⟩ := Database.of_mem_failJob newMember
    · exact inv.succeeded job remembered r oldMember
    · exact inv.succeeded job remembered old oldMember

theorem send {i : Nat} {fault : Option ForeignError} (inv : CapturesReleased s)
    (scan : s.Sends i .findFailedJobs → ScanFindsUnlocked s.db)
    (sent : s.send i fault = some s') : CapturesReleased s' := by
  obtain ⟨routine, rest, db, events, entry, answered, rfl⟩ := send_some sent
  have started := List.mem_of_getElem? entry
  obtain ⟨tick, effect⟩ := (inv.ticks routine started).send answered
  have ticks : ∀ r ∈ s.routines.set i rest, DlqTick r := by
    intro r member
    rcases List.mem_or_eq_of_mem_set member with old | rfl
    · exact inv.ticks r old
    · exact tick
  cases effect with
  | scanned sends bound =>
      refine ⟨ticks, ?_, inv.locked, inv.distinct, by simpa using inv.captured,
        by simpa using inv.succeeded, by simpa using inv.apart⟩
      intro r member values pending row rowMember same
      rcases List.mem_or_eq_of_mem_set member with old | rfl
      · exact inv.pending r old values pending row rowMember same
      · rw [bound] at pending
        obtain ⟨job, scanned, rfl⟩ := List.mem_map.mp pending
        obtain ⟨found, foundMember, failed, -, joined⟩ := Database.of_mem_findFailedJobs scanned
        have key := Database.failedJob?_id joined
        obtain rfl := s.db.jobs.eq_of_id_eq rowMember foundMember (same.trans key)
        refine ⟨JobRow.exhausted_iff.mpr (JobRow.failed_iff.mp failed).1, ?_⟩
        exact scan (by simp [Sends, entry, sends]) row rowMember
          (List.mem_map.mpr ⟨job, scanned, key⟩)
  | skipped left =>
      refine ⟨ticks, ?_, inv.locked, inv.distinct, by simpa using inv.captured,
        by simpa using inv.succeeded, by simpa using inv.apart⟩
      intro r member values pending
      rcases List.mem_or_eq_of_mem_set member with old | rfl
      · exact inv.pending r old values pending
      · exact inv.pending routine started values (left pending)
  | moved values row table next member key present =>
      have remaining : ∀ r, r ∈ (s.db.moved s.now values table).jobs.rows ↔
          r ∈ s.db.jobs.rows ∧ r.id ≠ row.id := by
        simp [Database.moved, key]
      obtain ⟨-, released⟩ := inv.pending routine started values (by simp [next]) row member key
      have idle : ∀ e ∈ s.running, e.job.id ≠ row.id := fun e running same =>
        inv.locked e running row member same.symm released
      refine ⟨ticks, ?_, ?_, inv.distinct, ?_, ?_, ?_⟩
      · intro r rMember values' pending row' rowMember
        have before := ((remaining row').mp rowMember).1
        rcases List.mem_or_eq_of_mem_set rMember with old | rfl
        · exact inv.pending r old values' pending row' before
        · exact inv.pending routine started values' (by simp [next, pending]) row' before
      · exact fun e running r rMember => inv.locked e running r ((remaining r).mp rMember).1
      · intro row' record remembered
        rcases List.mem_append.mp remembered with before | new
        · obtain ⟨released', absent, inactive⟩ := inv.captured row' record before
          exact ⟨released', fun r rMember => absent r ((remaining r).mp rMember).1, inactive⟩
        · obtain ⟨rfl, rfl⟩ : row' = row ∧ record = values.upsertedIn table s.now := by
            simpa using new
          exact ⟨released, fun r rMember => ((remaining r).mp rMember).2, idle⟩
      · intro job remembered r rMember
        exact inv.succeeded job (by simpa using remembered) r ((remaining r).mp rMember).1
      · intro row' record job capture success
        have before : Event.succeeded job ∈ s.history := by simpa using success
        rcases List.mem_append.mp capture with earlier | new
        · exact inv.apart row' record job earlier before
        · obtain ⟨rfl, rfl⟩ : row' = row ∧ record = values.upsertedIn table s.now := by
            simpa using new
          exact inv.succeeded job before row' member

/-- Every step of workers and ticks keeps the invariant. -/
theorem step {tables : CharTables} {a : Action} (inv : CapturesReleased s)
    (allowed : UnlockedScans s a) (taken : s.step tables a = some s') : CapturesReleased s' := by
  cases a with
  | advance micros =>
      obtain rfl := Option.some.inj taken
      exact ⟨inv.ticks, inv.pending, inv.locked, inv.distinct, inv.captured, inv.succeeded,
        inv.apart⟩
  | fetch worker jobId => exact inv.fetch taken
  | complete i => exact inv.complete taken
  | fail i error retryAt => exact inv.fail taken
  | start routine =>
      obtain rfl := Option.some.inj taken
      obtain rfl : routine = Client.processFailedJobs := allowed
      refine ⟨?_, ?_, inv.locked, inv.distinct, inv.captured, inv.succeeded, inv.apart⟩
      · intro r member
        rcases List.mem_append.mp member with old | new
        · exact inv.ticks r old
        · exact List.mem_singleton.mp new ▸ .scan
      · intro r member values pending
        rcases List.mem_append.mp member with old | new
        · exact inv.pending r old values pending
        · rw [List.mem_singleton.mp new] at pending
          cases pending
  | send i fault => exact inv.send allowed taken
  | crash i => exact allowed.elim
  | jobFail i => exact allowed.elim
  | enqueue job => exact allowed.elim

end CapturesReleased

/-- With workers and any number of ticks, as long as no scan returns a locked row: every
captured row was unlocked, no captured job is being executed, and no captured job ever
succeeds. -/
theorem captured_released (tables : CharTables) {now : Timestamp} {db : Database}
    {as : List Action} {s : Cluster}
    (path : Transition.Run (step tables) UnlockedScans (initial now db) as s) :
    (∀ row record, .captured row record ∈ s.history →
      row.lockedAt = none ∧ ∀ e ∈ s.running, e.job.id ≠ row.id) ∧
    ∀ row record job, .captured row record ∈ s.history → .succeeded job ∈ s.history →
      row.id ≠ job.id := by
  have inv : CapturesReleased s :=
    path.invariant (fun _ _ _ inv allowed taken => inv.step allowed taken) (.initial now db)
  refine ⟨fun row record remembered => ?_, inv.apart⟩
  obtain ⟨released, -, inactive⟩ := inv.captured row record remembered
  exact ⟨released, inactive⟩

/-- A job that fails its only attempt is unlocked when the tick finds it. -/
theorem captured_released_after_failure :
    ∃ as s row record, Transition.Run (step .ascii) UnlockedScans
        (initial 0 (Database.fresh.addJob 0 singleAttempt).2) as s ∧
      .captured row record ∈ s.history ∧ row.lockedAt = none := by
  have path : Transition.Run (step .ascii) UnlockedScans
      (initial 0 (Database.fresh.addJob 0 singleAttempt).2)
      [.fetch "worker" 1, .fail 0 "boom" 1, .start Client.processFailedJobs, .send 0 none,
        .send 0 none] _ :=
    .cons trivial rfl <| .cons trivial rfl <| .cons rfl rfl <|
      .cons (fun _ => by decide) rfl <| .cons (fun _ => by decide) rfl <| .nil _
  exact ⟨_, _, _, _, path, .head _, ((captured_released .ascii path).1 _ _ (.head _)).1⟩

/-- A tick between the fetch and the completion of the last attempt captures the row that is
being worked on, and the attempt then succeeds. -/
theorem running_attempt_captured :
    ∃ as s, Transition.Run (step .ascii) (fun _ a => WorkersAndTicks a)
        (initial 0 (Database.fresh.addJob 0 singleAttempt).2) as s ∧
      ∃ row record job, .captured row record ∈ s.history ∧ row.lockedAt ≠ none ∧
        .succeeded job ∈ s.history ∧ job.id = row.id := by
  refine ⟨[.fetch "worker" 1, .start Client.processFailedJobs, .send 0 none, .send 0 none,
    .complete 0], _, .of_run ?_ rfl, _, _, _, .head _, ?_, .tail _ (.head _), rfl⟩
  · simp [WorkersAndTicks]
  · nofun

end Cluster

end Backfill
