import Backfill.Admin.Locks

/-!
# Which locks a timeout releases

A release binds `timeout.as_secs() as i64`, so what it compares the age of a lock with is the
timeout cut down to whole seconds and read as a signed number. Where that is the timeout
that was asked for, nothing younger is released; where it is not, some younger lock is.
-/

namespace Backfill

/-- A lock that was taken longer than `nanos` nanoseconds ago. -/
def OlderThan (now : Timestamp) (nanos : Nat) (lockedAt : Option Timestamp) : Prop :=
  ∃ taken, lockedAt = some taken ∧ (nanos : Int) < (now - taken) * 1000

/-- The lock of a queue row of `before` is released in `after`. -/
def ReleasesQueue (before after : Database) (row : JobQueueRow) : Prop :=
  row ∈ before.jobQueues.rows ∧ row.lockedAt ≠ none ∧
    ∃ r ∈ after.jobQueues.rows, r.id = row.id ∧ r.lockedAt = none

/-- The lock of a job row of `before` is released in `after`. -/
def ReleasesJob (before after : Database) (row : JobRow) : Prop :=
  row ∈ before.jobs.rows ∧ row.lockedAt ≠ none ∧
    ∃ r ∈ after.jobs.rows, r.id = row.id ∧ r.lockedAt = none

/-- What an update that unlocks the rows locked before `cutoff` does to one of them. -/
theorem unlocked_iff {cutoff : Timestamp} {lockedAt : Option Timestamp} (held : lockedAt ≠ none) :
    (if lockedBefore cutoff lockedAt then none else lockedAt) = none ↔
      lockedBefore cutoff lockedAt = true := by
  split
  next stale => simp [stale]
  next fresh => simp [fresh, held]

/-- An update that unlocks stale queue rows releases exactly those. -/
theorem releasesQueue_iff {db : Database} {cutoff : Timestamp} {row : JobQueueRow} :
    ReleasesQueue db (db.releasedQueues cutoff) row ↔
      row ∈ db.jobQueues.rows ∧ lockedBefore cutoff row.lockedAt = true := by
  constructor
  · rintro ⟨member, held, r, rMember, same, unlocked⟩
    obtain ⟨old, oldMember, rfl⟩ := SerialTable.mem_update.mp rMember
    have key : old.id = row.id := by
      split at same <;> exact same
    obtain rfl := db.jobQueues.eq_of_id_eq oldMember member key
    refine ⟨member, (unlocked_iff held).mp ?_⟩
    rw [← unlocked]
    split <;> rfl
  · rintro ⟨member, stale⟩
    have held : row.lockedAt ≠ none := by
      obtain ⟨taken, locked, -⟩ := lockedBefore_iff.mp stale
      simp [locked]
    refine ⟨member, held, JobQueueRow.unlock.apply row, ?_, rfl, rfl⟩
    exact SerialTable.mem_update.mpr ⟨row, member, (if_pos stale).symm⟩

/-- An update that unlocks stale job rows releases exactly those. -/
theorem releasesJob_iff {db : Database} {cutoff : Timestamp} {row : JobRow} :
    ReleasesJob db (db.releasedJobs cutoff) row ↔
      row ∈ db.jobs.rows ∧ lockedBefore cutoff row.lockedAt = true := by
  constructor
  · rintro ⟨member, held, r, rMember, same, unlocked⟩
    obtain ⟨old, oldMember, rfl⟩ := SerialTable.mem_update.mp rMember
    have key : old.id = row.id := by
      split at same <;> exact same
    obtain rfl := db.jobs.eq_of_id_eq oldMember member key
    refine ⟨member, (unlocked_iff held).mp ?_⟩
    rw [← unlocked]
    split <;> rfl
  · rintro ⟨member, stale⟩
    have held : row.lockedAt ≠ none := by
      obtain ⟨taken, locked, -⟩ := lockedBefore_iff.mp stale
      simp [locked]
    refine ⟨member, held, JobRow.unlock.apply row, ?_, rfl, rfl⟩
    exact SerialTable.mem_update.mpr ⟨row, member, (if_pos stale).symm⟩

namespace Session

/-- A release with this timeout releases only locks that are older than `nanos`. -/
def ReleasesOnlyOlder (timeout : Duration) (nanos : Nat) : Prop :=
  ∀ session : Session,
    (∀ row, ReleasesQueue session.db
        (session.run (Client.releaseStaleQueueLocks timeout)).2.db row →
      OlderThan (session.upcoming 0).now nanos row.lockedAt) ∧
    ∀ row, ReleasesJob session.db (session.run (Client.releaseStaleJobLocks timeout)).2.db row →
      OlderThan (session.upcoming 0).now nanos row.lockedAt

/-- What `timeout` releases, `smaller` releases, too. -/
def ReleasesNoMore (smaller timeout : Duration) : Prop :=
  ∀ session : Session, session.Calm →
    (∀ row, ReleasesQueue session.db
        (session.run (Client.releaseStaleQueueLocks timeout)).2.db row →
      ReleasesQueue session.db
        (session.run (Client.releaseStaleQueueLocks smaller)).2.db row) ∧
    ∀ row, ReleasesJob session.db (session.run (Client.releaseStaleJobLocks timeout)).2.db row →
      ReleasesJob session.db (session.run (Client.releaseStaleJobLocks smaller)).2.db row

/-- A release that is not refused unlocks what is stale by its bound seconds. -/
theorem run_releaseStaleQueueLocks {session : Session} {timeout : Duration}
    (accepted : session.Accepts 0 (.releaseQueueLocks (asI64 timeout.asSecs))) :
    (session.run (Client.releaseStaleQueueLocks timeout)).2.db =
      session.db.releasedQueues (lockCutoff (session.upcoming 0).now (asI64 timeout.asSecs)) := by
  simp only [run, Client.releaseStaleQueueLocks, Client.query, Program.run_call,
    exec_accepted accepted]
  rfl

theorem run_releaseStaleJobLocks {session : Session} {timeout : Duration}
    (accepted : session.Accepts 0 (.releaseJobLocks (asI64 timeout.asSecs))) :
    (session.run (Client.releaseStaleJobLocks timeout)).2.db =
      session.db.releasedJobs (lockCutoff (session.upcoming 0).now (asI64 timeout.asSecs)) := by
  simp only [run, Client.releaseStaleJobLocks, Client.query, Program.run_call,
    exec_accepted accepted]
  rfl

/-- A refused release leaves every lock alone, so what is released was stale. -/
theorem stale_of_releasesQueue {session : Session} {timeout : Duration} {row : JobQueueRow}
    (released : ReleasesQueue session.db
      (session.run (Client.releaseStaleQueueLocks timeout)).2.db row) :
    row ∈ session.db.jobQueues.rows ∧ lockedBefore
      (lockCutoff (session.upcoming 0).now (asI64 timeout.asSecs)) row.lockedAt = true := by
  cases fault : (session.upcoming 0).fault (.releaseQueueLocks (asI64 timeout.asSecs)) with
  | none =>
      rw [run_releaseStaleQueueLocks fault] at released
      exact releasesQueue_iff.mp released
  | some error =>
      simp only [run, Client.releaseStaleQueueLocks, Client.query, Program.run_call,
        exec_refused fault, Program.run_fail, after] at released
      obtain ⟨member, held, r, rMember, same, unlocked⟩ := released
      obtain rfl := session.db.jobQueues.eq_of_id_eq rMember member same
      exact absurd unlocked held

theorem stale_of_releasesJob {session : Session} {timeout : Duration} {row : JobRow}
    (released : ReleasesJob session.db
      (session.run (Client.releaseStaleJobLocks timeout)).2.db row) :
    row ∈ session.db.jobs.rows ∧ lockedBefore
      (lockCutoff (session.upcoming 0).now (asI64 timeout.asSecs)) row.lockedAt = true := by
  cases fault : (session.upcoming 0).fault (.releaseJobLocks (asI64 timeout.asSecs)) with
  | none =>
      rw [run_releaseStaleJobLocks fault] at released
      exact releasesJob_iff.mp released
  | some error =>
      simp only [run, Client.releaseStaleJobLocks, Client.query, Program.run_call,
        exec_refused fault, Program.run_fail, after] at released
      obtain ⟨member, held, r, rMember, same, unlocked⟩ := released
      obtain rfl := session.db.jobs.eq_of_id_eq rMember member same
      exact absurd unlocked held

/-- One queue, locked at `taken`. -/
def queueLocked (taken : Timestamp) : Database :=
  let db := Database.fresh.withJobQueue "reports"
  { db with jobQueues := db.jobQueues.update (fun _ => true) (JobQueueRow.lock "worker" taken) }

/-- The row of `queueLocked taken`. -/
def lockedQueue (taken : Timestamp) : JobQueueRow where
  id := 1
  queueName := "reports"
  lockedAt := some taken
  lockedBy := some "worker"

theorem releases_lockedQueue_iff {taken : Timestamp} {timeout : Duration} :
    ReleasesQueue (queueLocked taken) ((undisturbed 0 (queueLocked taken)).run
        (Client.releaseStaleQueueLocks timeout)).2.db (lockedQueue taken) ↔
      asI64 timeout.asSecs * 1000000 < 0 - (taken : Int) := by
  have accepted : (undisturbed 0 (queueLocked taken)).Accepts 0
    (.releaseQueueLocks (asI64 timeout.asSecs)) := rfl
  have member : lockedQueue taken ∈ (queueLocked taken).jobQueues.rows := .head _
  rw [run_releaseStaleQueueLocks accepted]
  refine releasesQueue_iff.trans ⟨fun released => ?_, fun below => ⟨member, ?_⟩⟩
  · obtain ⟨_, same, below⟩ := lockedBefore_iff.mp released.2
    obtain rfl := Option.some.inj same
    exact lt_lockCutoff_iff.mp below
  · exact lockedBefore_iff.mpr ⟨taken, rfl, lt_lockCutoff_iff.mpr below⟩

/-- Only older locks are released exactly when the youngest lock the bound seconds release,
one microsecond older than they are, is older. -/
theorem releasesOnlyOlder_iff_lt (timeout : Duration) (nanos : Nat) :
    ReleasesOnlyOlder timeout nanos ↔
      (nanos : Int) < (asI64 timeout.asSecs * 1000000 + 1) * 1000 := by
  constructor
  · intro onlyOlder
    have youngest := (onlyOlder (undisturbed 0
      (queueLocked (-(asI64 timeout.asSecs * 1000000 + 1))))).1
    obtain ⟨taken, same, older⟩ := youngest _ (releases_lockedQueue_iff.mpr (by omega))
    obtain rfl := Option.some.inj same
    simpa [undisturbed] using older
  · intro bound session
    have older : ∀ lockedAt, lockedBefore (lockCutoff (session.upcoming 0).now
        (asI64 timeout.asSecs)) lockedAt = true →
        OlderThan (session.upcoming 0).now nanos lockedAt := by
      intro lockedAt stale
      obtain ⟨taken, rfl, below⟩ := lockedBefore_iff.mp stale
      have age := lt_lockCutoff_iff.mp below
      exact ⟨taken, rfl, by omega⟩
    exact ⟨fun row released => older _ (stale_of_releasesQueue released).2,
      fun row released => older _ (stale_of_releasesJob released).2⟩

/-- What counts for two timeouts is the order of their bound seconds. -/
theorem releasesNoMore_iff (smaller timeout : Duration) :
    ReleasesNoMore smaller timeout ↔ asI64 smaller.asSecs ≤ asI64 timeout.asSecs := by
  constructor
  · intro noMore
    have youngest := (noMore (undisturbed 0
      (queueLocked (-(asI64 timeout.asSecs * 1000000 + 1)))) fun _ _ => rfl).1
    have below := releases_lockedQueue_iff.mp (youngest _ (releases_lockedQueue_iff.mpr (by omega)))
    omega
  · intro ordered session calm
    have weaker : ∀ lockedAt, lockedBefore (lockCutoff (session.upcoming 0).now
        (asI64 timeout.asSecs)) lockedAt = true → lockedBefore (lockCutoff
          (session.upcoming 0).now (asI64 smaller.asSecs)) lockedAt = true := by
      intro lockedAt stale
      obtain ⟨taken, rfl, below⟩ := lockedBefore_iff.mp stale
      have age := lt_lockCutoff_iff.mp below
      exact lockedBefore_iff.mpr ⟨taken, rfl, lt_lockCutoff_iff.mpr (by omega)⟩
    constructor
    · intro row released
      obtain ⟨member, stale⟩ := stale_of_releasesQueue released
      rw [run_releaseStaleQueueLocks (calm 0 _)]
      exact releasesQueue_iff.mpr ⟨member, weaker _ stale⟩
    · intro row released
      obtain ⟨member, stale⟩ := stale_of_releasesJob released
      rw [run_releaseStaleJobLocks (calm 0 _)]
      exact releasesJob_iff.mpr ⟨member, weaker _ stale⟩

/-- A release honours the timeout it is asked for: it releases only older locks, and nothing
that a release with a smaller timeout keeps. -/
structure Honours (timeout : Duration) (nanos : Nat) (smaller : Duration → Prop) : Prop where
  onlyOlder : ReleasesOnlyOlder timeout nanos
  noMore : ∀ d, smaller d → ReleasesNoMore d timeout

/-- A timeout is honoured when it has no fraction of a second that the clock could tell and its
seconds fit into an `i64`. -/
theorem honours_duration_iff {timeout : Duration} :
    Honours timeout timeout.asNanos (fun d => d.asNanos ≤ timeout.asNanos) ↔
      timeout.secs < 2 ^ 63 ∧ timeout.nanos < 1000 := by
  constructor
  · rintro ⟨onlyOlder, -⟩
    have bound := (releasesOnlyOlder_iff_lt _ _).mp onlyOlder
    unfold Duration.asSecs Duration.asNanos at bound
    have whole := timeout.secs_lt
    by_cases fits : timeout.secs < 2 ^ 63
    · rw [asI64_of_lt fits] at bound
      omega
    · rw [asI64_of_le (not_lt.mp fits) whole] at bound
      omega
  · rintro ⟨fits, fine⟩
    refine ⟨(releasesOnlyOlder_iff_lt _ _).mpr ?_, fun d shorter => ?_⟩
    · unfold Duration.asSecs Duration.asNanos
      rw [asI64_of_lt fits]
      omega
    · unfold Duration.asNanos at shorter
      have fraction := timeout.nanos_lt
      have below : d.secs ≤ timeout.secs := by omega
      rw [releasesNoMore_iff, Duration.asSecs, Duration.asSecs, asI64_of_lt fits,
        asI64_of_lt (lt_of_le_of_lt below fits)]
      exact_mod_cast below

/-- The seconds of a threshold, multiplied in 64 bits. -/
theorem asSecs_minutesDuration (minutes : UInt64) :
    (minutesDuration minutes).asSecs = minutes.toNat * 60 % 2 ^ 64 :=
  UInt64.toNat_mul minutes 60

/-- A threshold in minutes is honoured when its seconds fit. -/
theorem honours_minutes_iff {minutes : UInt64} :
    Honours (minutesDuration minutes) (minutes.toNat * 60 * 10 ^ 9)
      (fun d => ∃ m ≤ minutes, d = minutesDuration m) ↔ minutes.toNat * 60 < 2 ^ 63 := by
  constructor
  · rintro ⟨onlyOlder, -⟩
    have bound := (releasesOnlyOlder_iff_lt _ _).mp onlyOlder
    rw [asSecs_minutesDuration] at bound
    by_contra over'
    by_cases fits : minutes.toNat * 60 % 2 ^ 64 < 2 ^ 63
    · rw [asI64_of_lt fits] at bound
      omega
    · rw [asI64_of_le (not_lt.mp fits) (Nat.mod_lt _ (by decide))] at bound
      omega
  · intro fits
    refine ⟨(releasesOnlyOlder_iff_lt _ _).mpr ?_, ?_⟩
    · rw [asSecs_minutesDuration, Nat.mod_eq_of_lt (by omega), asI64_of_lt fits]
      omega
    · rintro _ ⟨m, fewer, rfl⟩
      have below : m.toNat ≤ minutes.toNat := fewer
      rw [releasesNoMore_iff, asSecs_minutesDuration, asSecs_minutesDuration,
        Nat.mod_eq_of_lt (by omega), Nat.mod_eq_of_lt (by omega), asI64_of_lt (by omega),
        asI64_of_lt fits]
      omega

/-- What a release honours, of a timeout and of a threshold in minutes. -/
theorem honours_iff (timeout : Duration) (minutes : UInt64) :
    (Honours timeout timeout.asNanos (fun d => d.asNanos ≤ timeout.asNanos) ↔
      timeout.secs < 2 ^ 63 ∧ timeout.nanos < 1000) ∧
    (Honours (minutesDuration minutes) (minutes.toNat * 60 * 10 ^ 9)
        (fun d => ∃ m ≤ minutes, d = minutesDuration m) ↔ minutes.toNat * 60 < 2 ^ 63) :=
  ⟨honours_duration_iff, honours_minutes_iff⟩

/-- The longest timeout there is binds `-1` second and releases a lock that is being taken. -/
theorem longest_timeout_releases_fresh :
    ReleasesQueue (queueLocked 0) ((undisturbed 0 (queueLocked 0)).run
        (Client.releaseStaleQueueLocks (.fromSecs (0 - 1)))).2.db (lockedQueue 0) ∧
      ¬ ReleasesOnlyOlder (.fromSecs (0 - 1)) (Duration.fromSecs (0 - 1)).asNanos := by
  have released : ReleasesQueue (queueLocked 0) ((undisturbed 0 (queueLocked 0)).run
      (Client.releaseStaleQueueLocks (.fromSecs (0 - 1)))).2.db (lockedQueue 0) :=
    releases_lockedQueue_iff.mpr (by decide)
  refine ⟨released, fun onlyOlder => ?_⟩
  obtain ⟨taken, same, older⟩ := (onlyOlder (undisturbed 0 (queueLocked 0))).1 _ released
  obtain rfl := Option.some.inj same
  exact absurd older (by decide)

end Session

end Backfill
