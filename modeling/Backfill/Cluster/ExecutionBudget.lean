import Backfill.Cluster.Attempts
import Backfill.Misc.Ledger

/-!
# The executions an enqueue pays for

`attempts` is counted when a job is fetched and set back only when an enqueue writes the row. So
whatever crashes, is released as stale, fails or is requeued in between, a job is not executed more
often than the `max_attempts` it was written with.
-/

namespace Backfill

namespace Journal

/-- An enqueue writes the row of this job. -/
def Writes (j : Journal) (a : JournalAction) (jobId : Int) : Prop :=
  ∃ job row, j.enqueues? a = some job ∧ (j.db.addJob j.cluster.now job).1 = some row ∧
    row.id = jobId

/-- A worker starts the job. -/
def starts (jobId : Int) : JournalAction → Nat
  | .base (.fetch _ id) => if id = jobId then 1 else 0
  | _ => 0

/-- How often a run executes the job. -/
def started (tables : CharTables) (jobId : Int) (j : Journal) (as : List JournalAction) : Nat :=
  Transition.tally (step tables) (fun _ a => starts jobId a) j as

/-- The row had `attempts` of `allowed` when it was written, and has been fetched `n` times since:
it has counted them, or has none left. -/
structure Spent (jobId attempts allowed : Int) (n : Nat) (j : Journal) : Prop where
  drawn : jobId < j.db.jobs.nextId
  counted : ∀ row ∈ j.db.jobs.rows, row.id = jobId → row.maxAttempts = allowed ∧
    (attempts + n ≤ row.attempts ∨ allowed ≤ row.attempts)
  within : n = 0 ∨ attempts + n ≤ allowed

variable {tables : CharTables} {j j' : Journal} {a : JournalAction} {jobId attempts allowed : Int}
  {n : Nat}

theorem not_writes (silent : (j.enqueues? a).isNone = true) : ¬ j.Writes a jobId := by
  rintro ⟨job, -, enqueues, -⟩
  rw [enqueues] at silent
  cases silent

theorem starts_eq_zero (other : ∀ worker, a ≠ .base (.fetch worker jobId)) :
    starts jobId a = 0 := by
  unfold starts
  split
  next worker id => exact if_neg fun same => other worker (by rw [same])
  next => rfl

/-- A fetch of the job. -/
theorem Spent.fetch (spent : Spent jobId attempts allowed n j) {worker : String}
    (taken : j.step tables (.base (.fetch worker jobId)) = some j') :
    Spent jobId attempts allowed (n + 1) j' := by
  have grows := nextId_step taken
  obtain ⟨cluster, moved, rfl⟩ := base_some taken
  obtain ⟨found, foundMember, job, key, available, -, -, -, rfl⟩ := Cluster.fetch_some moved
  have left := (JobRow.isAvailable_iff.mp available).2
  obtain ⟨same, counted⟩ := spent.counted found foundMember key
  have one : attempts + (n + 1 : Nat) ≤ found.attempts + 1 := by omega
  refine ⟨lt_of_lt_of_le spent.drawn grows, fun row member id => ?_, .inr (by omega)⟩
  obtain ⟨old, oldMember, rfl⟩ := Database.mem_lockJob.mp member
  by_cases hit : old.id = found.id
  · rw [if_pos hit]
    obtain rfl := j.db.jobs.eq_of_id_eq oldMember foundMember hit
    exact ⟨same, .inl one⟩
  · rw [if_neg hit] at id
    exact absurd (id.trans key.symm) hit

/-- A step that is neither a fetch of the job nor an enqueue. -/
theorem Spent.silent (spent : Spent jobId attempts allowed n j) (silent : j.enqueues? a = none)
    (other : ∀ worker, a ≠ .base (.fetch worker jobId)) (taken : j.step tables a = some j') :
    Spent jobId attempts allowed n j' := by
  refine ⟨lt_of_lt_of_le spent.drawn (nextId_step taken), fun row member id => ?_, spent.within⟩
  obtain ⟨old, oldMember, change⟩ := changed_of_silent silent taken member
  have same := change.rowChange.id_eq.symm.trans id
  have before := spent.counted old oldMember same
  cases change with
  | kept | failed | released => exact before
  | fetched => exact absurd (by rw [same]) (other _)
  | shortCircuited => exact ⟨before.1, .inr (le_of_eq before.1.symm)⟩

/-- An enqueue that does not write the row. -/
theorem Spent.enqueues (spent : Spent jobId attempts allowed n j) {job : NewJob}
    (enqueues : j.enqueues? a = some job) (unwritten : ¬ j.Writes a jobId)
    (taken : j.step tables a = some j') : Spent jobId attempts allowed n j' := by
  refine ⟨lt_of_lt_of_le spent.drawn (nextId_step taken), fun row member id => ?_, spent.within⟩
  rw [db_enqueues enqueues taken] at member
  rcases Database.of_mem_addJob member with
    kept | ⟨old, oldMember, -, rfl⟩ |
      ⟨old, oldMember, unlocked, keyed, same, replaces, _, _, rfl⟩ | ⟨_, _, rfl⟩
  · exact spent.counted row kept id
  · have before := spent.counted old oldMember id
    exact ⟨before.1, .inr (le_of_eq before.1.symm)⟩
  · obtain ⟨written, reported⟩ : ∃ written, (j.db.addJob j.cluster.now job).1 = some written :=
      Database.addJob_reports replaces
    rw [NewJob.overwrite_id] at id
    refine absurd ⟨job, written, enqueues, reported, ?_⟩ unwritten
    exact (Database.addJob_reported_id reported oldMember unlocked keyed same).trans id
  · exact absurd id spent.drawn.ne'

theorem Spent.step (spent : Spent jobId attempts allowed n j) (unwritten : ¬ j.Writes a jobId)
    (taken : j.step tables a = some j') :
    Spent jobId attempts allowed (n + starts jobId a) j' := by
  by_cases fetches : ∃ worker, a = .base (.fetch worker jobId)
  · obtain ⟨worker, rfl⟩ := fetches
    have once : starts jobId (.base (.fetch worker jobId)) = 1 := if_pos rfl
    rw [once]
    exact spent.fetch taken
  · have other : ∀ worker, a ≠ .base (.fetch worker jobId) :=
      fun worker is => fetches ⟨worker, is⟩
    rw [starts_eq_zero other, Nat.add_zero]
    cases enqueues : j.enqueues? a with
    | none => exact spent.silent enqueues other taken
    | some job => exact spent.enqueues enqueues unwritten taken

theorem Spent.run {as : List JournalAction} (spent : Spent jobId attempts allowed n j)
    (path : Transition.Run (Journal.step tables) (fun j a => ¬ j.Writes a jobId) j as j') :
    Spent jobId attempts allowed (n + started tables jobId j as) j' := by
  induction path generalizing n with
  | nil j => exact spent
  | @cons j mid j' a as unwritten taken rest ih =>
      have sum : started tables jobId j (a :: as) = starts jobId a + started tables jobId mid as :=
        Transition.tally_cons taken
      rw [sum, ← Nat.add_assoc]
      exact ih (spent.step unwritten taken)

/-- However workers, hooks, cleanups, captures and requeues are interleaved, and whatever of them
crashes, a job is executed `max_attempts` times at most until an enqueue writes its row again. -/
theorem executions_le_maxAttempts {job : NewJob} {row : JobRow} {as : List JournalAction}
    {t : Journal} (enqueues : j.enqueues? a = some job)
    (reported : (j.db.addJob j.cluster.now job).1 = some row) (taken : j.step tables a = some j')
    (path : Transition.Run (step tables) (fun j a => ¬ j.Writes a row.id) j' as t) :
    (started tables row.id j' as : Int) ≤ max 0 job.maxAttempts := by
  have written := written_step enqueues reported taken
  obtain ⟨-, fresh, -⟩ := Database.addJob_written reported
  have spent : Spent row.id 0 job.maxAttempts 0 j' := by
    refine ⟨j'.db.jobs.id_lt row written, fun other member same => ?_, .inl rfl⟩
    obtain rfl := j'.db.jobs.eq_of_id_eq member written same
    refine ⟨?_, .inl (by rw [fresh]; rfl)⟩
    rcases Database.addJob_reported reported with ⟨old, -, ⟨-, -, -, replaces⟩, rfl⟩ | rfl
    · simp [NewJob.overwrite, replaces]
    · rfl
  have within := (spent.run path).within
  omega

/-- A job with two attempts. -/
def twoAttempts : NewJob := { invoiceJob .null with maxAttempts := 2 }

/-- It uses them up: one fails, and one ends in a crash whose lock is released. -/
theorem executions_le_maxAttempts_twoAttempts :
    ∃ as row j, (Database.fresh.addJob 0 twoAttempts).1 = some row ∧
      (initial 0 .fresh).step .ascii (.base (.enqueue twoAttempts)) = some j ∧
      started .ascii row.id j as = 2 ∧
      (started .ascii row.id j as : Int) ≤ max 0 twoAttempts.maxAttempts := by
  refine ⟨[.base (.fetch "worker" 1), .base (.fail 0 "boom" 0), .base (.fetch "worker" 1),
    .base (.crash 0), .base (.advance 2000000),
    .base (.start (Client.releaseStaleJobLocks (.fromSecs 1))), .base (.send 0 none)], _, _,
    rfl, rfl, rfl, executions_le_maxAttempts (j := initial 0 .fresh)
      (a := .base (.enqueue twoAttempts)) rfl rfl rfl
      (.of_checked (fun j a => (j.enqueues? a).isNone) (fun _ _ => not_writes) rfl)⟩

end Journal

end Backfill
