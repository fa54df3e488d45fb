import Backfill.Client.Cleanup
import Backfill.Client.Dlq

/-!
# The tasks a runner spawns

Each loop is a state and a partial step function: what it does next is decided by the
environment, which answers its statements, lets its timers go off and lets it see the
cancelled token. A loop of this library ends by its own exit or in a panic. The run loop of
the job queue is not part of this library; it may work and end as it likes.
-/

namespace Backfill

/-- How a spawned task has ended. -/
inductive TaskEnd (α : Type)
  | finished (value : α)
  | panicked (message : String)

/-- A spawned task. Its handle can be asked how it has ended; dropping the handle does
nothing to it. -/
inductive SpawnedTask (σ α : Type)
  | live (state : σ)
  | ended (how : TaskEnd α)

namespace SpawnedTask

variable {σ α : Type}

/-- The task was spawned and has not ended. -/
def running : Option (SpawnedTask σ α) → Bool
  | some (live _) => true
  | _ => false

theorem running_iff {task : Option (SpawnedTask σ α)} :
    running task = true ↔ ∃ state, task = some (live state) := by
  constructor
  · intro alive
    match task, alive with
    | some (live state), _ => exact ⟨state, rfl⟩
  · rintro ⟨state, rfl⟩
    rfl

/-- One step of a task; only one that is running takes any. -/
def step (next : σ → Option (SpawnedTask σ α)) :
    Option (SpawnedTask σ α) → Option (SpawnedTask σ α)
  | some (live state) => next state
  | _ => none

theorem step_eq_none {next : σ → Option (SpawnedTask σ α)} {task : Option (SpawnedTask σ α)}
    (still : running task = false) : step next task = none := by
  match task, still with
  | none, _ | some (ended _), _ => rfl

end SpawnedTask

/-- What the environment does to a loop that is waiting. -/
inductive Wake
  /-- the statement it has sent is answered -/
  | answer (reply : (s : Statement) → Statement.Reply s)
  /-- it goes on behind a routine that has ended -/
  | resume
  /-- its timer goes off -/
  | timer
  /-- it sees that the token is cancelled -/
  | cancelled

namespace Client

variable {α : Type}

/-- What is left of a routine once the statement it waits for is answered. -/
def answer (reply : (s : Statement) → Statement.Reply s) : Client α → Option (Client α)
  | .call s next => some (next (reply s))
  | _ => none

/-- What a routine has ended with. -/
def outcome? : Client α → Option (Except BackfillError α)
  | .done value => some (.ok value)
  | .fail error => some (.error error)
  | .call _ _ => none

/-- A routine has ended or waits for an answer. -/
theorem waits_or_ended (routine : Client α) (reply : (s : Statement) → Statement.Reply s) :
    (∃ rest, routine.answer reply = some rest) ∨ ∃ outcome, routine.outcome? = some outcome := by
  cases routine with
  | done value => exact .inr ⟨_, rfl⟩
  | fail error => exact .inr ⟨_, rfl⟩
  | call s next => exact .inl ⟨_, rfl⟩

end Client

/-- Every statement is refused. -/
def refuse (error : ForeignError) (s : Statement) : Statement.Reply s := .error error

/-- `MAX_BACKOFF_SHIFT` (`dlq.rs:804`). -/
def maxBackoffShift : Nat := 5

/-- Where the DLQ processor is in its loop. -/
inductive DlqProcessorPhase
  | scanning (scan : Client Nat)
  | waiting (nextWait : Duration)

/-- The loop that `start_dlq_processor` spawns (`dlq.rs:795`). -/
structure DlqProcessor where
  interval : Duration
  consecutiveErrors : Nat
  phase : DlqProcessorPhase

namespace DlqProcessor

/-- The first scan starts at once. -/
def start (interval : Duration) : DlqProcessor where
  interval := interval
  consecutiveErrors := 0
  phase := .scanning Client.processFailedJobs

/-- What the outcome of a scan does to the error count and to the wait behind it. -/
def afterScan (loop : DlqProcessor) : Except BackfillError Nat → SpawnedTask DlqProcessor Unit
  | .ok _ => .live { loop with consecutiveErrors := 0, phase := .waiting loop.interval }
  | .error _ =>
      let consecutiveErrors := min (loop.consecutiveErrors + 1) (2 ^ 32 - 1)
      let factor := 1 <<< min consecutiveErrors maxBackoffShift
      match loop.interval.checkedMul factor with
      | some nextWait =>
          .live { loop with consecutiveErrors := consecutiveErrors, phase := .waiting nextWait }
      | none => .ended (.panicked "overflow when multiplying duration by scalar")

/-- One step of the loop. The `select!` is biased: the timer only counts while the token is
not cancelled. -/
def step (tokenCancelled : Bool) (wake : Wake) (loop : DlqProcessor) :
    Option (SpawnedTask DlqProcessor Unit) :=
  match loop.phase, wake with
  | .scanning scan, .answer reply =>
      (scan.answer reply).map fun rest => .live { loop with phase := .scanning rest }
  | .scanning scan, .resume => scan.outcome?.map loop.afterScan
  | .waiting _, .cancelled => if tokenCancelled then some (.ended (.finished ())) else none
  | .waiting _, .timer =>
      if tokenCancelled then none
      else some (.live { loop with phase := .scanning Client.processFailedJobs })
  | _, _ => none

/-- The loop is never stuck. -/
theorem exists_step (tokenCancelled : Bool) (loop : DlqProcessor) :
    ∃ wake task, step tokenCancelled wake loop = some task := by
  obtain ⟨interval, consecutiveErrors, phase⟩ := loop
  cases phase with
  | scanning scan =>
      rcases scan.waits_or_ended (refuse ⟨"", ""⟩) with ⟨rest, waits⟩ | ⟨outcome, ended⟩
      · refine ⟨.answer (refuse ⟨"", ""⟩), ?_⟩
        simp only [step, waits, Option.map_some, Option.some.injEq, exists_eq']
      · refine ⟨.resume, ?_⟩
        simp only [step, ended, Option.map_some, Option.some.injEq, exists_eq']
  | waiting nextWait =>
      cases tokenCancelled with
      | true => exact ⟨.cancelled, _, rfl⟩
      | false => exact ⟨.timer, _, rfl⟩

end DlqProcessor

/-- Where the stale-lock cleanup is in its loop. -/
inductive StaleLockCleanupPhase
  | starting
  | selecting
  | releasing (tick : Client Unit)

/-- The loop that `start_stale_lock_cleanup` spawns (`cleanup.rs:292`). -/
structure StaleLockCleanup where
  interval : Duration
  queueLockTimeout : Duration
  jobLockTimeout : Duration
  phase : StaleLockCleanupPhase

namespace StaleLockCleanup

/-- The loop before its timer is made. -/
def start (interval queueLockTimeout jobLockTimeout : Duration) : StaleLockCleanup where
  interval := interval
  queueLockTimeout := queueLockTimeout
  jobLockTimeout := jobLockTimeout
  phase := .starting

/-- One step of the loop. Its timer panics on a period of zero, and its `select!` may pick
the timer although the token is cancelled. -/
def step (tokenCancelled : Bool) (wake : Wake) (loop : StaleLockCleanup) :
    Option (SpawnedTask StaleLockCleanup Unit) :=
  match loop.phase, wake with
  | .starting, .resume =>
      if loop.interval.isZero then some (.ended (.panicked "period must be non-zero."))
      else some (.live { loop with phase := .selecting })
  | .selecting, .cancelled => if tokenCancelled then some (.ended (.finished ())) else none
  | .selecting, .timer =>
      some (.live { loop with
        phase := .releasing
          (Client.staleLockCleanupTick loop.queueLockTimeout loop.jobLockTimeout) })
  | .releasing tick, .answer reply =>
      (tick.answer reply).map fun rest => .live { loop with phase := .releasing rest }
  | .releasing tick, .resume =>
      tick.outcome?.map fun _ => .live { loop with phase := .selecting }
  | _, _ => none

/-- The loop is never stuck. -/
theorem exists_step (tokenCancelled : Bool) (loop : StaleLockCleanup) :
    ∃ wake task, step tokenCancelled wake loop = some task := by
  obtain ⟨interval, queueLockTimeout, jobLockTimeout, phase⟩ := loop
  cases phase with
  | starting =>
      refine ⟨.resume, ?_⟩
      simp only [step]
      split <;> exact ⟨_, rfl⟩
  | selecting => exact ⟨.timer, _, rfl⟩
  | releasing tick =>
      rcases tick.waits_or_ended (refuse ⟨"", ""⟩) with ⟨rest, waits⟩ | ⟨outcome, ended⟩
      · refine ⟨.answer (refuse ⟨"", ""⟩), ?_⟩
        simp only [step, waits, Option.map_some, Option.some.injEq, exists_eq']
      · refine ⟨.resume, ?_⟩
        simp only [step, ended, Option.map_some, Option.some.injEq, exists_eq']

end StaleLockCleanup

end Backfill
