import Backfill.Client.Dlq
import Backfill.Client.Cleanup

/-!
# Configuration and startup of a worker (`worker.rs`)
-/

namespace Backfill

/-- The part of `WorkerConfig` that decides which background work a runner does. -/
structure WorkerConfig where
  dlqProcessorInterval : Option Duration
  staleLockCleanupInterval : Option Duration
  staleQueueLockTimeout : Duration
  staleJobLockTimeout : Duration
deriving DecidableEq

/-- `WorkerConfig::default` (`worker.rs`). -/
def WorkerConfig.default : WorkerConfig where
  dlqProcessorInterval := some (.fromSecs 60)
  staleLockCleanupInterval := some defaultStaleLockCleanupInterval
  staleQueueLockTimeout := defaultStaleQueueLockTimeout
  staleJobLockTimeout := defaultStaleJobLockTimeout

namespace Client

/-- What `run_until_cancelled` does before it spawns anything (`worker.rs:615`): with the
DLQ enabled the pre-move, then the cleanup. An error of either is logged and the sequence
goes on. -/
def startup (config : WorkerConfig) : Client Unit := do
  if config.dlqProcessorInterval.isSome then
    let _ ← processFailedJobs.attempt
  let _ ← (startupCleanupWithTimeouts config.staleQueueLockTimeout
    config.staleJobLockTimeout).attempt
  pure ()

/-- The second half of the startup, as a routine of its own. -/
def startupCleanupPhase (config : WorkerConfig) : Client Nat := do
  let _ ← (startupCleanupWithTimeouts config.staleQueueLockTimeout
    config.staleJobLockTimeout).attempt
  pure 0

/-- The startup sequence as a routine of the cluster, which expects a number. -/
def startupRoutine (config : WorkerConfig) : Client Nat := do
  startup config
  pure 0

/-- A tick of the periodic lock cleanup as a routine of the cluster. -/
def staleLockCleanupRoutine (queueLockTimeout jobLockTimeout : Duration) : Client Nat := do
  staleLockCleanupTick queueLockTimeout jobLockTimeout
  pure 0

/-- With the DLQ enabled the startup is the pre-move and then the cleanup. -/
theorem startupRoutine_eq {config : WorkerConfig}
    (enabled : config.dlqProcessorInterval.isSome = true) :
    startupRoutine config = processFailedJobs.attempt >>= fun _ => startupCleanupPhase config := by
  simp only [startupRoutine, startup, if_pos enabled, startupCleanupPhase, Program.bind_assoc,
    Program.pure_eq, Program.bind_done]

end Client

end Backfill
