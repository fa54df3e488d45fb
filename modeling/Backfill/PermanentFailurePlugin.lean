import Backfill.Client.Dlq

/-!
# The `JobFail` hook (`permanent_failure_plugin.rs`)
-/

namespace Backfill

/-- What the hook is told about a failed attempt. -/
structure JobFailContext where
  job : Job
  error : String

namespace Client

/-- The handler `PermanentFailurePlugin` registers: a non-retryable error uses up the
attempts of the row (`permanent_failure_plugin.rs:52`). -/
def permanentFailureHook (tables : CharTables) (ctx : JobFailContext) : Client Nat :=
  let classified := WorkerError.classifyFromMessage tables ctx.error
  if classified.isRetryable then
    pure 0
  else
    .call (.shortCircuit ctx.job.id ("Permanent failure (non-retryable error): " ++ ctx.error))
      fun _ => .done 0

end Client

end Backfill
