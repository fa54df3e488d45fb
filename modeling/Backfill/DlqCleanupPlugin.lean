import Backfill.Client.Requeue

/-!
# The `JobComplete` hook (`dlq_cleanup_plugin.rs`)
-/

namespace Backfill

namespace Client

/-- The handler `DlqCleanupPlugin` registers: only a job with a key has records to clean up,
and an error of the delete is only logged (`dlq_cleanup_plugin.rs:36`). -/
def dlqCleanupHook (job : Job) : Client Unit :=
  match job.key with
  | some jobKey => do
      let _ ← (deleteDlqByJobKey jobKey).attempt
      pure ()
  | none => pure ()

/-- It sends one delete, if the job has a key. -/
theorem calls_dlqCleanupHook {I : Statement → Prop} (job : Job)
    (deletes : ∀ jobKey, I (.deleteDlqByJobKey jobKey)) : (dlqCleanupHook job).Calls I := by
  unfold dlqCleanupHook
  cases job.key with
  | none => trivial
  | some jobKey => exact (calls_query (deletes jobKey)).attempt.bind fun _ => trivial

end Client

end Backfill
