import Backfill.JobSpec

/-!
# Retry policies (`retries.rs`)
-/

namespace Backfill

/-- `RetryPolicy`. -/
structure RetryPolicy where
  maxAttempts : Int

namespace RetryPolicy

/-- `RetryPolicy::should_retry`. -/
def shouldRetry (policy : RetryPolicy) (attempt : Int) : Bool :=
  decide (attempt < policy.maxAttempts)

/-- `RetryPolicy::total_attempts`. -/
def totalAttempts (policy : RetryPolicy) : Int := policy.maxAttempts + 1

/-- `RetryPolicy::fast`. -/
def fast : RetryPolicy := ⟨3⟩

end RetryPolicy

/-- `JobSpec::with_retry_policy` (`lib.rs:441`); of the policy only the attempts are kept. -/
def JobSpec.withRetryPolicy (spec : JobSpec) (policy : RetryPolicy) : JobSpec :=
  { spec with maxAttempts := some policy.maxAttempts }

/-- A policy whose attempts fit into the column is stored as it is. -/
theorem JobSpec.maxAttempts_withRetryPolicy {spec : JobSpec} {policy : RetryPolicy}
    (low : 1 ≤ policy.maxAttempts) (high : policy.maxAttempts ≤ 32767) :
    (((spec.withRetryPolicy policy).maxAttempts.map clampI16).getD 25).toInt =
      policy.maxAttempts := by
  show (clampI16 policy.maxAttempts).toInt = policy.maxAttempts
  rw [toInt_clampI16]
  omega

end Backfill
