import Backfill.Graphile

/-!
# Job specifications (`lib.rs`)
-/

namespace Backfill

/-- `Queue` (`lib.rs:201`). -/
inductive Queue
  | parallel
  | serial (name : String)
deriving DecidableEq

/-- `Queue::name`. -/
def Queue.name : Queue → Option String
  | parallel => none
  | serial name => some name

/-- `Priority`. -/
structure Priority where
  value : Int16
deriving DecidableEq

/-- `Priority::BULK_DEFAULT`. -/
def Priority.bulkDefault : Priority := ⟨0⟩

/-- `JobSpec` (`lib.rs:404`) without its retry policy, which no conversion reads. -/
structure JobSpec where
  runAt : Option Timestamp
  priority : Priority
  queue : Queue
  maxAttempts : Option Int
  jobKey : Option String
  jobKeyMode : JobKeyMode

/-- `JobSpec::default`. -/
def JobSpec.default : JobSpec where
  runAt := none
  priority := .bulkDefault
  queue := .parallel
  maxAttempts := some 8
  jobKey := none
  jobKeyMode := .replace

/-- `max_attempts.clamp(0, i16::MAX as i32) as i16`. -/
def clampI16 (n : Int) : Int16 := .ofInt (max 0 (min n 32767))

/-- The clamped number as an integer again. -/
theorem toInt_clampI16 (n : Int) : (clampI16 n).toInt = max 0 (min n 32767) :=
  Int16.toInt_ofInt_of_le (by omega) (by omega)

/-- `From<JobSpec> for GraphileJobSpec` (`lib.rs:487`): only a serial queue has a name, and
the mode goes with the key. -/
def JobSpec.toGraphile (spec : JobSpec) : GraphileJobSpec where
  runAt := spec.runAt
  priority := some spec.priority.value
  queueName := spec.queue.name
  maxAttempts := spec.maxAttempts.map clampI16
  jobKey := spec.jobKey
  jobKeyMode := spec.jobKey.map fun _ => spec.jobKeyMode

/-- A specification allows a job an attempt, unless it says 0 or less. -/
theorem JobSpec.allows_attempt_iff (spec : JobSpec) (identifier : String) (payload : Json)
    (now : Timestamp) :
    0 < (spec.toGraphile.newJob identifier payload now).maxAttempts ↔
      ∀ n, spec.maxAttempts = some n → 0 < n := by
  cases given : spec.maxAttempts with
  | none => simp [GraphileJobSpec.newJob, toGraphile, given]
  | some n =>
      simp only [GraphileJobSpec.newJob, toGraphile, given, Option.map_some, Option.getD_some,
        toInt_clampI16, Option.some.injEq, forall_eq']
      omega

/-- `n as i16` for an `i32`. -/
def asI16 (n : Int) : Int16 := .ofInt n

/-- How often an `i16` that counts up to `n` wraps around. -/
def i16Wraps (n : Int) : Int := (n + 32768) / 65536

/-- The number as an integer again has lost the wraps. -/
theorem toInt_asI16 (n : Int) : (asI16 n).toInt = n - 65536 * i16Wraps n := by
  rw [asI16, Int16.toInt_ofInt, show Int16.size = 65536 from rfl, i16Wraps]
  have apart : n - 65536 * ((n + 32768) / 65536) = n + 65536 * -((n + 32768) / 65536) := by
    omega
  have window : (n - 65536 * ((n + 32768) / 65536)).bmod 65536 = n.bmod 65536 := by
    rw [apart]
    exact Int.add_mul_bmod_self_left ..
  rw [← window]
  apply Int.bmod_eq_of_le_mul_two <;> omega

/-- A number that fits is kept. -/
theorem toInt_asI16_of_fits {n : Int} (low : -2 ^ 15 ≤ n) (high : n < 2 ^ 15) :
    (asI16 n).toInt = n :=
  Int16.toInt_ofInt_of_le low high

end Backfill
