import Mathlib.Algebra.Group.Int.Defs
import Mathlib.Algebra.Group.Nat.Defs

/-!
# Clock readings and durations

A timestamp is the number of microseconds since an epoch, the resolution the database
keeps. Its arithmetic is exact: a threshold no `timestamptz` can hold is one more way in
which a statement may fail, not a wrapped clock.
-/

namespace Backfill

/-- A `timestamptz` value, in microseconds. -/
abbrev Timestamp := Int

/-- `std::time::Duration`: whole seconds and the nanoseconds that remain. -/
structure Duration where
  secs : Nat
  nanos : Nat
  secs_lt : secs < 2 ^ 64
  nanos_lt : nanos < 10 ^ 9
deriving DecidableEq

/-- `n as i64` for a `u64`: the same bits read as two's complement. -/
def asI64 (n : Nat) : Int := (n : Int).bmod (2 ^ 64)

/-- The cast is the identity up to `i64::MAX`. -/
theorem asI64_of_lt {n : Nat} (fits : n < 2 ^ 63) : asI64 n = n := by
  unfold asI64
  apply Int.bmod_eq_of_le_mul_two <;> omega

/-- The other half of the `u64` range turns negative. -/
theorem asI64_of_le {n : Nat} (high : 2 ^ 63 ≤ n) (fits : n < 2 ^ 64) :
    asI64 n = (n : Int) - (2 ^ 64 : Nat) := by
  unfold asI64
  rw [← Int.sub_bmod_right]
  apply Int.bmod_eq_of_le_mul_two <;> omega

/-- A count of seconds in the unit of the clock. -/
def Timestamp.seconds (n : Int) : Timestamp := n * 1000000

namespace Duration

/-- `Duration::from_secs`. -/
def fromSecs (secs : UInt64) : Duration where
  secs := secs.toNat
  nanos := 0
  secs_lt := secs.toNat_lt
  nanos_lt := by decide

/-- `Duration::as_secs`: the fractional part is dropped. -/
def asSecs (d : Duration) : Nat := d.secs

/-- The whole microseconds of a duration, the finest span the clock can tell apart. -/
def asMicros (d : Duration) : Int := d.secs * 1000000 + d.nanos / 1000

/-- `Duration::as_nanos`. -/
def asNanos (d : Duration) : Nat := d.secs * 10 ^ 9 + d.nanos

theorem asMicros_nonneg (d : Duration) : 0 ≤ d.asMicros := by
  unfold asMicros
  omega

/-- `Duration::is_zero`. -/
def isZero (d : Duration) : Bool := d.secs == 0 && d.nanos == 0

/-- `Duration::checked_mul`: `none` where `*` panics. -/
def checkedMul (d : Duration) (n : Nat) : Option Duration :=
  let total := d.nanos * n
  if h : d.secs * n + total / 10 ^ 9 < 2 ^ 64 then
    some
      { secs := d.secs * n + total / 10 ^ 9
        nanos := total % 10 ^ 9
        secs_lt := h
        nanos_lt := Nat.mod_lt _ (by decide) }
  else
    none

/-- A product that exists is exact. -/
theorem asNanos_checkedMul {d product : Duration} {n : Nat}
    (exact : d.checkedMul n = some product) : product.asNanos = n * d.asNanos := by
  simp only [checkedMul] at exact
  split at exact
  · obtain rfl := Option.some.inj exact
    show (d.secs * n + d.nanos * n / 10 ^ 9) * 10 ^ 9 + d.nanos * n % 10 ^ 9 =
      n * (d.secs * 10 ^ 9 + d.nanos)
    rw [Nat.mul_add, ← Nat.mul_assoc, Nat.mul_comm n d.secs, Nat.mul_comm n d.nanos]
    omega
  · cases exact

/-- It exists up to `Duration::MAX`. -/
theorem checkedMul_isSome_iff {d : Duration} {n : Nat} :
    (d.checkedMul n).isSome = true ↔ n * d.asNanos < 2 ^ 64 * 10 ^ 9 := by
  have whole : n * d.asNanos = d.secs * n * 10 ^ 9 + d.nanos * n := by
    rw [asNanos, Nat.mul_add, ← Nat.mul_assoc, Nat.mul_comm n d.secs, Nat.mul_comm n d.nanos]
  rw [whole]
  simp only [checkedMul]
  split
  next fits => simp only [Option.isSome_some, true_iff]; omega
  next exceeds => simp only [Option.isSome_none, Bool.false_eq_true, false_iff]; omega

/-- A smaller factor does no harm. -/
theorem checkedMul_isSome_of_le {d : Duration} {m n : Nat} (le : m ≤ n)
    (fits : (d.checkedMul n).isSome = true) : (d.checkedMul m).isSome = true := by
  rw [checkedMul_isSome_iff] at fits ⊢
  exact Nat.lt_of_le_of_lt (Nat.mul_le_mul_right _ le) fits

end Duration

end Backfill
