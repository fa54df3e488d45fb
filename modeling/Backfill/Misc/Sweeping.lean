import Backfill.Misc.Transition

/-!
# Stamps under a recurring sweep

A system holds stamps: the times at which something was taken and not given back. A sweep drops
the stamps that are older than a timeout. As long as no period passes without a sweep, no stamp
gets older than the timeout and the period together, whoever has forgotten about it.
-/

namespace Sweeping

variable {σ α : Type}

/-- A machine with a clock whose stamps are swept now and then. -/
structure Sweeper (step : σ → α → Option σ) where
  clock : σ → Int
  Holds : σ → Int → Prop
  sweeps : σ → α → Bool
  timeout : Int
  timeout_nonneg : 0 ≤ timeout
  onward : ∀ {s a t}, step s a = some t → clock s ≤ clock t
  /-- a stamp is taken at the time of the step -/
  stamped : ∀ {s a t x}, step s a = some t → Holds t x → Holds s x ∨ x = clock s
  /-- a sweep leaves no stamp behind that is too old -/
  swept : ∀ {s a t x}, sweeps s a = true → step s a = some t → Holds t x → clock s ≤ x + timeout

/-- A state, and when it was last swept. No step reads the latter. -/
structure Watched (σ : Type) where
  state : σ
  sweptAt : Int

namespace Sweeper

variable {step : σ → α → Option σ} (sweeper : Sweeper step)

/-- A step of the machine, with its sweeps remembered. -/
def watch (s : Watched σ) (a : α) : Option (Watched σ) :=
  (step s.state a).map fun state =>
    { state := state
      sweptAt := if sweeper.sweeps s.state a then sweeper.clock s.state else s.sweptAt }

/-- A step that does not take the clock past the time the next sweep is due. -/
def InTime (period : Int) (s : Watched σ) (a : α) : Prop :=
  ∀ state, step s.state a = some state → sweeper.clock state ≤ s.sweptAt + period

/-- Whether a step is in time, by taking it. -/
def inTime (period : Int) (s : Watched σ) (a : α) : Bool :=
  (step s.state a).all fun state => decide (sweeper.clock state ≤ s.sweptAt + period)

theorem inTime_sound {period : Int} (s : Watched σ) (a : α)
    (checked : sweeper.inTime period s a = true) : sweeper.InTime period s a := by
  intro state taken
  simpa [inTime, taken] using checked

/-- Nothing older than the timeout was there at the last sweep, which is less than a period ago. -/
structure Clean (period : Int) (s : Watched σ) : Prop where
  past : s.sweptAt ≤ sweeper.clock s.state
  recent : sweeper.clock s.state ≤ s.sweptAt + period
  young : ∀ x, sweeper.Holds s.state x → s.sweptAt ≤ x + sweeper.timeout

variable {sweeper} {period : Int} {s t : Watched σ} {a : α}

/-- One step. -/
theorem Clean.watch (clean : sweeper.Clean period s) (inTime : sweeper.InTime period s a)
    (taken : sweeper.watch s a = some t) : sweeper.Clean period t := by
  obtain ⟨state, moved, rfl⟩ := Option.map_eq_some_iff.mp taken
  have onward := sweeper.onward moved
  have due := inTime state moved
  have past := clean.past
  by_cases sweeps : sweeper.sweeps s.state a = true
  · simp only [sweeps, if_true]
    refine ⟨onward, ?_, fun x held => sweeper.swept sweeps moved held⟩
    show sweeper.clock state ≤ sweeper.clock s.state + period
    omega
  · simp only [sweeps]
    refine ⟨Int.le_trans past onward, due, fun x held => ?_⟩
    show s.sweptAt ≤ x + sweeper.timeout
    rcases sweeper.stamped moved held with old | rfl
    · exact clean.young x old
    · have nonneg := sweeper.timeout_nonneg
      omega

/-- No stamp gets older than the timeout and the period together. -/
theorem Clean.age_le {as : List α} (clean : sweeper.Clean period s)
    (path : Transition.Run sweeper.watch (sweeper.InTime period) s as t) {x : Int}
    (held : sweeper.Holds t.state x) :
    sweeper.clock t.state - x ≤ sweeper.timeout + period := by
  have reached : sweeper.Clean period t :=
    path.invariant (fun _ _ _ clean inTime taken => clean.watch inTime taken) clean
  have recent := reached.recent
  have young := reached.young x held
  omega

end Sweeper

end Sweeping
