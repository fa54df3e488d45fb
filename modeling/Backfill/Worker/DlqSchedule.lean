import Backfill.Misc.Transition
import Backfill.Worker.Tasks

/-!
# The schedule of the DLQ processor

The loop keeps a saturating counter and nothing else. It runs here next to its history: under
which token each scan has started, how each one that ended has ended, and the wait behind it. One
poll of its `select!` is one step.
-/

namespace Backfill

/-- How a scan has ended and the wait behind it. -/
structure DlqWait where
  succeeded : Bool
  duration : Duration

/-- The processor, its token and its history, the latest first. -/
structure DlqSchedule where
  processor : SpawnedTask DlqProcessor Unit
  tokenCancelled : Bool
  /-- for each scan, whether the token was cancelled when it started -/
  scans : List Bool
  waits : List DlqWait

namespace DlqSchedule

/-- The owner of the token cancels it, or the environment does something to the loop. -/
inductive Action
  | cancel
  | wake (wake : Wake)

/-- The task as it is spawned; the token may have been cancelled before. -/
def start (interval : Duration) (tokenCancelled : Bool) : DlqSchedule where
  processor := .live (.start interval)
  tokenCancelled := tokenCancelled
  scans := [tokenCancelled]
  waits := []

/-- The history behind a step of the loop: a scan that ended is behind it, or one that starts. -/
def record (s : DlqSchedule) (loop : DlqProcessor) (task : SpawnedTask DlqProcessor Unit) :
    DlqSchedule :=
  match loop.phase, task with
  | .scanning scan, .live ⟨_, _, .waiting nextWait⟩ =>
      { s with
        processor := task
        waits := ⟨scan.outcome?.any Except.isOk, nextWait⟩ :: s.waits }
  | .waiting _, .live ⟨_, _, .scanning _⟩ =>
      { s with processor := task, scans := s.tokenCancelled :: s.scans }
  | _, _ => { s with processor := task }

/-- One step of the task or of the owner of its token. -/
def step (s : DlqSchedule) : Action → Option DlqSchedule
  | .cancel => some { s with tokenCancelled := true }
  | .wake wake =>
      match s.processor with
      | .live loop => (loop.step s.tokenCancelled wake).map (s.record loop)
      | .ended _ => none

/-- Whatever the scans are answered and whenever the token is cancelled. -/
abbrev Runs : DlqSchedule → List Action → DlqSchedule → Prop :=
  Transition.Run step fun _ _ => True

/-- The number of consecutive errors a history ends with. -/
def errorRun : List DlqWait → Nat
  | [] => 0
  | wait :: earlier => if wait.succeeded then 0 else errorRun earlier + 1

/-- What a step can be. -/
inductive Step (s : DlqSchedule) : DlqSchedule → Prop
  | cancelled : Step s { s with tokenCancelled := true }
  | answered {loop : DlqProcessor} {scan rest : Client Nat} (live : s.processor = .live loop)
      (phase : loop.phase = .scanning scan) :
      Step s { s with processor := .live { loop with phase := .scanning rest } }
  | succeeded {loop : DlqProcessor} {scan : Client Nat} (live : s.processor = .live loop)
      (phase : loop.phase = .scanning scan) :
      Step s { s with
        processor := .live { loop with consecutiveErrors := 0, phase := .waiting loop.interval }
        waits := ⟨true, loop.interval⟩ :: s.waits }
  | failed {loop : DlqProcessor} {scan : Client Nat} {errors : Nat} {nextWait : Duration}
      (live : s.processor = .live loop) (phase : loop.phase = .scanning scan)
      (counted : errors = min (loop.consecutiveErrors + 1) (2 ^ 32 - 1))
      (product : loop.interval.checkedMul (1 <<< min errors maxBackoffShift) = some nextWait) :
      Step s { s with
        processor :=
          .live { loop with consecutiveErrors := errors, phase := .waiting nextWait }
        waits := ⟨false, nextWait⟩ :: s.waits }
  | panicked {loop : DlqProcessor} {errors : Nat} {message : String}
      (live : s.processor = .live loop)
      (product : loop.interval.checkedMul (1 <<< min errors maxBackoffShift) = none) :
      Step s { s with processor := .ended (.panicked message) }
  | finished {loop : DlqProcessor} {nextWait : Duration} (live : s.processor = .live loop)
      (phase : loop.phase = .waiting nextWait) (token : s.tokenCancelled = true) :
      Step s { s with processor := .ended (.finished ()) }
  | waited {loop : DlqProcessor} {nextWait : Duration} (live : s.processor = .live loop)
      (phase : loop.phase = .waiting nextWait) (token : s.tokenCancelled = false) :
      Step s { s with
        processor := .live { loop with phase := .scanning Client.processFailedJobs }
        scans := s.tokenCancelled :: s.scans }

theorem step_cases {s t : DlqSchedule} {a : Action} (taken : s.step a = some t) : Step s t := by
  cases a with
  | cancel => exact Option.some.inj taken ▸ .cancelled
  | wake wake =>
      simp only [step] at taken
      split at taken
      next loop live =>
        obtain ⟨task, stepped, rfl⟩ := Option.map_eq_some_iff.mp taken
        unfold DlqProcessor.step at stepped
        split at stepped
        next scan reply phase =>
          obtain ⟨rest, -, rfl⟩ := Option.map_eq_some_iff.mp stepped
          simp only [record, phase]
          exact .answered live phase
        next scan phase =>
          obtain ⟨outcome, ended, rfl⟩ := Option.map_eq_some_iff.mp stepped
          cases outcome with
          | ok moved =>
              simp only [record, phase, DlqProcessor.afterScan, ended]
              exact .succeeded live phase
          | error error =>
              simp only [DlqProcessor.afterScan]
              split
              next nextWait product =>
                simp only [record, phase, ended]
                exact .failed live phase rfl product
              next product =>
                simp only [record, phase]
                exact .panicked live product
        next nextWait phase =>
          obtain ⟨token, same⟩ := Option.ite_none_right_eq_some.mp stepped
          obtain rfl := Option.some.inj same
          simp only [record, phase]
          exact .finished live phase token
        next nextWait phase =>
          obtain ⟨token, same⟩ := Option.ite_none_left_eq_some.mp stepped
          obtain rfl := Option.some.inj same
          simp only [record, phase]
          exact .waited live phase (Bool.not_eq_true _ ▸ token)
        next => cases stepped
      next => cases taken

/-! ### The waits of a history -/

section Waits

variable {interval : Duration} {waits : List DlqWait}

/-- Every wait of a history is the one its scan asks for. -/
def Due (interval : Duration) (waits : List DlqWait) : Prop :=
  ∀ wait earlier, wait :: earlier <:+ waits →
    (wait.succeeded = true → wait.duration = interval) ∧
      (wait.succeeded = false →
        wait.duration.asNanos = 2 ^ min (errorRun (wait :: earlier)) 5 * interval.asNanos)

theorem due_nil : Due interval [] := by
  intro wait earlier suffix
  cases List.suffix_nil.mp suffix

theorem due_cons {wait : DlqWait} (due : Due interval waits)
    (success : wait.succeeded = true → wait.duration = interval)
    (failure : wait.succeeded = false →
      wait.duration.asNanos = 2 ^ min (errorRun waits + 1) 5 * interval.asNanos) :
    Due interval (wait :: waits) := by
  intro last earlier suffix
  rcases List.suffix_cons_iff.mp suffix with same | older
  · obtain ⟨rfl, rfl⟩ := List.cons.inj same
    refine ⟨success, fun failed => ?_⟩
    rw [failure failed, errorRun, failed]
    rfl
  · exact due last earlier older

/-- Every wait is a power of two, at most `2 ^ 5`, times the interval. -/
theorem Due.bounded (due : Due interval waits) :
    ∀ wait ∈ waits, wait.duration.asNanos ≤ 32 * interval.asNanos := by
  intro wait among
  obtain ⟨later, earlier, rfl⟩ := List.append_of_mem among
  obtain ⟨success, failure⟩ := due wait earlier (List.suffix_append ..)
  cases outcome : wait.succeeded with
  | true =>
      rw [success outcome]
      omega
  | false =>
      rw [failure outcome]
      have capped : 2 ^ min (errorRun (wait :: earlier)) 5 ≤ 2 ^ 5 :=
        Nat.pow_le_pow_right (by decide) (Nat.min_le_right ..)
      exact Nat.mul_le_mul_right _ capped

/-- Behind an error no wait is shorter than the one before it. -/
theorem Due.growing (due : Due interval waits) {wait before : DlqWait} {earlier : List DlqWait}
    (suffix : wait :: before :: earlier <:+ waits) (failed : wait.succeeded = false) :
    before.duration.asNanos ≤ wait.duration.asNanos := by
  have run : errorRun (wait :: before :: earlier) = errorRun (before :: earlier) + 1 := by
    rw [errorRun, failed]
    rfl
  have older : before :: earlier <:+ waits := (List.suffix_cons ..).trans suffix
  rw [(due wait _ suffix).2 failed, run]
  cases outcome : before.succeeded with
  | true =>
      rw [(due before earlier older).1 outcome]
      exact Nat.le_mul_of_pos_left _ (Nat.two_pow_pos _)
  | false =>
      rw [(due before earlier older).2 outcome]
      refine Nat.mul_le_mul_right _ (Nat.pow_le_pow_right (by decide) ?_)
      omega

end Waits

/-! ### The loop next to its history -/

/-- A scan has started and not ended. -/
def scanning (s : DlqSchedule) : Bool :=
  match s.processor with
  | .live ⟨_, _, .scanning _⟩ => true
  | _ => false

theorem scanning_of_phase {s : DlqSchedule} {loop : DlqProcessor} {scan : Client Nat}
    (live : s.processor = .live loop) (phase : loop.phase = .scanning scan) :
    s.scanning = true := by
  obtain ⟨interval, errors, current⟩ := loop
  obtain rfl : current = .scanning scan := phase
  rw [scanning, live]

theorem waiting_of_phase {s : DlqSchedule} {loop : DlqProcessor} {nextWait : Duration}
    (live : s.processor = .live loop) (phase : loop.phase = .waiting nextWait) :
    s.scanning = false := by
  obtain ⟨interval, errors, current⟩ := loop
  obtain rfl : current = .waiting nextWait := phase
  rw [scanning, live]

/-- What the loop's own variables say about the history. -/
structure Tracked (interval : Duration) (waits : List DlqWait) (loop : DlqProcessor) : Prop where
  interval : loop.interval = interval
  counted : loop.consecutiveErrors = min (errorRun waits) (2 ^ 32 - 1)
  asleep : ∀ nextWait, loop.phase = .waiting nextWait →
    waits.head?.map DlqWait.duration = some nextWait

/-- The invariant of the task. -/
structure Invariant (interval : Duration) (s : DlqSchedule) : Prop where
  due : Due interval s.waits
  tracked : ∀ loop, s.processor = .live loop → Tracked interval s.waits loop
  alive : ∀ message, s.processor ≠ .ended (.panicked message)
  turns : s.scans.length = s.waits.length + s.scanning.toNat
  uncancelled : ∀ cancelled ∈ s.scans.dropLast, cancelled = false

/-- The saturating counter is exact as far as the capped shift can tell. -/
theorem min_saturated (n : Nat) : min (min n (2 ^ 32 - 1)) maxBackoffShift = min n 5 := by
  unfold maxBackoffShift
  omega

theorem one_shiftLeft (n : Nat) : 1 <<< n = 2 ^ n := by
  rw [Nat.shiftLeft_eq, Nat.one_mul]

/-- The factor is at most `2 ^ 5`. -/
theorem factor_le (errors : Nat) : 1 <<< min errors maxBackoffShift ≤ 32 := by
  rw [one_shiftLeft]
  exact Nat.pow_le_pow_right (by decide) (Nat.min_le_right ..)

theorem invariant_start (interval : Duration) (tokenCancelled : Bool) :
    Invariant interval (start interval tokenCancelled) where
  due := due_nil
  tracked loop live := by
    obtain rfl := SpawnedTask.live.inj live
    exact ⟨rfl, rfl, nofun⟩
  alive := nofun
  turns := rfl
  uncancelled := nofun

theorem invariant_step {interval : Duration} {s t : DlqSchedule} {a : Action}
    (representable : (interval.checkedMul 32).isSome = true) (inv : Invariant interval s)
    (taken : s.step a = some t) : Invariant interval t := by
  cases step_cases taken with
  | cancelled => exact { inv with }
  | answered live phase =>
      have now := inv.tracked _ live
      refine { inv with tracked := ?_, alive := nofun, turns := ?_ }
      · rintro loop same
        obtain rfl := SpawnedTask.live.inj same
        exact ⟨now.interval, now.counted, nofun⟩
      · have before := inv.turns
        rw [scanning_of_phase live phase] at before
        exact before
  | succeeded live phase =>
      have now := inv.tracked _ live
      have before := inv.turns
      rw [scanning_of_phase live phase] at before
      refine ⟨due_cons inv.due (fun _ => now.interval) nofun, ?_, nofun, before, inv.uncancelled⟩
      rintro loop same
      obtain rfl := SpawnedTask.live.inj same
      exact ⟨now.interval, rfl, fun nextWait waiting => by cases waiting; rfl⟩
  | @failed loop scan errors nextWait live phase counted product =>
      have now := inv.tracked _ live
      have before := inv.turns
      rw [scanning_of_phase live phase] at before
      have run : errors = min (errorRun s.waits + 1) (2 ^ 32 - 1) := by
        rw [counted, now.counted]
        omega
      rw [now.interval, run, min_saturated, one_shiftLeft] at product
      refine ⟨due_cons inv.due nofun fun _ => Duration.asNanos_checkedMul product, ?_, nofun,
        before, inv.uncancelled⟩
      rintro loop same
      obtain rfl := SpawnedTask.live.inj same
      exact ⟨now.interval, run, fun nextWait waiting => by cases waiting; rfl⟩
  | @panicked loop errors message live product =>
      have now := inv.tracked _ live
      have fits := Duration.checkedMul_isSome_of_le (factor_le errors) representable
      rw [← now.interval, product] at fits
      cases fits
  | finished live phase token =>
      have before := inv.turns
      rw [waiting_of_phase live phase] at before
      exact ⟨inv.due, nofun, nofun, before, inv.uncancelled⟩
  | waited live phase token =>
      have now := inv.tracked _ live
      have before := inv.turns
      rw [waiting_of_phase live phase] at before
      refine ⟨inv.due, ?_, nofun, congrArg (· + 1) before, ?_⟩
      · rintro loop same
        obtain rfl := SpawnedTask.live.inj same
        exact ⟨now.interval, now.counted, nofun⟩
      · intro cancelled among
        cases older : s.scans with
        | nil => simp [older] at among
        | cons last earlier =>
            rw [older, List.dropLast_cons_cons, List.mem_cons, ← older] at among
            exact among.elim (·.trans token) (inv.uncancelled cancelled)

theorem invariant_of_runs {interval : Duration} {tokenCancelled : Bool} {as : List Action}
    {s : DlqSchedule} (representable : (interval.checkedMul 32).isSome = true)
    (path : Runs (start interval tokenCancelled) as s) : Invariant interval s :=
  path.invariant (fun _ _ _ kept _ taken => invariant_step representable kept taken)
    (invariant_start interval tokenCancelled)

/-- Nothing is scanned under a cancelled token. -/
theorem scans_step_of_cancelled {s t : DlqSchedule} {a : Action}
    (token : s.tokenCancelled = true) (taken : s.step a = some t) :
    t.scans = s.scans ∧ t.tokenCancelled = true := by
  cases step_cases taken with
  | cancelled => exact ⟨rfl, rfl⟩
  | waited live phase token' => exact absurd (token.symm.trans token') nofun
  | _ => exact ⟨rfl, token⟩

theorem scans_of_cancelled {s t : DlqSchedule} {as : List Action}
    (token : s.tokenCancelled = true) (path : Runs s as t) : t.scans = s.scans := by
  have kept := path.invariant
    (I := fun u => u.scans = s.scans ∧ u.tokenCancelled = true) ?_ ⟨rfl, token⟩
  · exact kept.1
  · rintro u a v ⟨same, cancelled⟩ - taken
    obtain ⟨next, token'⟩ := scans_step_of_cancelled cancelled taken
    exact ⟨next.trans same, token'⟩

/-- What is promised of the processor in every state it reaches. -/
structure OnSchedule (interval : Duration) (s : DlqSchedule) : Prop where
  /-- the wait behind a success is the interval, the one behind the `k`-th consecutive error the
  interval times `2 ^ min k 5` -/
  due : Due interval s.waits
  growing : ∀ wait before earlier, wait :: before :: earlier <:+ s.waits →
    wait.succeeded = false → before.duration.asNanos ≤ wait.duration.asNanos
  bounded : ∀ wait ∈ s.waits, wait.duration.asNanos ≤ 32 * interval.asNanos
  /-- every scan that has ended is followed by a wait, and the loop sleeps for the last one -/
  turns : s.scans.length = s.waits.length + s.scanning.toNat
  asleep : ∀ loop nextWait, s.processor = .live loop → loop.phase = .waiting nextWait →
    s.waits.head?.map DlqWait.duration = some nextWait
  /-- the counter stays in a `u32` and the shift in its width, and no bit is lost -/
  counter : ∀ loop, s.processor = .live loop →
    loop.consecutiveErrors < 2 ^ 32 ∧ min loop.consecutiveErrors maxBackoffShift < 32 ∧
      ((1 : UInt32) <<< UInt32.ofNat (min loop.consecutiveErrors maxBackoffShift)).toNat =
        2 ^ min (errorRun s.waits) 5
  alive : ∀ message, s.processor ≠ .ended (.panicked message)
  uncancelled : ∀ cancelled ∈ s.scans.dropLast, cancelled = false
  stopped : s.tokenCancelled = true → ∀ as t, Runs s as t → t.scans = s.scans

/-- A shift by at most five is the same on machine words. -/
theorem toNat_shiftLeft {shift : Nat} (capped : shift ≤ 5) :
    ((1 : UInt32) <<< UInt32.ofNat shift).toNat = 2 ^ shift := by
  have checked : ∀ n : Fin 6, ((1 : UInt32) <<< UInt32.ofNat n.val).toNat = 2 ^ n.val := by decide
  exact checked ⟨shift, Nat.lt_succ_of_le capped⟩

/-- The waits of the DLQ processor, however its scans end and whenever it is cancelled. -/
theorem onSchedule {interval : Duration} {tokenCancelled : Bool} {as : List Action}
    {s : DlqSchedule} (representable : (interval.checkedMul 32).isSome = true)
    (path : Runs (start interval tokenCancelled) as s) : OnSchedule interval s := by
  have inv := invariant_of_runs representable path
  refine
    { due := inv.due
      growing := fun wait before earlier suffix failed => inv.due.growing suffix failed
      bounded := inv.due.bounded
      turns := inv.turns
      asleep := fun loop nextWait live phase => (inv.tracked loop live).asleep nextWait phase
      counter := ?_
      alive := inv.alive
      uncancelled := inv.uncancelled
      stopped := fun token _ _ onward => scans_of_cancelled token onward }
  intro loop live
  have counted := (inv.tracked loop live).counted
  have capped : min loop.consecutiveErrors maxBackoffShift ≤ 5 := Nat.min_le_right ..
  refine ⟨by omega, by omega, ?_⟩
  rw [toNat_shiftLeft capped, counted, min_saturated]

/-! ### Every sequence of outcomes -/

/-- The scan finds nothing, or it is refused. -/
def scanReply (succeeds : Bool) : (s : Statement) → Statement.Reply s
  | .findFailedJobs => if succeeds then .ok [] else .error ⟨"", ""⟩
  | s => refuse ⟨"", ""⟩ s

/-- The loop is about to send the statement of a scan, and its token is not cancelled. -/
structure Ready (s : DlqSchedule) (loop : DlqProcessor) : Prop where
  live : s.processor = .live loop
  phase : loop.phase = .scanning Client.processFailedJobs
  token : s.tokenCancelled = false

/-- A scan may end either way, and the next one starts behind the wait. -/
theorem exists_turn {interval : Duration} {s : DlqSchedule} {loop : DlqProcessor}
    (representable : (interval.checkedMul 32).isSome = true) (inv : Invariant interval s)
    (ready : Ready s loop) (succeeds : Bool) :
    ∃ as t loop', Runs s as t ∧ Ready t loop' ∧
      t.waits.map DlqWait.succeeded = succeeds :: s.waits.map DlqWait.succeeded := by
  obtain ⟨processor, token, scans, waits⟩ := s
  obtain ⟨own, errors, phase⟩ := loop
  obtain rfl : processor = _ := ready.live
  obtain rfl : phase = _ := ready.phase
  obtain rfl : token = false := ready.token
  obtain rfl : own = interval := (inv.tracked _ rfl).interval
  cases succeeds with
  | true =>
      refine ⟨[.wake (.answer (scanReply true)), .wake .resume, .wake .timer], _, _,
        .cons trivial rfl (.cons trivial rfl (.cons trivial rfl (.nil _))), ⟨rfl, rfl, rfl⟩, rfl⟩
  | false =>
      obtain ⟨nextWait, product⟩ := Option.isSome_iff_exists.mp
        (Duration.checkedMul_isSome_of_le (factor_le (min (errors + 1) (2 ^ 32 - 1)))
          representable)
      have refused :
          step
              ⟨.live ⟨own, errors, .scanning (.fail (.sqlxError ⟨"", ""⟩))⟩, false, scans, waits⟩
              (.wake .resume) =
            some
              ⟨.live ⟨own, min (errors + 1) (2 ^ 32 - 1), .waiting nextWait⟩, false, scans,
                ⟨false, nextWait⟩ :: waits⟩ := by
        simp only [step, DlqProcessor.step, Client.outcome?, Option.map_some,
          DlqProcessor.afterScan, product, record, Option.any_some, Except.isOk, Except.toBool]
      exact ⟨[.wake (.answer (scanReply false)), .wake .resume, .wake .timer], _, _,
        .cons trivial rfl (.cons trivial refused (.cons trivial rfl (.nil _))), ⟨rfl, rfl, rfl⟩,
        rfl⟩

/-- Any sequence of outcomes, latest first, is the history of a run. -/
theorem exists_outcomes {interval : Duration}
    (representable : (interval.checkedMul 32).isSome = true) (outcomes : List Bool) :
    ∃ as s loop, Runs (start interval false) as s ∧ Ready s loop ∧
      s.waits.map DlqWait.succeeded = outcomes := by
  induction outcomes with
  | nil => exact ⟨[], _, _, .nil _, ⟨rfl, rfl, rfl⟩, rfl⟩
  | cons succeeds earlier ih =>
      obtain ⟨as, s, loop, path, ready, history⟩ := ih
      obtain ⟨bs, t, loop', turn, ready', longer⟩ :=
        exists_turn representable (invariant_of_runs representable path) ready succeeds
      exact ⟨as ++ bs, t, loop', path.append turn, ready', history ▸ longer⟩

/-- Two errors and a success behind them, at the default interval of a minute. -/
theorem onSchedule_minute :
    ∃ as s, Runs (start (.fromSecs 60) false) as s ∧
      s.waits.map DlqWait.succeeded = [true, false, false] ∧ OnSchedule (.fromSecs 60) s := by
  have representable : ((Duration.fromSecs 60).checkedMul 32).isSome = true := by decide +kernel
  obtain ⟨as, s, loop, path, -, history⟩ := exists_outcomes representable [true, false, false]
  exact ⟨as, s, path, history, onSchedule representable path⟩

end DlqSchedule

end Backfill
