import Backfill.Misc.Transition
import Backfill.Worker
import Backfill.Worker.Tasks

/-!
# `run_until_cancelled` and what outlives it (`worker.rs:594`)

The call and the three tasks it spawns are one machine. A step is a step of the call, a step
of one task, or the token being cancelled, so a run is any interleaving of them. The five
seconds of a wait may run out at any moment at which the awaited task is still running.
-/

namespace Backfill

/-- Where the call stands. -/
inductive Stage
  /-- the pre-move and the startup cleanup -/
  | startup (rest : Client Unit)
  | recordActive
  | spawnDlqProcessor
  | spawnStaleLockCleanup
  | createWorker
  | spawnWorker
  | select
  | joinDlqProcessor
  | joinStaleLockCleanup
  | recordStopped
  | returned (result : Except BackfillError Unit)

/-- What happens to the call at an `await`, or that it goes on to the next one. -/
inductive Move
  | next
  | answer (reply : (s : Statement) → Statement.Reply s)
  /-- `create_worker` returns, with its error if there is one -/
  | created (failure : Option String)
  /-- the `select!` sees the cancelled token -/
  | cancelled
  /-- the `select!` sees that the worker task has ended -/
  | workerEnded
  | joined
  | timedOut

inductive RunnerAction
  | cancel
  | main (move : Move)
  | dlqProcessor (wake : Wake)
  | staleLockCleanup (wake : Wake)
  /-- the run loop of the job queue does something -/
  | work
  /-- the run loop of the job queue ends -/
  | workerEnds (how : TaskEnd (Except String Unit))

/-- A step of a spawned task, not of the call or of the owner of the token. -/
def RunnerAction.ofTask : RunnerAction → Bool
  | cancel | main _ => false
  | dlqProcessor _ | staleLockCleanup _ | work | workerEnds _ => true

structure Runner where
  /-- `backfill_worker_active` -/
  activeGauge : Int
  tokenCancelled : Bool
  dlqProcessor : Option (SpawnedTask DlqProcessor Unit)
  staleLockCleanup : Option (SpawnedTask StaleLockCleanup Unit)
  worker : Option (SpawnedTask Unit (Except BackfillError Unit))
  stage : Stage

/-- A wait of at most five seconds for a task is over: there is nothing to wait for, the
task has ended, or the time is up while it is running. -/
def SpawnedTask.waitOver {σ α : Type} : Option (SpawnedTask σ α) → Move → Bool
  | none, .next => true
  | some (.ended _), .joined => true
  | some (.live _), .timedOut => true
  | _, _ => false

/-- The error of the run loop as its task returns it. -/
def workerResult : TaskEnd (Except String Unit) → TaskEnd (Except BackfillError Unit)
  | .finished result => .finished (result.mapError .workerRuntime)
  | .panicked message => .panicked message

namespace Runner

/-- A call that has just been made. -/
def initial (config : WorkerConfig) (gauge : Int) : Runner where
  activeGauge := gauge
  tokenCancelled := false
  dlqProcessor := none
  staleLockCleanup := none
  worker := none
  stage := .startup (Client.startup config)

/-- The call returns. -/
def returns (s : Runner) (result : Except BackfillError Unit) : Runner :=
  { s with stage := .returned result }

/-- The `select!` picks the handle of the worker: only a worker that ended well lets the
call go on, and only a panic has the gauge set back before the early return. -/
def workerEnded (s : Runner) : Option Runner :=
  match s.worker with
  | some (.ended (.finished (.ok ()))) => some { s with stage := .joinDlqProcessor }
  | some (.ended (.finished (.error error))) => some (s.returns (.error error))
  | some (.ended (.panicked message)) =>
      some ({ s with activeGauge := 0 }.returns (.error (.workerRuntime message)))
  | _ => none

/-- One step of the call. -/
def mainStep (config : WorkerConfig) (s : Runner) (move : Move) : Option Runner :=
  match s.stage, move with
  | .startup rest, .answer reply =>
      (rest.answer reply).map fun rest => { s with stage := .startup rest }
  | .startup rest, .next => rest.outcome?.map fun _ => { s with stage := .recordActive }
  | .recordActive, .next => some { s with activeGauge := 1, stage := .spawnDlqProcessor }
  | .spawnDlqProcessor, .next =>
      some { s with
        dlqProcessor := config.dlqProcessorInterval.map fun interval => .live (.start interval)
        stage := .spawnStaleLockCleanup }
  | .spawnStaleLockCleanup, .next =>
      some { s with
        staleLockCleanup := config.staleLockCleanupInterval.map fun interval =>
          .live (.start interval config.staleQueueLockTimeout config.staleJobLockTimeout)
        stage := .createWorker }
  | .createWorker, .created none => some { s with stage := .spawnWorker }
  | .createWorker, .created (some failure) => some (s.returns (.error (.workerRuntime failure)))
  | .spawnWorker, .next => some { s with worker := some (.live ()), stage := .select }
  | .select, .cancelled =>
      if s.tokenCancelled then some { s with stage := .joinDlqProcessor } else none
  | .select, .workerEnded => s.workerEnded
  | .joinDlqProcessor, move =>
      if SpawnedTask.waitOver s.dlqProcessor move then
        some { s with stage := .joinStaleLockCleanup }
      else none
  | .joinStaleLockCleanup, move =>
      if SpawnedTask.waitOver s.staleLockCleanup move then some { s with stage := .recordStopped }
      else none
  | .recordStopped, .next => some ({ s with activeGauge := 0 }.returns (.ok ()))
  | _, _ => none

/-- One step of the call or of one of its tasks; `none` when the action is not possible. -/
def step (config : WorkerConfig) (s : Runner) : RunnerAction → Option Runner
  | .cancel => some { s with tokenCancelled := true }
  | .main move => s.mainStep config move
  | .dlqProcessor wake =>
      (SpawnedTask.step (DlqProcessor.step s.tokenCancelled wake) s.dlqProcessor).map fun task =>
        { s with dlqProcessor := some task }
  | .staleLockCleanup wake =>
      (SpawnedTask.step (StaleLockCleanup.step s.tokenCancelled wake) s.staleLockCleanup).map
        fun task => { s with staleLockCleanup := some task }
  | .work =>
      (SpawnedTask.step (fun loop => some (.live loop)) s.worker).map fun task =>
        { s with worker := some task }
  | .workerEnds how =>
      (SpawnedTask.step (fun _ => some (.ended (workerResult how))) s.worker).map fun task =>
        { s with worker := some task }

/-- Any interleaving of the call, its tasks and the owner of the token. -/
abbrev Runs (config : WorkerConfig) : Runner → List RunnerAction → Runner → Prop :=
  Transition.Run (step config) fun _ _ => True

/-- No task of the call will take another step, whatever else happens. -/
def Quiet (config : WorkerConfig) (s : Runner) : Prop :=
  ∀ as t, Runs config s as t → ∀ a ∈ as, a.ofTask = false

def Returned (s : Runner) : Prop := ∃ result, s.stage = .returned result

/-- No task of the call is running. -/
structure Still (s : Runner) : Prop where
  dlqProcessor : SpawnedTask.running s.dlqProcessor = false
  staleLockCleanup : SpawnedTask.running s.staleLockCleanup = false
  worker : SpawnedTask.running s.worker = false

/-- What a step keeps that is not one of the call: where the call stands, the gauge, and
every task that is not running. -/
structure Frame (s t : Runner) : Prop where
  stage : t.stage = s.stage
  activeGauge : t.activeGauge = s.activeGauge
  dlqProcessor : SpawnedTask.running s.dlqProcessor = false → t.dlqProcessor = s.dlqProcessor
  staleLockCleanup : SpawnedTask.running s.staleLockCleanup = false →
    t.staleLockCleanup = s.staleLockCleanup
  worker : SpawnedTask.running s.worker = false → t.worker = s.worker

/-- What a step of the call can be: the stage it is taken in, its guard and what it does. -/
inductive MainStep (config : WorkerConfig) (s : Runner) : Move → Runner → Prop
  | answered {rest rest' : Client Unit} {reply : (s : Statement) → Statement.Reply s}
      (stage : s.stage = .startup rest) (answer : rest.answer reply = some rest') :
      MainStep config s (.answer reply) { s with stage := .startup rest' }
  | started {rest : Client Unit} {result : Except BackfillError Unit}
      (stage : s.stage = .startup rest) (outcome : rest.outcome? = some result) :
      MainStep config s .next { s with stage := .recordActive }
  | recorded (stage : s.stage = .recordActive) :
      MainStep config s .next { s with activeGauge := 1, stage := .spawnDlqProcessor }
  | spawnedDlqProcessor (stage : s.stage = .spawnDlqProcessor) :
      MainStep config s .next { s with
        dlqProcessor := config.dlqProcessorInterval.map fun interval => .live (.start interval)
        stage := .spawnStaleLockCleanup }
  | spawnedStaleLockCleanup (stage : s.stage = .spawnStaleLockCleanup) :
      MainStep config s .next { s with
        staleLockCleanup := config.staleLockCleanupInterval.map fun interval =>
          .live (.start interval config.staleQueueLockTimeout config.staleJobLockTimeout)
        stage := .createWorker }
  | created (stage : s.stage = .createWorker) :
      MainStep config s (.created none) { s with stage := .spawnWorker }
  | notCreated {failure : String} (stage : s.stage = .createWorker) :
      MainStep config s (.created (some failure)) (s.returns (.error (.workerRuntime failure)))
  | spawnedWorker (stage : s.stage = .spawnWorker) :
      MainStep config s .next { s with worker := some (.live ()), stage := .select }
  | cancelled (stage : s.stage = .select) (token : s.tokenCancelled = true) :
      MainStep config s .cancelled { s with stage := .joinDlqProcessor }
  | workerEnded {t : Runner} (stage : s.stage = .select) (ended : s.workerEnded = some t) :
      MainStep config s .workerEnded t
  | joinedDlqProcessor {move : Move} (stage : s.stage = .joinDlqProcessor)
      (ended : SpawnedTask.waitOver s.dlqProcessor move = true) :
      MainStep config s move { s with stage := .joinStaleLockCleanup }
  | joinedStaleLockCleanup {move : Move} (stage : s.stage = .joinStaleLockCleanup)
      (ended : SpawnedTask.waitOver s.staleLockCleanup move = true) :
      MainStep config s move { s with stage := .recordStopped }
  | stopped (stage : s.stage = .recordStopped) :
      MainStep config s .next ({ s with activeGauge := 0 }.returns (.ok ()))

theorem mainStep_cases {config : WorkerConfig} {s t : Runner} {move : Move}
    (taken : s.mainStep config move = some t) : MainStep config s move t := by
  unfold mainStep at taken
  split at taken
  next stage =>
    obtain ⟨rest', answer, rfl⟩ := Option.map_eq_some_iff.mp taken
    exact .answered stage answer
  next stage =>
    obtain ⟨result, outcome, rfl⟩ := Option.map_eq_some_iff.mp taken
    exact .started stage outcome
  next stage => exact Option.some.inj taken ▸ .recorded stage
  next stage => exact Option.some.inj taken ▸ .spawnedDlqProcessor stage
  next stage => exact Option.some.inj taken ▸ .spawnedStaleLockCleanup stage
  next stage => exact Option.some.inj taken ▸ .created stage
  next stage => exact Option.some.inj taken ▸ .notCreated stage
  next stage => exact Option.some.inj taken ▸ .spawnedWorker stage
  next stage =>
    obtain ⟨token, same⟩ := Option.ite_none_right_eq_some.mp taken
    exact Option.some.inj same ▸ .cancelled stage token
  next stage => exact .workerEnded stage taken
  next stage =>
    obtain ⟨ended, same⟩ := Option.ite_none_right_eq_some.mp taken
    exact Option.some.inj same ▸ .joinedDlqProcessor stage ended
  next stage =>
    obtain ⟨ended, same⟩ := Option.ite_none_right_eq_some.mp taken
    exact Option.some.inj same ▸ .joinedStaleLockCleanup stage ended
  next stage => exact Option.some.inj taken ▸ .stopped stage
  next => exact absurd taken nofun

/-- A step is one of the call or stays in the frame. -/
theorem step_cases {config : WorkerConfig} {s t : Runner} {a : RunnerAction}
    (taken : s.step config a = some t) :
    (∃ move, a = .main move ∧ s.mainStep config move = some t) ∨ Frame s t := by
  cases a with
  | main move => exact .inl ⟨move, rfl, taken⟩
  | cancel =>
      obtain rfl := Option.some.inj taken
      exact .inr ⟨rfl, rfl, fun _ => rfl, fun _ => rfl, fun _ => rfl⟩
  | dlqProcessor wake =>
      obtain ⟨task, stepped, rfl⟩ := Option.map_eq_some_iff.mp taken
      refine .inr ⟨rfl, rfl, fun still => ?_, fun _ => rfl, fun _ => rfl⟩
      exact absurd (stepped.symm.trans (SpawnedTask.step_eq_none still)) nofun
  | staleLockCleanup wake =>
      obtain ⟨task, stepped, rfl⟩ := Option.map_eq_some_iff.mp taken
      refine .inr ⟨rfl, rfl, fun _ => rfl, fun still => ?_, fun _ => rfl⟩
      exact absurd (stepped.symm.trans (SpawnedTask.step_eq_none still)) nofun
  | work | workerEnds how =>
      obtain ⟨task, stepped, rfl⟩ := Option.map_eq_some_iff.mp taken
      refine .inr ⟨rfl, rfl, fun _ => rfl, fun _ => rfl, fun still => ?_⟩
      exact absurd (stepped.symm.trans (SpawnedTask.step_eq_none still)) nofun

/-- A still runner stays so, and no task takes a step. -/
theorem Still.step {config : WorkerConfig} {s t : Runner} {a : RunnerAction} (still : s.Still)
    (returned : s.Returned) (taken : s.step config a = some t) :
    (t.Still ∧ t.Returned) ∧ a.ofTask = false := by
  obtain ⟨result, stage⟩ := returned
  cases a with
  | main move =>
      simp only [Runner.step, mainStep, stage] at taken
      exact absurd taken nofun
  | cancel =>
      obtain rfl := Option.some.inj taken
      exact ⟨⟨⟨still.dlqProcessor, still.staleLockCleanup, still.worker⟩, result, stage⟩, rfl⟩
  | dlqProcessor wake =>
      rw [Runner.step, SpawnedTask.step_eq_none still.dlqProcessor] at taken
      exact absurd taken nofun
  | staleLockCleanup wake =>
      rw [Runner.step, SpawnedTask.step_eq_none still.staleLockCleanup] at taken
      exact absurd taken nofun
  | work | workerEnds how =>
      rw [Runner.step, SpawnedTask.step_eq_none still.worker] at taken
      exact absurd taken nofun

/-- A task that is running can take a step. -/
theorem exists_taskStep (config : WorkerConfig) {s : Runner} (busy : ¬ s.Still) :
    ∃ a t, s.step config a = some t ∧ a.ofTask = true := by
  by_cases dlq : SpawnedTask.running s.dlqProcessor = true
  · obtain ⟨loop, live⟩ := SpawnedTask.running_iff.mp dlq
    obtain ⟨wake, task, stepped⟩ := loop.exists_step s.tokenCancelled
    refine ⟨.dlqProcessor wake, { s with dlqProcessor := some task }, ?_, rfl⟩
    rw [step, live, SpawnedTask.step, stepped, Option.map_some]
  by_cases cleanup : SpawnedTask.running s.staleLockCleanup = true
  · obtain ⟨loop, live⟩ := SpawnedTask.running_iff.mp cleanup
    obtain ⟨wake, task, stepped⟩ := loop.exists_step s.tokenCancelled
    refine ⟨.staleLockCleanup wake, { s with staleLockCleanup := some task }, ?_, rfl⟩
    rw [step, live, SpawnedTask.step, stepped, Option.map_some]
  by_cases worker : SpawnedTask.running s.worker = true
  · obtain ⟨loop, live⟩ := SpawnedTask.running_iff.mp worker
    refine ⟨.work, { s with worker := some (.live loop) }, ?_, rfl⟩
    rw [step, live, SpawnedTask.step, Option.map_some]
  · simp only [Bool.not_eq_true] at dlq cleanup worker
    exact absurd ⟨dlq, cleanup, worker⟩ busy

/-- After the return nothing more happens in the tasks exactly when none is running. -/
theorem quiet_iff (config : WorkerConfig) {s : Runner} (returned : s.Returned) :
    s.Quiet config ↔ s.Still := by
  constructor
  · intro quiet
    by_contra busy
    obtain ⟨a, t, taken, ofTask⟩ := exists_taskStep config busy
    have silent := quiet [a] t (.cons trivial taken (.nil t)) a (List.mem_cons_self ..)
    exact absurd (silent.symm.trans ofTask) nofun
  · intro still as t path
    exact path.actions (I := fun s => s.Still ∧ s.Returned)
      (fun s a t kept taken => kept.1.step kept.2 taken) ⟨still, returned⟩

/-! ### Orderly runs -/

/-- The step lets go of no handle of a running task and skips no decrement: `create_worker`
does not fail, the worker has ended when the `select!` picks the cancelled token, it has not
ended with an error and its panic finds no other task running, and no wait is cut short. -/
def Orderly (s : Runner) : RunnerAction → Prop
  | .main (.created (some _)) => False
  | .main .cancelled => SpawnedTask.running s.worker = false
  | .main .workerEnded =>
      match s.worker with
      | some (.ended (.finished (.error _))) => False
      | some (.ended (.panicked _)) =>
          SpawnedTask.running s.dlqProcessor = false ∧
            SpawnedTask.running s.staleLockCleanup = false
      | _ => True
  | .main .timedOut => False
  | _ => True

/-- What an orderly run has seen to by the stage it has reached. -/
def Upheld (s : Runner) : Prop :=
  match s.stage with
  | .joinDlqProcessor => SpawnedTask.running s.worker = false
  | .joinStaleLockCleanup =>
      SpawnedTask.running s.worker = false ∧ SpawnedTask.running s.dlqProcessor = false
  | .recordStopped => s.Still
  | .returned _ => s.activeGauge = 0 ∧ s.Still
  | _ => True

theorem Upheld.frame {s t : Runner} (upheld : s.Upheld) (frame : Frame s t) : t.Upheld := by
  have dlq (still : SpawnedTask.running s.dlqProcessor = false) :
      SpawnedTask.running t.dlqProcessor = false := frame.dlqProcessor still ▸ still
  have cleanup (still : SpawnedTask.running s.staleLockCleanup = false) :
      SpawnedTask.running t.staleLockCleanup = false := frame.staleLockCleanup still ▸ still
  have worker (still : SpawnedTask.running s.worker = false) :
      SpawnedTask.running t.worker = false := frame.worker still ▸ still
  unfold Upheld at upheld ⊢
  rw [frame.stage]
  cases stage : s.stage with
  | joinDlqProcessor =>
      rw [stage] at upheld
      exact worker upheld
  | joinStaleLockCleanup =>
      rw [stage] at upheld
      exact ⟨worker upheld.1, dlq upheld.2⟩
  | recordStopped =>
      rw [stage] at upheld
      exact ⟨dlq upheld.dlqProcessor, cleanup upheld.staleLockCleanup, worker upheld.worker⟩
  | returned result =>
      rw [stage] at upheld
      exact ⟨frame.activeGauge.trans upheld.1, dlq upheld.2.dlqProcessor,
        cleanup upheld.2.staleLockCleanup, worker upheld.2.worker⟩
  | _ => trivial

/-- A wait that is not cut short ends with nothing running. -/
theorem running_of_waitOver {σ α : Type} {task : Option (SpawnedTask σ α)} {move : Move}
    (ended : SpawnedTask.waitOver task move = true) (patient : move ≠ .timedOut) :
    SpawnedTask.running task = false := by
  match task, move, ended with
  | none, .next, _ | some (.ended _), .joined, _ => rfl
  | some (.live _), .timedOut, _ => exact absurd rfl patient

/-- The `select!` picks the worker's handle in an orderly way. -/
theorem upheld_of_workerEnded {s t : Runner} (orderly : s.Orderly (.main .workerEnded))
    (taken : s.workerEnded = some t) : t.Upheld := by
  unfold Runner.workerEnded at taken
  unfold Orderly at orderly
  split at taken
  · next ended =>
      obtain rfl := Option.some.inj taken
      change SpawnedTask.running s.worker = false
      rw [ended]
      rfl
  · next error ended =>
      simp only [ended] at orderly
  · next message ended =>
      obtain rfl := Option.some.inj taken
      simp only [ended] at orderly
      refine ⟨rfl, orderly.1, orderly.2, ?_⟩
      change SpawnedTask.running s.worker = false
      rw [ended]
      rfl
  · exact absurd taken nofun

/-- An orderly step of the call sees to what the next stage relies on. -/
theorem Upheld.mainStep {config : WorkerConfig} {s t : Runner} {move : Move}
    (upheld : s.Upheld) (orderly : s.Orderly (.main move))
    (taken : s.mainStep config move = some t) : t.Upheld := by
  have patient : move ≠ .timedOut := by
    rintro rfl
    exact orderly
  unfold Upheld at upheld
  cases mainStep_cases taken with
  | answered | started | recorded | spawnedDlqProcessor | spawnedStaleLockCleanup | created
  | spawnedWorker => trivial
  | notCreated => exact orderly.elim
  | cancelled => exact orderly
  | workerEnded stage ended => exact upheld_of_workerEnded orderly ended
  | joinedDlqProcessor stage ended =>
      rw [stage] at upheld
      exact ⟨upheld, running_of_waitOver ended patient⟩
  | joinedStaleLockCleanup stage ended =>
      rw [stage] at upheld
      exact ⟨upheld.2, running_of_waitOver ended patient, upheld.1⟩
  | stopped stage =>
      rw [stage] at upheld
      exact ⟨rfl, upheld.dlqProcessor, upheld.staleLockCleanup, upheld.worker⟩

/-- An orderly run upholds what its stage relies on. -/
theorem upheld_of_orderly {config : WorkerConfig} {gauge : Int} {as : List RunnerAction}
    {s : Runner} (path : Transition.Run (step config) Orderly (initial config gauge) as s) :
    s.Upheld := by
  refine path.invariant (I := Upheld) (fun s a t upheld orderly taken => ?_) trivial
  rcases step_cases taken with ⟨move, rfl, moved⟩ | frame
  · exact upheld.mainStep orderly moved
  · exact upheld.frame frame

/-! ### Steps that are not orderly -/

/-- Between the two updates of the gauge it reads one. -/
def Recorded (s : Runner) : Prop :=
  match s.stage with
  | .startup _ | .recordActive | .returned _ => True
  | _ => s.activeGauge = 1

/-- The `select!` picks the worker's handle: it goes on with the gauge as it is, or returns. -/
theorem recorded_of_workerEnded {s t : Runner} (recorded : s.activeGauge = 1)
    (ended : s.workerEnded = some t) : t.Recorded := by
  unfold workerEnded at ended
  split at ended
  · obtain rfl := Option.some.inj ended
    exact recorded
  · obtain rfl := Option.some.inj ended
    trivial
  · obtain rfl := Option.some.inj ended
    trivial
  · exact absurd ended nofun

theorem Recorded.mainStep {config : WorkerConfig} {s t : Runner} {move : Move}
    (recorded : s.Recorded) (taken : s.mainStep config move = some t) : t.Recorded := by
  unfold Recorded at recorded
  cases mainStep_cases taken with
  | answered | started | notCreated | stopped => trivial
  | recorded => exact rfl
  | spawnedDlqProcessor stage | spawnedStaleLockCleanup stage | created stage
  | spawnedWorker stage | cancelled stage | joinedDlqProcessor stage
  | joinedStaleLockCleanup stage =>
      rw [stage] at recorded
      exact recorded
  | workerEnded stage ended =>
      rw [stage] at recorded
      exact recorded_of_workerEnded recorded ended

/-- The gauge reads one at every stage between its two updates. -/
theorem recorded_of_runs {config : WorkerConfig} {gauge : Int} {as : List RunnerAction}
    {s : Runner} (path : Runs config (initial config gauge) as s) : s.Recorded := by
  refine path.invariant (I := Recorded) (fun s a t recorded _ taken => ?_) trivial
  rcases step_cases taken with ⟨move, rfl, moved⟩ | frame
  · exact recorded.mainStep moved
  · unfold Recorded at recorded ⊢
    rw [frame.stage, frame.activeGauge]
    exact recorded

/-- Whatever a task is doing, a wait for it can be over. -/
theorem exists_waitOver {σ α : Type} (task : Option (SpawnedTask σ α)) :
    ∃ move, SpawnedTask.waitOver task move = true := by
  match task with
  | none => exact ⟨.next, rfl⟩
  | some (.ended how) => exact ⟨.joined, rfl⟩
  | some (.live state) => exact ⟨.timedOut, rfl⟩

/-- A call that waits for its handles can return while its tasks stay where they are. -/
theorem exists_return (config : WorkerConfig) {s : Runner}
    (joining : s.stage = .joinDlqProcessor ∨ s.stage = .joinStaleLockCleanup ∨
      s.stage = .recordStopped) :
    ∃ as t, Runs config s as t ∧ t.Returned ∧ (t.Still → s.Still) := by
  have stopped {s : Runner} (stage : s.stage = .recordStopped) :
      ∃ as t, Runs config s as t ∧ t.Returned ∧ (t.Still → s.Still) := by
    refine ⟨[.main .next], { s with activeGauge := 0 }.returns (.ok ()), ?_, ⟨_, rfl⟩, ?_⟩
    · refine .cons trivial ?_ (.nil _)
      simp only [step, mainStep, stage]
    · exact fun still => ⟨still.dlqProcessor, still.staleLockCleanup, still.worker⟩
  have cleanup {s : Runner} (stage : s.stage = .joinStaleLockCleanup) :
      ∃ as t, Runs config s as t ∧ t.Returned ∧ (t.Still → s.Still) := by
    obtain ⟨move, ended⟩ := exists_waitOver s.staleLockCleanup
    obtain ⟨as, t, path, returned, still⟩ := stopped (s := { s with stage := .recordStopped }) rfl
    refine ⟨.main move :: as, t, .cons trivial ?_ path, returned, fun ended => ?_⟩
    · simp only [step, mainStep, stage, if_pos ended]
    · exact ⟨(still ended).dlqProcessor, (still ended).staleLockCleanup, (still ended).worker⟩
  rcases joining with dlq | join | done
  · obtain ⟨move, ended⟩ := exists_waitOver s.dlqProcessor
    obtain ⟨as, t, path, returned, still⟩ :=
      cleanup (s := { s with stage := .joinStaleLockCleanup }) rfl
    refine ⟨.main move :: as, t, .cons trivial ?_ path, returned, fun ended => ?_⟩
    · simp only [step, mainStep, dlq, if_pos ended]
    · exact ⟨(still ended).dlqProcessor, (still ended).staleLockCleanup, (still ended).worker⟩
  · exact cleanup join
  · exact stopped done

/-- A wait is over because the task has ended or was never there, or because time is up. -/
theorem waitOver_cases {σ α : Type} {task : Option (SpawnedTask σ α)} {move : Move}
    (ended : SpawnedTask.waitOver task move = true) :
    move = .next ∨ move = .joined ∨ (move = .timedOut ∧ SpawnedTask.running task = true) := by
  match task, move, ended with
  | none, .next, _ => exact .inl rfl
  | some (.ended _), .joined, _ => exact .inr (.inl rfl)
  | some (.live _), .timedOut, _ => exact .inr (.inr ⟨rfl, rfl⟩)

/-- The call has left nothing behind: the gauge is set back and its tasks are over. -/
def LeftClean (config : WorkerConfig) (s : Runner) : Prop :=
  s.activeGauge = 0 ∧ s.Quiet config

/-- From a stage past the `select!` a task that is running can outlive the call. -/
theorem exists_unclean (config : WorkerConfig) {s : Runner}
    (joining : s.stage = .joinDlqProcessor ∨ s.stage = .joinStaleLockCleanup ∨
      s.stage = .recordStopped) (busy : ¬ s.Still) :
    ∃ as t, Runs config s as t ∧ t.Returned ∧ ¬ t.LeftClean config := by
  obtain ⟨as, t, path, returned, still⟩ := exists_return config joining
  exact ⟨as, t, path, returned, fun clean => busy (still ((quiet_iff config returned).mp clean.2))⟩

/-- A call that picks the worker's handle in a way that is not orderly returns at once, with
the gauge still set or with a task still running. -/
theorem unclean_of_workerEnded (config : WorkerConfig) {s t : Runner}
    (recorded : s.activeGauge = 1) (ended : s.workerEnded = some t)
    (disorderly : ¬ s.Orderly (.main .workerEnded)) :
    ∃ as u, Runs config t as u ∧ u.Returned ∧ ¬ u.LeftClean config := by
  unfold workerEnded at ended
  unfold Orderly at disorderly
  split at ended
  · next worker =>
      simp only [worker, not_true_eq_false] at disorderly
  · obtain rfl := Option.some.inj ended
    refine ⟨[], _, .nil _, ⟨_, rfl⟩, fun clean => ?_⟩
    exact absurd (recorded.symm.trans clean.1) (by decide)
  · next worker =>
      obtain rfl := Option.some.inj ended
      simp only [worker] at disorderly
      refine ⟨[], _, .nil _, ⟨_, rfl⟩, fun clean => disorderly ?_⟩
      have still := (quiet_iff config ⟨_, rfl⟩).mp clean.2
      exact ⟨still.dlqProcessor, still.staleLockCleanup⟩
  · exact absurd ended nofun

/-- A step that is not orderly either returns uncleanly or can be continued to a return that
is not clean. -/
theorem unclean_of_not_orderly {config : WorkerConfig} {s t : Runner} {a : RunnerAction}
    (recorded : s.Recorded) (taken : s.step config a = some t) (disorderly : ¬ s.Orderly a) :
    ∃ as u, Runs config t as u ∧ u.Returned ∧ ¬ u.LeftClean config := by
  unfold Recorded at recorded
  cases a with
  | main move =>
      cases mainStep_cases taken with
      | notCreated stage =>
          rw [stage] at recorded
          refine ⟨[], _, .nil _, ⟨_, rfl⟩, fun clean => ?_⟩
          exact absurd (recorded.symm.trans clean.1) (by decide)
      | cancelled =>
          exact exists_unclean config (.inl rfl) fun still => disorderly still.worker
      | workerEnded stage ended =>
          rw [stage] at recorded
          exact unclean_of_workerEnded config recorded ended disorderly
      | joinedDlqProcessor stage ended =>
          rcases waitOver_cases ended with rfl | rfl | ⟨rfl, busy⟩
          · exact absurd trivial disorderly
          · exact absurd trivial disorderly
          · exact exists_unclean config (.inr (.inl rfl)) fun still =>
              absurd (still.dlqProcessor.symm.trans busy) nofun
      | joinedStaleLockCleanup stage ended =>
          rcases waitOver_cases ended with rfl | rfl | ⟨rfl, busy⟩
          · exact absurd trivial disorderly
          · exact absurd trivial disorderly
          · exact exists_unclean config (.inr (.inr rfl)) fun still =>
              absurd (still.staleLockCleanup.symm.trans busy) nofun
      | _ => exact absurd trivial disorderly
  | _ => exact absurd trivial disorderly

/-- An orderly call leaves nothing behind when it returns, and a step that is not orderly can
always be continued to a return that does: a task of its goes on, or the gauge is still
set. -/
theorem returned_leftClean (config : WorkerConfig) (gauge : Int) :
    (∀ as s, Transition.Run (step config) Orderly (initial config gauge) as s → s.Returned →
      s.LeftClean config) ∧
    ∀ as s a t, Runs config (initial config gauge) as s → s.step config a = some t →
      ¬ s.Orderly a → ∃ bs u, Runs config t bs u ∧ u.Returned ∧ ¬ u.LeftClean config := by
  constructor
  · intro as s path returned
    have upheld := upheld_of_orderly path
    obtain ⟨result, stage⟩ := returned
    unfold Upheld at upheld
    rw [stage] at upheld
    exact ⟨upheld.1, (quiet_iff config ⟨result, stage⟩).mpr upheld.2⟩
  · intro as s a t path taken disorderly
    exact unclean_of_not_orderly (recorded_of_runs path) taken disorderly

/-- The call with every statement refused, up to its `select!`, and then the cancellation. -/
def untilCancelled : List RunnerAction :=
  [.main (.answer (refuse ⟨"", ""⟩)), .main (.answer (refuse ⟨"", ""⟩)), .main .next, .main .next,
    .main .next, .main .next, .main (.created none), .main .next, .cancel]

/-- The three tasks end before the call looks: the worker well, the loops by the token. -/
def tasksEnd : List RunnerAction :=
  [.workerEnds (.finished (.ok ())), .dlqProcessor (.answer (refuse ⟨"", ""⟩)),
    .dlqProcessor .resume, .dlqProcessor .cancelled, .staleLockCleanup .resume,
    .staleLockCleanup .cancelled]

/-- A cancelled call at its `select!` whose tasks have ended well. -/
def settled (stage : Stage) : Runner where
  activeGauge := 1
  tokenCancelled := true
  dlqProcessor := some (.ended (.finished ()))
  staleLockCleanup := some (.ended (.finished ()))
  worker := some (.ended (.finished (.ok ())))
  stage := stage

/-- A call whose tasks have all ended when it sees the cancellation leaves nothing behind. -/
theorem cancelled_call_leftClean :
    ∃ as s, Transition.Run (step .default) Orderly (initial .default 0) as s ∧ s.Returned ∧
      s.LeftClean .default := by
  have guarded : ∀ a ∈ untilCancelled ++ tasksEnd, ∀ s, Orderly s a := by
    simp [untilCancelled, tasksEnd, Orderly]
  have first : Transition.Run (step .default) Orderly (initial .default 0)
      (untilCancelled ++ tasksEnd) (settled .select) := .of_run guarded rfl
  have joined : Transition.Run (step .default) Orderly (settled .joinDlqProcessor)
      [.main .joined, .main .joined, .main .next]
      ({ settled .recordStopped with activeGauge := 0 }.returns (.ok ())) :=
    .of_run (by simp [Orderly]) rfl
  have seen : (settled .select).Orderly (.main .cancelled) := rfl
  have path := first.append (.cons seen rfl joined)
  exact ⟨_, _, path, ⟨_, rfl⟩, (returned_leftClean .default 0).1 _ _ path ⟨_, rfl⟩⟩

/-- A call that is cancelled while its worker runs returns, and the worker works on. -/
theorem cancelled_call_outlived :
    ∃ as s, Runs .default (initial .default 0) as s ∧ s.Returned ∧ ∃ t,
      s.step .default .work = some t :=
  ⟨untilCancelled ++ [.main .cancelled, .main .timedOut, .main .timedOut, .main .next], _,
    .of_run (fun _ _ _ => trivial) rfl, ⟨_, rfl⟩, _, rfl⟩

end Runner

end Backfill
