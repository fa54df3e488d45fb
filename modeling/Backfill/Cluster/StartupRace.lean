import Backfill.Cluster.DlqTick
import Backfill.Client.Capture

/-!
# A startup next to live workers

The startup of a runner is five kinds of statements, and other workers go on between them.
`StartupStage` are the shapes of the sequence and `StartupStage.send` says what each
statement does. Between its scan and its delete the sequence is safe as long as every
exhausted unlocked job is either still to be moved or already recorded; the conditions
under which the steps of the others keep that are `KeepsSecured`.
-/

namespace Backfill

namespace Client

/-- The routine has scanned and has yet to delete. -/
def betweenScanAndDelete (routine : Client Nat) : Bool :=
  match routine.next? with
  | some (.moveFailedJob _) | some (.releaseQueueLocks _) | some (.releaseJobLocks _)
  | some .deleteFailedJobs => true
  | _ => false

end Client

/-- The stages of the startup sequence with the DLQ enabled. -/
inductive StartupStage (config : WorkerConfig) : Client Nat → Prop
  | scan : StartupStage config
      (Client.processFailedJobs.attempt >>= fun _ => Client.startupCleanupPhase config)
  | moving (jobs : List FailedJob) (moved : Nat) : StartupStage config
      ((Client.moveFailedJobs jobs moved).attempt >>= fun _ => Client.startupCleanupPhase config)
  | releasingJobs (queueLocksReleased : Nat) : StartupStage config
      ((Client.releaseStaleJobLocks config.staleJobLockTimeout >>= fun jobLocksReleased =>
        Client.cleanupPermanentlyFailedJobs >>= fun jobsDeleted =>
          pure (queueLocksReleased, jobLocksReleased, jobsDeleted)).attempt >>= fun _ => pure 0)
  | deleting (queueLocksReleased jobLocksReleased : Nat) : StartupStage config
      ((Client.cleanupPermanentlyFailedJobs >>= fun jobsDeleted =>
        pure (queueLocksReleased, jobLocksReleased, jobsDeleted)).attempt >>= fun _ => pure 0)
  | looking : StartupStage config (.call .dlqRelation fun _ => .done 0)
  | finished : StartupStage config (.done 0)

/-- What a statement of the startup does when it is not refused. -/
inductive StartupStage.Effect (now : Timestamp) (db : Database) (table : DlqTable)
    (routine rest : Client Nat) : Database → Prop
  | scanned (sends : routine.next? = some .findFailedJobs)
      (bound : rest.pendingMoves = db.findFailedJobs.map FailedJob.toInsert) :
      Effect now db table routine rest db
  | gone (values : DlqInsert) (sends : routine.next? = some (.moveFailedJob values))
      (next : routine.pendingMoves = values :: rest.pendingMoves)
      (absent : ∀ row ∈ db.jobs.rows, row.id ≠ values.originalJobId) :
      Effect now db table routine rest db
  | moved (values : DlqInsert) (sends : routine.next? = some (.moveFailedJob values))
      (next : routine.pendingMoves = values :: rest.pendingMoves) :
      Effect now db table routine rest (db.moved now values table)
  | releasedQueues (secs : Int) (sends : routine.next? = some (.releaseQueueLocks secs))
      (left : rest.pendingMoves = []) :
      Effect now db table routine rest (db.releasedQueues (lockCutoff now secs))
  | releasedJobs (secs : Int) (sends : routine.next? = some (.releaseJobLocks secs))
      (left : rest.pendingMoves = []) :
      Effect now db table routine rest (db.releasedJobs (lockCutoff now secs))
  | deleted (sends : routine.next? = some .deleteFailedJobs)
      (closed : rest.betweenScanAndDelete = false) :
      Effect now db table routine rest db.withoutAbandoned
  | looked (sends : routine.next? = some .dlqRelation)
      (closed : rest.betweenScanAndDelete = false) : Effect now db table routine rest db

namespace StartupStage

variable {config : WorkerConfig} {now : Timestamp} {db db' : Database} {table : DlqTable}
  {routine rest : Client Nat} {events : List Event}

@[simp] theorem pendingMoves_moving (jobs : List FailedJob) (moved : Nat) :
    Client.pendingMoves ((Client.moveFailedJobs jobs moved).attempt >>=
      fun _ => Client.startupCleanupPhase config) = jobs.map FailedJob.toInsert := by
  induction jobs generalizing moved with
  | nil => rfl
  | cons job jobs ih => exact congrArg _ (ih moved)

/-- Every statement of the startup, in the order in which they come. -/
theorem send (stage : StartupStage config routine) (present : db.dlq = .ok table)
    (sent : routine.send now none db = some (rest, db', events)) :
    StartupStage config rest ∧ Effect now db table routine rest db' := by
  cases stage with
  | scan =>
      obtain ⟨rfl, rfl, rfl⟩ := Client.send_call sent
      simp only [Statement.answer_none, Statement.exec, present]
      exact ⟨.moving _ 0, .scanned rfl (pendingMoves_moving _ 0)⟩
  | moving jobs moved =>
      cases jobs with
      | nil =>
          obtain ⟨rfl, rfl, rfl⟩ := Client.send_call sent
          exact ⟨.releasingJobs _, .releasedQueues _ rfl rfl⟩
      | cons job jobs =>
          obtain ⟨rfl, rfl, rfl⟩ := Client.send_call sent
          simp only [Statement.answer_none, Statement.exec, present, Database.moveFailedJob]
          cases found : db.jobs.get? job.toInsert.originalJobId with
          | none =>
              exact ⟨.moving jobs _, .gone job.toInsert rfl
                (by rw [pendingMoves_moving]; exact congrArg _ (pendingMoves_moving jobs _).symm)
                (SerialTable.get?_eq_none.mp found)⟩
          | some row =>
              exact ⟨.moving jobs _, .moved job.toInsert rfl
                (by rw [pendingMoves_moving]; exact congrArg _ (pendingMoves_moving jobs _).symm)⟩
  | releasingJobs queueLocksReleased =>
      obtain ⟨rfl, rfl, rfl⟩ := Client.send_call sent
      exact ⟨.deleting _ _, .releasedJobs _ rfl rfl⟩
  | deleting queueLocksReleased jobLocksReleased =>
      obtain ⟨rfl, rfl, rfl⟩ := Client.send_call sent
      dsimp only [Statement.answer_none, Statement.exec, Program.bind]
      split
      · exact ⟨.looking, .deleted rfl rfl⟩
      · exact ⟨.finished, .deleted rfl rfl⟩
  | looking =>
      obtain ⟨rfl, rfl, rfl⟩ := Client.send_call sent
      exact ⟨.finished, .looked rfl rfl⟩
  | finished => cases sent

end StartupStage

/-- The stages of the permanent-failure hook. -/
inductive HookStage : Client Nat → Prop
  | update (jobId : Int) (reason : String) :
      HookStage (.call (.shortCircuit jobId reason) fun _ => .done 0)
  | finished : HookStage (.done 0)

theorem HookStage.hook (tables : CharTables) (ctx : JobFailContext) :
    HookStage (Client.permanentFailureHook tables ctx) := by
  unfold Client.permanentFailureHook
  dsimp only
  split
  · exact .finished
  · exact .update _ _

namespace Cluster

/-- The steps of one startup and of workers that fetch and fail jobs and run the hook, with
no statement refused. -/
def StartupAndWorkers : Action → Prop
  | .advance _ | .fetch _ _ | .fail _ _ _ | .jobFail _ => True
  | .send _ fault => fault = none
  | .complete _ | .crash _ | .enqueue _ | .start _ => False

/-- The startup is the first routine; it is between its scan and its delete. -/
def windowOpen (s : Cluster) : Bool := s.routines.head?.any Client.betweenScanAndDelete

/-- The rows the startup has bound and not yet moved. -/
def pendingIds (s : Cluster) : List Int :=
  ((s.routines.head?.map Client.pendingMoves).getD []).map DlqInsert.originalJobId

/-- The delete cannot lose this job: it is still to be moved, or recorded. -/
def Secured (s : Cluster) (jobId : Int) : Prop := jobId ∈ s.pendingIds ∨ s.db.Recorded jobId

/-- What the startup relies on at each of its own statements and at those of the hook. -/
def SendKeepsSecured (s : Cluster) : Option Statement → Prop
  -- every exhausted unlocked row survives the join of the scan
  | some .findFailedJobs => ∀ row ∈ s.db.jobs.rows, row.failed = true → row.lockedAt = none →
      (s.db.taskIdentifier? row.taskId).isSome = true
  -- an exhausted unlocked row that is recorded is still to be moved, or keeps a record that the
  -- move does not take over
  | some (.moveFailedJob values) => ∀ row ∈ s.db.jobs.rows, row.failed = true →
      row.lockedAt = none → s.db.Recorded row.id → row.id ∈ s.pendingIds ∨
        ∃ record ∈ s.db.dlqRows, record.originalJobId = some row.id ∧
          (record.jobKey = none ∨ record.jobKey ≠ storedKey values.jobKey)
  -- the stale locks of exhausted rows are those of recorded ones
  | some (.releaseJobLocks secs) => ∀ row ∈ s.db.jobs.rows, row.failed = true →
      lockedBefore (lockCutoff s.now secs) row.lockedAt = true → s.db.Recorded row.id
  -- the hook uses up the attempts of a secured row only
  | some (.shortCircuit jobId _) => s.windowOpen = true → ∀ row ∈ s.db.jobs.rows,
      row.id = jobId → row.isAvailable = true → 0 < row.maxAttempts → s.Secured row.id
  | _ => True

/-- A step after which every exhausted unlocked row is secured if it was before. -/
def KeepsSecured (s : Cluster) : Action → Prop
  -- a last attempt fails only in a row that is secured
  | .fail i _ _ => s.windowOpen = true → ∀ e, s.running[i]? = some e →
      ∀ row ∈ s.db.jobs.rows, row.id = e.job.id → row.lockedBy = some e.worker →
        row.failed = true → s.Secured row.id
  | .send i _ => s.SendKeepsSecured (s.routines[i]?.bind Program.next?)
  | _ => True

/-- The steps of a startup among workers, with at most a hundred exhausted jobs. -/
def FewExhausted (s : Cluster) (a : Action) : Prop :=
  StartupAndWorkers a ∧ (s.db.jobs.rows.filter JobRow.failed).length ≤ 100

/-- Every exhausted job the step takes out of the queue has a record afterwards. -/
def RemovesRecorded (s s' : Cluster) : Prop :=
  ∀ row ∈ s.db.jobs.rows, row.failed = true → (∀ r ∈ s'.db.jobs.rows, r.id ≠ row.id) →
    s'.db.Recorded row.id

/-- What a startup among workers keeps. -/
structure StartupSecured (config : WorkerConfig) (s : Cluster) : Prop where
  dlq : ∃ table, s.db.dlq = .ok table
  shape : ∃ startup hooks, s.routines = startup :: hooks ∧ StartupStage config startup ∧
    ∀ hook ∈ hooks, HookStage hook
  secured : s.windowOpen = true → ∀ row ∈ s.db.jobs.rows, row.failed = true →
    row.lockedAt = none → s.Secured row.id

/-- A step that keeps all ids in the queue removes nothing. -/
theorem RemovesRecorded.of_kept {s s' : Cluster}
    (kept : ∀ row ∈ s.db.jobs.rows, ∃ r ∈ s'.db.jobs.rows, r.id = row.id) :
    RemovesRecorded s s' := by
  intro row member _ gone
  obtain ⟨r, rMember, same⟩ := kept row member
  exact absurd same (gone r rMember)

namespace StartupSecured

variable {config : WorkerConfig} {s s' : Cluster}

theorem fetch {worker : String} {jobId : Int} (inv : StartupSecured config s)
    (fetched : s.fetch worker jobId = some s') :
    StartupSecured config s' ∧ RemovesRecorded s s' := by
  obtain ⟨row, member, job, rfl, available, -, -, copied, rfl⟩ := fetch_some fetched
  refine ⟨⟨inv.dlq, inv.shape, ?_⟩, .of_kept ?_⟩
  · intro opened r newMember failed unlocked
    obtain ⟨old, oldMember, rfl⟩ := Database.mem_lockJob.mp newMember
    split at unlocked
    next key => cases unlocked
    next other =>
      rw [if_neg other] at failed ⊢
      exact inv.secured opened old oldMember failed unlocked
  · exact fun _ => SerialTable.kept_update

theorem fail {i : Nat} {error : String} {retryAt : Timestamp} (inv : StartupSecured config s)
    (keeps : KeepsSecured s (.fail i error retryAt)) (failed : s.fail i error retryAt = some s') :
    StartupSecured config s' ∧ RemovesRecorded s s' := by
  obtain ⟨e, entry, rfl⟩ := Option.map_eq_some_iff.mp failed
  refine ⟨⟨by simpa using inv.dlq, inv.shape, ?_⟩, .of_kept fun _ => Database.kept_failJob⟩
  intro opened r newMember failed unlocked
  have recorded : ∀ jobId, s.Secured jobId → Secured { s with
      db := s.db.failJob e.worker e.job.id error retryAt s.now
      running := s.running.eraseIdx i
      failures := s.failures ++ [{ job := e.job, error := error }] } jobId := fun jobId =>
    Or.imp_right (Database.recorded_congr (Database.dlq_failJob ..)).mpr
  obtain ⟨old, oldMember, rfl | ⟨key, held, rfl⟩⟩ := Database.of_mem_failJob newMember
  · exact recorded _ (inv.secured opened r oldMember failed unlocked)
  · exact recorded _ (keeps opened e entry old oldMember key held failed)

theorem jobFail {tables : CharTables} {i : Nat} (inv : StartupSecured config s)
    (started : s.jobFail tables i = some s') :
    StartupSecured config s' ∧ RemovesRecorded s s' := by
  obtain ⟨ctx, entry, rfl⟩ := Option.map_eq_some_iff.mp started
  obtain ⟨startup, hooks, listed, stage, rest⟩ := inv.shape
  refine ⟨⟨inv.dlq, ⟨startup, hooks ++ [Client.permanentFailureHook tables ctx], ?_, stage, ?_⟩,
    ?_⟩, .of_kept fun row member => ⟨row, member, rfl⟩⟩
  · simp [listed]
  · intro hook member
    rcases List.mem_append.mp member with old | new
    · exact rest hook old
    · exact List.mem_singleton.mp new ▸ .hook tables ctx
  · intro opened row member failed unlocked
    have same := inv.secured (by simpa [windowOpen, listed] using opened) row member failed unlocked
    simpa [Secured, pendingIds, listed] using same

/-- A statement of a hook, which is not the first routine. -/
theorem sendHook {i : Nat} (inv : StartupSecured config s)
    (keeps : KeepsSecured s (.send (i + 1) none)) (sent : s.send (i + 1) none = some s') :
    StartupSecured config s' ∧ RemovesRecorded s s' := by
  obtain ⟨routine, rest, db, events, entry, answered, rfl⟩ := send_some sent
  obtain ⟨startup, hooks, listed, stage, others⟩ := inv.shape
  rw [listed, List.getElem?_cons_succ] at entry
  have hook := others routine (List.mem_of_getElem? entry)
  cases hook with
  | finished => cases answered
  | update jobId reason =>
      obtain ⟨rfl, rfl, rfl⟩ := Client.send_call answered
      rw [listed, List.set_cons_succ]
      simp only [KeepsSecured, listed, List.getElem?_cons_succ, entry] at keeps
      refine ⟨⟨inv.dlq, ⟨startup, _, rfl, stage, ?_⟩, ?_⟩, .of_kept ?_⟩
      · intro other member
        rcases List.mem_or_eq_of_mem_set member with old | rfl
        · exact others other old
        · exact .finished
      · intro opened r newMember failed unlocked
        have openBefore : s.windowOpen = true := by simpa [windowOpen, listed] using opened
        obtain ⟨old, oldMember, rfl⟩ := SerialTable.mem_update.mp newMember
        have secured : s.Secured old.id := by
          split at failed
          next hit =>
            simp only [Bool.and_eq_true, decide_eq_true_eq] at hit
            exact keeps openBefore old oldMember hit.1 hit.2 (JobRow.failed_iff.mp failed).2
          next miss =>
            rw [if_neg miss] at unlocked
            exact inv.secured openBefore old oldMember failed unlocked
        have same : (if (decide (old.id = jobId) && old.isAvailable) = true then
            (JobRow.shortCircuit reason s.now).apply old else old).id = old.id := by
          split <;> rfl
        rw [same]
        refine secured.imp (fun pending => ?_) (Database.recorded_congr rfl).mpr
        simpa [pendingIds, listed] using pending
      · exact fun _ => SerialTable.kept_update

/-- Between its scan and its delete the startup has recorded what it is not about to move. -/
theorem recorded_of_sends {startup : Client Nat} {hooks : List (Client Nat)} {op : Statement}
    (inv : StartupSecured config s) (listed : s.routines = startup :: hooks)
    (sends : startup.next? = some op) (noMove : ∀ values, op ≠ .moveFailedJob values)
    (between : Client.betweenScanAndDelete startup = true) {row : JobRow}
    (member : row ∈ s.db.jobs.rows) (failed : row.failed = true) (unlocked : row.lockedAt = none) :
    s.db.Recorded row.id := by
  refine (inv.secured (by simpa [windowOpen, listed] using between) row member failed
    unlocked).resolve_left fun pending => ?_
  simp [pendingIds, listed, Client.pendingMoves_of_next sends noMove] at pending

/-- After a move, what was secured is still to be moved, or recorded. -/
theorem secured_of_moved {values : DlqInsert} {table : DlqTable} {later : List Int}
    (present : s.db.dlq = .ok table) (next : s.pendingIds = values.originalJobId :: later)
    (keeps : s.SendKeepsSecured (some (.moveFailedJob values))) {row : JobRow}
    (member : row ∈ s.db.jobs.rows) (failed : row.failed = true) (unlocked : row.lockedAt = none)
    (other : row.id ≠ values.originalJobId) (secured : s.Secured row.id) :
    row.id ∈ later ∨ (s.db.moved s.now values table).Recorded row.id := by
  have among : row.id ∈ s.pendingIds → row.id ∈ later := fun pending =>
    (List.mem_cons.mp (next ▸ pending)).resolve_left other
  rcases secured with pending | recorded
  · exact .inl (among pending)
  · rcases keeps row member failed unlocked recorded with
      pending | ⟨record, recordMember, origin, differ⟩
    · exact .inl (among pending)
    · rw [Database.dlqRows_ok present] at recordMember
      exact .inr ⟨record, DlqInsert.mem_upsertInto_of_ne recordMember differ, origin⟩

/-- A statement of the startup itself. -/
theorem sendStartup (inv : StartupSecured config s)
    (few : (s.db.jobs.rows.filter JobRow.failed).length ≤ 100)
    (keeps : KeepsSecured s (.send 0 none)) (sent : s.send 0 none = some s') :
    StartupSecured config s' ∧ RemovesRecorded s s' := by
  obtain ⟨routine, rest, db, events, entry, answered, rfl⟩ := send_some sent
  obtain ⟨startup, hooks, listed, stage, others⟩ := inv.shape
  obtain ⟨table, present⟩ := inv.dlq
  obtain rfl : startup = routine := by simpa [listed] using entry
  obtain ⟨stage', effect⟩ := stage.send present answered
  simp only [KeepsSecured, entry, Option.bind_some] at keeps
  have pendingBefore : s.pendingIds = startup.pendingMoves.map DlqInsert.originalJobId := by
    simp [pendingIds, listed]
  have pendingAfter : pendingIds { s with
      db := db, routines := s.routines.set 0 rest, history := s.history ++ events } =
        rest.pendingMoves.map DlqInsert.originalJobId := by
    simp [pendingIds, listed]
  have shape : ∃ startup hooks, s.routines.set 0 rest = startup :: hooks ∧
      StartupStage config startup ∧ ∀ hook ∈ hooks, HookStage hook :=
    ⟨rest, hooks, by simp [listed], stage', others⟩
  have opened : ∀ op, startup.next? = some op → Client.betweenScanAndDelete startup = true →
      ∀ row ∈ s.db.jobs.rows, row.failed = true → row.lockedAt = none → s.Secured row.id :=
    fun op sends between => inv.secured (by simpa [windowOpen, listed] using between)
  cases effect with
  | scanned sends bound =>
      rw [sends] at keeps
      refine ⟨⟨⟨table, present⟩, shape, ?_⟩, .of_kept fun row member => ⟨row, member, rfl⟩⟩
      intro _ row member failed unlocked
      by_cases recorded : s.db.Recorded row.id
      · exact .inr recorded
      · obtain ⟨identifier, named⟩ := Option.isSome_iff_exists.mp (keeps row member failed unlocked)
        obtain ⟨job, scanned, same⟩ :=
          Database.exists_mem_findFailedJobs few member failed recorded named
        refine .inl ?_
        rw [pendingAfter, bound]
        exact List.mem_map.mpr ⟨_, List.mem_map.mpr ⟨job, scanned, rfl⟩, same⟩
  | gone values sends next absent =>
      refine ⟨⟨⟨table, present⟩, shape, ?_⟩, .of_kept fun row member => ⟨row, member, rfl⟩⟩
      intro _ row member failed unlocked
      rcases opened _ sends (by simp [Client.betweenScanAndDelete, sends]) row member failed
        unlocked with pending | recorded
      · rw [pendingBefore, next, List.map_cons] at pending
        rcases List.mem_cons.mp pending with same | later
        · exact absurd same (absent row member)
        · exact .inl (pendingAfter ▸ later)
      · exact .inr recorded
  | moved values sends next =>
      rw [sends] at keeps
      have between : Client.betweenScanAndDelete startup = true := by
        simp [Client.betweenScanAndDelete, sends]
      refine ⟨⟨⟨_, rfl⟩, shape, ?_⟩, ?_⟩
      · intro _ row newMember failed unlocked
        obtain ⟨member, other⟩ := SerialTable.mem_delete.mp newMember
        have secured := opened _ sends between row member failed unlocked
        rw [Secured, pendingAfter]
        exact secured_of_moved present (by rw [pendingBefore, next, List.map_cons]) keeps member
          failed unlocked (by simpa using other) secured
      · intro row member _ gone
        have same : row.id = values.originalJobId := by
          by_contra other
          exact gone row (SerialTable.mem_delete.mpr ⟨member, by simpa using other⟩) rfl
        exact same ▸ values.exists_recorded table s.now
  | releasedQueues secs sends left =>
      refine ⟨⟨⟨table, present⟩, shape, ?_⟩, .of_kept fun row member => ⟨row, member, rfl⟩⟩
      intro _ row member failed unlocked
      exact .inr (inv.recorded_of_sends listed sends (by simp)
        (by simp [Client.betweenScanAndDelete, sends]) member failed unlocked)
  | releasedJobs secs sends left =>
      rw [sends] at keeps
      refine ⟨⟨⟨table, present⟩, shape, ?_⟩, .of_kept ?_⟩
      · intro _ r newMember failed unlocked
        obtain ⟨row, member, rfl⟩ := SerialTable.mem_update.mp newMember
        split at failed
        next stale =>
          rw [if_pos stale]
          exact .inr (keeps row member failed stale)
        next held =>
          rw [if_neg held] at unlocked ⊢
          exact .inr (inv.recorded_of_sends listed sends (by simp)
            (by simp [Client.betweenScanAndDelete, sends]) member failed unlocked)
      · exact fun _ => SerialTable.kept_update
  | deleted sends closed =>
      refine ⟨⟨⟨table, present⟩, shape, ?_⟩, ?_⟩
      · intro stillOpen
        simp [windowOpen, listed, closed] at stillOpen
      · intro row member failed gone
        have unlocked : row.lockedAt = none := by
          by_contra held
          refine gone row (SerialTable.mem_delete.mpr ⟨member, ?_⟩) rfl
          simp [Option.isNone_eq_false_iff, Option.isSome_iff_ne_none, held]
        exact inv.recorded_of_sends listed sends (by simp)
          (by simp [Client.betweenScanAndDelete, sends]) member failed unlocked
  | looked sends closed =>
      refine ⟨⟨⟨table, present⟩, shape, ?_⟩, .of_kept fun row member => ⟨row, member, rfl⟩⟩
      intro stillOpen
      simp [windowOpen, listed, closed] at stillOpen

/-- Every step of a startup among workers that keeps exhausted rows secured. -/
theorem step {tables : CharTables} {a : Action} (inv : StartupSecured config s)
    (few : FewExhausted s a) (keeps : KeepsSecured s a) (taken : s.step tables a = some s') :
    StartupSecured config s' ∧ RemovesRecorded s s' := by
  cases a with
  | advance micros =>
      obtain rfl := Option.some.inj taken
      exact ⟨⟨inv.dlq, inv.shape, inv.secured⟩, .of_kept fun row member => ⟨row, member, rfl⟩⟩
  | fetch worker jobId => exact inv.fetch taken
  | fail i error retryAt => exact inv.fail keeps taken
  | jobFail i => exact inv.jobFail taken
  | send i fault =>
      obtain rfl : fault = none := few.1
      cases i with
      | zero => exact inv.sendStartup few.2 keeps taken
      | succ i => exact inv.sendHook keeps taken
  | complete i => exact few.1.elim
  | crash i => exact few.1.elim
  | enqueue job => exact few.1.elim
  | start routine => exact few.1.elim

end StartupSecured

/-- A runner's startup has just begun and nothing of it has been sent yet; what the other
workers are doing is left open. -/
def StartingUp (config : WorkerConfig) (s : Cluster) : Prop :=
  s.db.dlq.isOk = true ∧ s.routines = [Client.startupRoutine config]

/-- In every run of a startup next to live workers whose steps keep exhausted unlocked rows
secured, no step takes an exhausted job out of the queue without leaving its record. -/
theorem startup_removes_recorded (tables : CharTables) {config : WorkerConfig}
    (enabled : config.dlqProcessorInterval.isSome = true) {s₀ s s' : Cluster} {as : List Action}
    {a : Action} (starting : StartingUp config s₀)
    (path : Transition.Run (step tables) (fun s a => FewExhausted s a ∧ KeepsSecured s a) s₀ as s)
    (few : FewExhausted s a) (keeps : KeepsSecured s a) (taken : s.step tables a = some s') :
    RemovesRecorded s s' := by
  have inv₀ : StartupSecured config s₀ := by
    obtain ⟨present, listed⟩ := starting
    refine ⟨?_, ⟨_, [], listed, Client.startupRoutine_eq enabled ▸ .scan, by simp⟩, ?_⟩
    · cases found : s₀.db.dlq with
      | ok table => exact ⟨table, rfl⟩
      | error missing => simp [found, Except.isOk, Except.toBool] at present
    · intro opened
      rw [windowOpen, listed, Client.startupRoutine_eq enabled] at opened
      cases opened
  have inv : StartupSecured config s :=
    path.invariant (fun _ _ _ inv guard taken => (inv.step guard.1 guard.2 taken).1) inv₀
  exact (inv.step few keeps taken).2

/-- A startup on a queue with one job that has a single attempt left. -/
def startupWithSingleAttempt : Cluster :=
  { initial 0 (Database.fresh.addJob 0 singleAttempt).2 with
    routines := [Client.startupRoutine .default] }

/-- A job that failed before the scan is moved, and the move leaves its record. -/
theorem startup_moves_failed_job :
    ∃ as s s', Transition.Run (step .ascii) (fun s a => FewExhausted s a ∧ KeepsSecured s a)
        startupWithSingleAttempt as s ∧
      s.step .ascii (.send 0 none) = some s' ∧ s.db.jobs.rows.length = 1 ∧
      s'.db.jobs.rows = [] ∧ RemovesRecorded s s' := by
  have path : Transition.Run (step .ascii) (fun s a => FewExhausted s a ∧ KeepsSecured s a)
      startupWithSingleAttempt [.fetch "worker" 1, .fail 0 "boom" 1, .send 0 none] _ :=
    .cons ⟨⟨trivial, by decide⟩, trivial⟩ rfl <|
      .cons ⟨⟨trivial, by decide⟩, fun opened => by cases opened⟩ rfl <|
        .cons ⟨⟨rfl, by decide⟩, fun _ member _ _ => by
          cases member with
          | head => rfl
          | tail _ member => cases member⟩ rfl <| .nil _
  refine ⟨_, _, _, path, rfl, rfl, rfl, startup_removes_recorded .ascii rfl ⟨rfl, rfl⟩ path ?_ ?_
    (show Cluster.step .ascii _ (.send 0 none) = some _ from rfl)⟩
  · exact ⟨rfl, by decide⟩
  · rintro _ - - - ⟨record, member, -⟩
    cases member

/-- A job whose last attempt is fetched after the scan and fails before the delete is
deleted unrecorded. -/
theorem startup_deletes_late_failure :
    ∃ as s s', Transition.Run (step .ascii) FewExhausted startupWithSingleAttempt as s ∧
      FewExhausted s (.send 0 none) ∧ s.step .ascii (.send 0 none) = some s' ∧
      ¬ RemovesRecorded s s' := by
  have path : Transition.Run (step .ascii) FewExhausted startupWithSingleAttempt
      [.send 0 none, .fetch "worker" 1, .fail 0 "boom" 1, .send 0 none, .send 0 none] _ :=
    .cons ⟨rfl, by decide⟩ rfl <| .cons ⟨trivial, by decide⟩ rfl <|
      .cons ⟨trivial, by decide⟩ rfl <| .cons ⟨rfl, by decide⟩ rfl <|
        .cons ⟨rfl, by decide⟩ rfl <| .nil _
  refine ⟨_, _, _, path, ⟨rfl, by decide⟩, rfl, fun recorded => ?_⟩
  have unrecorded := recorded _ (.head _) rfl (fun _ member => by cases member)
  exact absurd unrecorded (by decide)

end Cluster

end Backfill
