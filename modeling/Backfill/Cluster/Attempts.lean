import Backfill.Cluster.DoubleExecution
import Backfill.Cluster.HiddenFailures

/-!
# Attempts that are not settled yet

Between the fetch of a job and the `UPDATE` of its `JobFail` hook lie the steps of everybody else.
`Attempts` is a journal that remembers what each hook was told. An attempt at a job is unsettled
while its handler runs, while its hook is still to start and until that hook has sent its `UPDATE`.
-/

namespace Backfill

/-- The statement is not the `UPDATE` of the `JobFail` hook. -/
def Statement.NoShortCircuit (s : Statement) : Prop :=
  ∀ jobId reason, s ≠ .shortCircuit jobId reason

namespace Journal

variable {tables : CharTables} {j j' : Journal} {a : JournalAction} {row : JobRow}

/-- What a step can make of a job row it leaves in the queue. -/
inductive RowChange (j : Journal) : JournalAction → JobRow → JobRow → Prop
  | kept {a : JournalAction} {row : JobRow} : RowChange j a row row
  | fetched {worker : String} {row : JobRow} :
      RowChange j (.base (.fetch worker row.id)) row
        ((JobRow.fetched worker j.cluster.now).apply row)
  | failed {i : Nat} {e : Execution} {error : String} {retryAt : Timestamp} {row : JobRow}
      (among : e ∈ j.cluster.running) (same : row.id = e.job.id) :
      RowChange j (.base (.fail i error retryAt)) row
        ((JobRow.failedWith error retryAt j.cluster.now).apply row)
  | released {a : JournalAction} {row : JobRow} (locked : row.lockedAt ≠ none) :
      RowChange j a row (JobRow.unlock.apply row)
  | superseded {a : JournalAction} {row : JobRow} (locked : row.lockedAt ≠ none) :
      RowChange j a row ((JobRow.superseded j.cluster.now).apply row)
  | rewritten {a : JournalAction} {job : NewJob} {row : JobRow} {taskId : Int}
      {jobQueueId : Option Int} (enqueues : j.enqueues? a = some job)
      (rewrites : job.Rewrites row) :
      RowChange j a row ((job.overwrite taskId jobQueueId j.cluster.now).apply row)
  | shortCircuited {a : JournalAction} {reason : String} {row : JobRow}
      (sends : j.sends? a = some (.shortCircuit row.id reason)) :
      RowChange j a row ((JobRow.shortCircuit reason j.cluster.now).apply row)

/-- An enqueue that finds its key on an unlocked row rewrites the row, or leaves it as it is. -/
theorem RowChange.of_overwrite {job : NewJob} {taskId : Int} {jobQueueId : Option Int}
    (enqueues : j.enqueues? a = some job) (unlocked : row.lockedAt = none)
    (keyed : job.key ≠ none) (same : row.key = job.key) :
    j.RowChange a row ((job.overwrite taskId jobQueueId j.cluster.now).apply row) := by
  by_cases dedupe : job.mode = .unsafeDedupe
  · have idle : (job.overwrite taskId jobQueueId j.cluster.now).apply row = row := by
      simp [NewJob.overwrite, dedupe]
    exact idle.symm ▸ .kept
  · exact .rewritten enqueues ⟨unlocked, keyed, same, dedupe⟩

/-- What is left of that when the step enqueues nothing. -/
inductive SilentChange (j : Journal) : JournalAction → JobRow → JobRow → Prop
  | kept {a : JournalAction} {row : JobRow} : SilentChange j a row row
  | fetched {worker : String} {row : JobRow} :
      SilentChange j (.base (.fetch worker row.id)) row
        ((JobRow.fetched worker j.cluster.now).apply row)
  | failed {i : Nat} {e : Execution} {error : String} {retryAt : Timestamp} {row : JobRow}
      (among : e ∈ j.cluster.running) (same : row.id = e.job.id) :
      SilentChange j (.base (.fail i error retryAt)) row
        ((JobRow.failedWith error retryAt j.cluster.now).apply row)
  | released {a : JournalAction} {row : JobRow} (locked : row.lockedAt ≠ none) :
      SilentChange j a row (JobRow.unlock.apply row)
  | shortCircuited {a : JournalAction} {reason : String} {row : JobRow}
      (sends : j.sends? a = some (.shortCircuit row.id reason)) :
      SilentChange j a row ((JobRow.shortCircuit reason j.cluster.now).apply row)

theorem SilentChange.rowChange {old : JobRow} (change : j.SilentChange a old row) :
    j.RowChange a old row := by
  cases change with
  | kept => exact .kept
  | fetched => exact .fetched
  | failed among same => exact .failed among same
  | released locked => exact .released locked
  | shortCircuited sends => exact .shortCircuited sends

/-- What a statement that enqueues nothing makes of a row. -/
theorem SilentChange.of_answered {op : Statement} {old : JobRow} (sends : j.sends? a = some op)
    (accepted : a.fault = none) (silent : j.enqueues? a = none)
    (change : op.RowChange j.cluster.now old row) : j.SilentChange a old row := by
  cases change with
  | kept => exact .kept
  | released stale =>
      obtain ⟨lockedAt, locked, -⟩ := lockedBefore_iff.mp stale
      exact .released (locked ▸ Option.some_ne_none _)
  | superseded locked | overwritten unlocked keyed same =>
      cases silent.symm.trans (enqueues_of_sends sends accepted)
  | shortCircuited available => exact .shortCircuited sends

/-- The rows of the queue after a step that enqueues nothing. -/
theorem changed_of_silent (silent : j.enqueues? a = none) (taken : j.step tables a = some j')
    (member : row ∈ j'.db.jobs.rows) : ∃ old ∈ j.db.jobs.rows, j.SilentChange a old row := by
  cases sends : j.sends? a with
  | some op =>
      rw [sends_step sends taken] at member
      cases accepted : a.fault with
      | some error =>
          rw [accepted] at member
          exact ⟨row, member, .kept⟩
      | none =>
          rw [accepted] at member
          rcases Statement.row_answer member with ⟨old, oldMember, change⟩ | adds
          · exact ⟨old, oldMember, .of_answered sends accepted silent change⟩
          · obtain ⟨_, _, _, _, _, rfl, -⟩ := adds
            cases silent.symm.trans (enqueues_of_sends sends accepted)
  | none =>
      cases a with
      | requeue dlqId notes =>
          obtain rfl := Option.some.inj taken
          exact ⟨row, member, .kept⟩
      | hookSend i fault =>
          obtain ⟨hook, op, next, entry, calls, rfl⟩ := hookSend_some taken
          simp [sends?, entry, calls, Program.next?] at sends
      | requeueSend i fault =>
          obtain ⟨requeue, op, next, entry, calls, rfl⟩ := requeueSend_some taken
          simp [sends?, entry, calls, Program.next?] at sends
      | base b =>
          obtain ⟨cluster, moved, rfl⟩ := base_some taken
          rcases Cluster.row_step moved member with ⟨old, oldMember, change⟩ | adds
          · refine ⟨old, oldMember, ?_⟩
            cases change with
            | kept => exact .kept
            | fetched available => exact .fetched
            | failed entry same => exact .failed (List.mem_of_getElem? entry) same
            | superseded | overwritten => cases silent
            | answered sending change => cases sending.symm.trans sends
          · cases b with
            | enqueue job => cases silent
            | send i fault =>
                obtain ⟨op, sending, -⟩ := adds
                cases sending.symm.trans sends
            | _ => exact adds.elim

/-- The rows of the queue after a step: what it made of a row that was there, or a new one. -/
theorem changed_step (taken : j.step tables a = some j') (member : row ∈ j'.db.jobs.rows) :
    (∃ old ∈ j.db.jobs.rows, j.RowChange a old row) ∨ row.id = j.db.jobs.nextId := by
  cases enqueues : j.enqueues? a with
  | none =>
      obtain ⟨old, oldMember, change⟩ := changed_of_silent enqueues taken member
      exact .inl ⟨old, oldMember, change.rowChange⟩
  | some job =>
      rw [db_enqueues enqueues taken] at member
      rcases Database.of_mem_addJob member with
        kept | ⟨old, oldMember, locked, rfl⟩ |
          ⟨old, oldMember, unlocked, keyed, same, -, _, _, rfl⟩ | ⟨_, _, rfl⟩
      · exact .inl ⟨row, kept, .kept⟩
      · exact .inl ⟨old, oldMember, .superseded locked⟩
      · exact .inl ⟨old, oldMember, .of_overwrite enqueues unlocked keyed same⟩
      · exact .inr rfl

/-- Only an enqueue that rewrites a row gives it another payload. -/
theorem RowChange.payload_eq {old : JobRow} (change : j.RowChange a old row) :
    row.payload = old.payload ∨
      ∃ job, j.enqueues? a = some job ∧ job.Rewrites old := by
  cases change with
  | rewritten enqueues rewrites => exact .inr ⟨_, enqueues, rewrites⟩
  | _ => exact .inl rfl

theorem RowChange.id_eq {old : JobRow} (change : j.RowChange a old row) : row.id = old.id := by
  cases change with
  | rewritten => exact NewJob.overwrite_id
  | _ => rfl

/-- A step keeps a row under its id, unless an execution of its job is completed or a statement
takes it out of the queue. -/
theorem kept_step (taken : j.step tables a = some j') (member : row ∈ j.db.jobs.rows) :
    (∃ r ∈ j'.db.jobs.rows, r.id = row.id) ∨
    (∃ e ∈ j.cluster.running, e.job.id = row.id) ∨
    ∃ op, j.sends? a = some op ∧ op.Removes a.fault j.db row := by
  cases a with
  | requeue dlqId notes =>
      obtain rfl := Option.some.inj taken
      exact .inl ⟨row, member, rfl⟩
  | hookSend i fault =>
      obtain ⟨hook, op, next, entry, calls, rfl⟩ := hookSend_some taken
      refine (Statement.kept_answer member).imp_right fun removes => .inr ⟨op, ?_, removes⟩
      simp [sends?, entry, calls, Program.next?]
  | requeueSend i fault =>
      obtain ⟨requeue, op, next, entry, calls, rfl⟩ := requeueSend_some taken
      refine (Statement.kept_answer member).imp_right fun removes => .inr ⟨op, ?_, removes⟩
      simp [sends?, entry, calls, Program.next?]
  | base b =>
      obtain ⟨cluster, moved, rfl⟩ := base_some taken
      rcases Cluster.kept_step moved member with
        kept | ⟨i, e, rfl, entry, same⟩ | ⟨i, fault, op, rfl, sends, removes⟩
      · exact .inl kept
      · exact .inr (.inl ⟨e, List.mem_of_getElem? entry, same⟩)
      · exact .inr (.inr ⟨op, sends, removes⟩)

end Journal

/-- A journal that remembers what its `JobFail` hooks were told. -/
structure Attempts where
  journal : Journal
  /-- For each hook the index of its routine, and what it was told. -/
  told : List (Nat × JobFailContext)

namespace Attempts

/-- Nothing has happened yet. -/
def initial (now : Timestamp) (db : Database) : Attempts where
  journal := .initial now db
  told := []

/-- The database of the journal. -/
abbrev db (s : Attempts) : Database := s.journal.db

/-- The statement routine `i` is about to send. -/
abbrev Sends (s : Attempts) (i : Nat) (op : Statement) : Prop := s.journal.cluster.Sends i op

/-- The hook a step starts. -/
def toldBy (s : Attempts) : JournalAction → List (Nat × JobFailContext)
  | .base (.jobFail i) => s.journal.cluster.failures[i]?.toList.map fun ctx =>
      (s.journal.cluster.routines.length, ctx)
  | _ => []

/-- A step of the journal. -/
def step (tables : CharTables) (s : Attempts) (a : JournalAction) : Option Attempts :=
  (s.journal.step tables a).map fun journal =>
    { journal := journal
      told := s.told ++ s.toldBy a }

/-- An attempt at `job` may still end in the `UPDATE` of its hook. -/
inductive Unsettled (tables : CharTables) (s : Attempts) (job : Job) : Prop
  /-- its handler is running -/
  | running {e : Execution} (among : e ∈ s.journal.cluster.running) (same : e.job = job)
  /-- its error is not retryable, and the hook has not started -/
  | failed {ctx : JobFailContext} (among : ctx ∈ s.journal.cluster.failures) (same : ctx.job = job)
      (permanent : (WorkerError.classifyFromMessage tables ctx.error).isRetryable = false)
  /-- the hook is about to send its statement -/
  | hooked {i : Nat} {ctx : JobFailContext} {reason : String} (among : (i, ctx) ∈ s.told)
      (same : ctx.job = job) (sends : s.Sends i (.shortCircuit ctx.job.id reason))

/-- An attempt at `job` has failed with an error that is not retryable, and the `UPDATE` of its hook
is still to come. -/
inductive FailedForGood (tables : CharTables) (s : Attempts) (job : Job) : Prop
  | waits {ctx : JobFailContext} (among : ctx ∈ s.journal.cluster.failures) (same : ctx.job = job)
      (permanent : (WorkerError.classifyFromMessage tables ctx.error).isRetryable = false)
  | hooked {i : Nat} {ctx : JobFailContext} {reason : String} (among : (i, ctx) ∈ s.told)
      (same : ctx.job = job) (sends : s.Sends i (.shortCircuit ctx.job.id reason))

theorem FailedForGood.unsettled {tables : CharTables} {s : Attempts} {job : Job}
    (failed : s.FailedForGood tables job) : s.Unsettled tables job := by
  cases failed with
  | waits among same permanent => exact .failed among same permanent
  | hooked among same sends => exact .hooked among same sends

/-- An attempt is unsettled while it runs, or once it has failed for good. -/
theorem Unsettled.cases {tables : CharTables} {s : Attempts} {job : Job}
    (unsettled : s.Unsettled tables job) :
    (∃ e ∈ s.journal.cluster.running, e.job = job) ∨ s.FailedForGood tables job := by
  cases unsettled with
  | running among same => exact .inl ⟨_, among, same⟩
  | failed among same permanent => exact .inr (.waits among same permanent)
  | hooked among same sends => exact .inr (.hooked among same sends)

/-- A step starts no routine, other than a hook, that uses up the attempts of a job. -/
def OnlyHooksExhaust (a : JournalAction) : Prop :=
  ∀ routine, a = .base (.start routine) → routine.Calls Statement.NoShortCircuit

/-- What workers run besides their jobs and hooks does not. -/
theorem OnlyHooksExhaust.of_worker {timeout : Duration} {routine : Client Nat}
    (started : Cluster.WorkerRoutine timeout routine) :
    OnlyHooksExhaust (.base (.start routine)) := by
  rintro _ ⟨⟩
  exact started.calls nofun (fun _ => nofun) (fun _ => nofun) nofun nofun nofun

/-- An enqueue starts no routine at all. -/
theorem OnlyHooksExhaust.of_enqueues {j : Journal} {a : JournalAction} {job : NewJob}
    (enqueues : j.enqueues? a = some job) : OnlyHooksExhaust a := by
  rintro routine rfl
  cases enqueues

theorem OnlyHooksExhaust.of_send {i : Nat} {fault : Option ForeignError} :
    OnlyHooksExhaust (.base (.send i fault)) := by
  rintro routine ⟨⟩

/-- Every routine that may use up the attempts of a job is a hook that was told of it and has sent
nothing. -/
structure Hooked (tables : CharTables) (s : Attempts) : Prop where
  placed : ∀ i ctx, (i, ctx) ∈ s.told → i < s.journal.cluster.routines.length
  told : ∀ i ctx, (i, ctx) ∈ s.told → ∀ routine, s.journal.cluster.routines[i]? = some routine →
    routine = Client.permanentFailureHook tables ctx ∨ routine = .done 0
  others : ∀ (i : Nat) routine, s.journal.cluster.routines[i]? = some routine →
    (∃ ctx, (i, ctx) ∈ s.told) ∨ routine.Calls Statement.NoShortCircuit
  hooks : ∀ hook ∈ s.journal.hooks, hook.routine.Calls Statement.NoShortCircuit
  requeues : ∀ requeue ∈ s.journal.requeues, requeue.routine.Calls Statement.NoShortCircuit

variable {tables : CharTables} {s s' : Attempts} {a : JournalAction} {job : Job}

/-- A step is one of the journal. -/
theorem step_some (taken : s.step tables a = some s') :
    s.journal.step tables a = some s'.journal ∧ s'.told = s.told ++ s.toldBy a := by
  obtain ⟨journal, moved, rfl⟩ := Option.map_eq_some_iff.mp taken
  exact ⟨moved, rfl⟩

theorem mem_toldBy {i : Nat} {ctx : JobFailContext} (among : (i, ctx) ∈ s.toldBy a) :
    ∃ k, a = .base (.jobFail k) ∧ s.journal.cluster.failures[k]? = some ctx ∧
      i = s.journal.cluster.routines.length := by
  unfold toldBy at among
  split at among
  next k =>
    obtain ⟨ctx', failed, same⟩ := List.mem_map.mp among
    obtain ⟨rfl, rfl⟩ := Prod.mk.inj same
    exact ⟨k, rfl, Option.mem_toList.mp failed, rfl⟩
  next => cases among

/-- A hook sends one statement, if its error is not retryable, and that is its end. -/
theorem hook_calls {ctx : JobFailContext} {op : Statement}
    {next : Statement.Reply op → Client Nat}
    (calls : Client.permanentFailureHook tables ctx = .call op next) :
    (WorkerError.classifyFromMessage tables ctx.error).isRetryable = false ∧
      (∃ reason, op = .shortCircuit ctx.job.id reason) ∧ ∀ reply, next reply = .done 0 := by
  unfold Client.permanentFailureHook at calls
  dsimp only at calls
  split at calls
  next => cases calls
  next permanent =>
    cases calls
    exact ⟨Bool.eq_false_iff.mpr permanent, ⟨_, rfl⟩, fun _ => rfl⟩

theorem hook_next {ctx : JobFailContext} {op : Statement}
    (next : (Client.permanentFailureHook tables ctx).next? = some op) :
    (WorkerError.classifyFromMessage tables ctx.error).isRetryable = false ∧
      ∃ reason, op = .shortCircuit ctx.job.id reason := by
  cases called : Client.permanentFailureHook tables ctx with
  | done value | fail error =>
      rw [called] at next
      cases next
  | call op' rest =>
      rw [called] at next
      obtain rfl := Option.some.inj next
      exact ⟨(hook_calls called).1, (hook_calls called).2.1⟩

namespace Hooked

theorem initial (now : Timestamp) (db : Database) : Hooked tables (initial now db) where
  placed _ _ among := by cases among
  told _ _ among := by cases among
  others i routine entry := by simp [Attempts.initial, Journal.initial, Cluster.initial] at entry
  hooks _ among := by cases among
  requeues _ among := by cases among

/-- Whatever uses up the attempts of a job has been told of a failed attempt at it. -/
theorem sends_told (hooked : Hooked tables s) {i : Nat} {jobId : Int} {reason : String}
    (sends : s.Sends i (.shortCircuit jobId reason)) :
    ∃ ctx, (i, ctx) ∈ s.told ∧ ctx.job.id = jobId := by
  obtain ⟨routine, entry, next⟩ := Option.bind_eq_some_iff.mp sends
  rcases hooked.others i routine entry with ⟨ctx, among⟩ | calls
  · refine ⟨ctx, among, ?_⟩
    rcases hooked.told i ctx among routine entry with rfl | rfl
    · obtain ⟨-, reason', same⟩ := hook_next next
      exact (Statement.shortCircuit.inj same).1.symm
    · cases next
  · exact absurd rfl (calls.next next jobId reason)

/-- Any step that uses up the attempts of a job belongs to an attempt that has failed for good. -/
theorem failedForGood_of_sends (hooked : Hooked tables s) {jobId : Int} {reason : String}
    (sends : s.journal.sends? a = some (.shortCircuit jobId reason)) :
    ∃ job, s.FailedForGood tables job ∧ job.id = jobId := by
  cases a with
  | requeue dlqId notes => cases sends
  | hookSend i fault =>
      obtain ⟨hook, entry, next⟩ := Option.bind_eq_some_iff.mp sends
      exact absurd rfl ((hooked.hooks hook (List.mem_of_getElem? entry)).next next jobId reason)
  | requeueSend i fault =>
      obtain ⟨requeue, entry, next⟩ := Option.bind_eq_some_iff.mp sends
      exact absurd rfl
        ((hooked.requeues requeue (List.mem_of_getElem? entry)).next next jobId reason)
  | base b =>
      cases b with
      | send i fault =>
          obtain ⟨ctx, among, rfl⟩ := hooked.sends_told sends
          exact ⟨ctx.job, .hooked among rfl sends, rfl⟩
      | _ => cases sends

/-- Such an attempt is unsettled. -/
theorem unsettled_of_sends (hooked : Hooked tables s) {jobId : Int} {reason : String}
    (sends : s.journal.sends? a = some (.shortCircuit jobId reason)) :
    ∃ job, s.Unsettled tables job ∧ job.id = jobId := by
  obtain ⟨job, failed, same⟩ := hooked.failedForGood_of_sends sends
  exact ⟨job, failed.unsettled, same⟩

/-- The routine of a hook after a step of the cluster: nothing has happened to it, it has come to
its end, or the step starts it. -/
theorem told_step {b : Action} (hooked : Hooked tables s)
    (taken : s.step tables (.base b) = some s') {i : Nat} {ctx : JobFailContext}
    (among : (i, ctx) ∈ s'.told) {routine : Client Nat}
    (entry : s'.journal.cluster.routines[i]? = some routine) :
    ((i, ctx) ∈ s.told ∧ s.journal.cluster.routines[i]? = some routine) ∨ routine = .done 0 ∨
      (ctx ∈ s.journal.cluster.failures ∧ routine = Client.permanentFailureHook tables ctx) := by
  obtain ⟨moved, told⟩ := step_some taken
  obtain ⟨cluster, clusterMoved, same⟩ := Journal.base_some moved
  have change : Cluster.RoutineChange tables s.journal.cluster i b routine :=
    Cluster.routines_step clusterMoved (by simpa only [same] using entry)
  rw [told] at among
  rcases List.mem_append.mp among with old | new
  · have placed := hooked.placed i ctx old
    cases change with
    | kept before => exact .inl ⟨old, before⟩
    | started last | hooked last => exact absurd last placed.ne
    | sent sending reply =>
        rcases hooked.told i ctx old _ sending with fresh | ended
        · exact .inr (.inl ((hook_calls fresh.symm).2.2 reply))
        · cases ended
  · obtain ⟨k, starts, failed, last⟩ := mem_toldBy new
    obtain rfl := JournalAction.base.inj starts
    cases change with
    | kept before =>
        have inside := (List.getElem?_eq_some_iff.mp before).1
        exact absurd last inside.ne
    | hooked _ failed' =>
        obtain rfl := Option.some.inj (failed.symm.trans failed')
        exact .inr (.inr ⟨List.mem_of_getElem? failed, rfl⟩)

/-- A step of the cluster only starts hooks, and routines that leave attempts alone. -/
theorem base {b : Action} (hooked : Hooked tables s) (allowed : OnlyHooksExhaust (.base b))
    (taken : s.step tables (.base b) = some s') : Hooked tables s' := by
  obtain ⟨moved, told⟩ := step_some taken
  obtain ⟨cluster, clusterMoved, same⟩ := Journal.base_some moved
  have routines : s'.journal.cluster.routines = cluster.routines := by rw [same]
  obtain ⟨longer, appends⟩ := Cluster.length_routines clusterMoved
  refine ⟨fun i ctx among => ?_, fun i ctx among routine entry => ?_, fun i routine entry => ?_,
    fun hook among => ?_, fun requeue among => ?_⟩
  · rw [routines]
    rw [told] at among
    rcases List.mem_append.mp among with old | new
    · exact lt_of_lt_of_le (hooked.placed i ctx old) longer
    · obtain ⟨k, starts, -, rfl⟩ := mem_toldBy new
      exact appends k (JournalAction.base.inj starts)
  · rcases hooked.told_step taken among entry with ⟨old, entry⟩ | ended | ⟨-, starts⟩
    · exact hooked.told i ctx old routine entry
    · exact .inr ended
    · exact .inl starts
  · rw [routines] at entry
    cases Cluster.routines_step clusterMoved entry with
    | kept before =>
        refine (hooked.others i routine before).imp_left ?_
        exact fun ⟨ctx, among⟩ => ⟨ctx, told ▸ List.mem_append_left _ among⟩
    | started last => exact .inr (allowed routine rfl)
    | @hooked k ctx last failed =>
        refine .inl ⟨ctx, told ▸ List.mem_append_right _ ?_⟩
        simp [toldBy, failed, last]
    | sent sending reply =>
        rcases hooked.others i _ sending with ⟨ctx, among⟩ | calls
        · exact .inl ⟨ctx, told ▸ List.mem_append_left _ among⟩
        · exact .inr (calls.2 reply)
  · rw [same] at among
    rcases List.mem_append.mp among with old | new
    · exact hooked.hooks hook old
    · unfold Journal.hooksOf at new
      split at new
      · obtain ⟨e, -, rfl⟩ := List.mem_map.mp new
        exact Client.calls_dlqCleanupHook _ fun _ => nofun
      · cases new
  · rw [same] at among
    exact hooked.requeues requeue among

/-- Routines stay what they are, or have sent their statement. -/
theorem step (hooked : Hooked tables s) (allowed : OnlyHooksExhaust a)
    (taken : s.step tables a = some s') : Hooked tables s' := by
  cases a with
  | base b => exact hooked.base allowed taken
  | requeue dlqId notes =>
      obtain ⟨moved, told⟩ := step_some taken
      obtain ⟨journal, hooks⟩ := s'
      obtain rfl : hooks = s.told := by simpa [toldBy] using told
      obtain rfl := Option.some.inj moved
      refine ⟨hooked.placed, hooked.told, hooked.others, hooked.hooks, fun requeue among => ?_⟩
      rcases List.mem_append.mp among with old | new
      · exact hooked.requeues requeue old
      · obtain rfl := List.mem_singleton.mp new
        exact Client.calls_requeueDlqJob dlqId notes nofun (fun _ _ _ => nofun) nofun
  | hookSend i fault =>
      obtain ⟨moved, told⟩ := step_some taken
      obtain ⟨journal, hooks⟩ := s'
      obtain rfl : hooks = s.told := by simpa [toldBy] using told
      obtain ⟨hook, op, next, entry, calls, rfl⟩ := Journal.hookSend_some moved
      refine ⟨hooked.placed, hooked.told, hooked.others, fun other among => ?_, hooked.requeues⟩
      rcases List.mem_or_eq_of_mem_set among with old | rfl
      · exact hooked.hooks other old
      · have before := hooked.hooks hook (List.mem_of_getElem? entry)
        rw [calls] at before
        exact before.2 _
  | requeueSend i fault =>
      obtain ⟨moved, told⟩ := step_some taken
      obtain ⟨journal, hooks⟩ := s'
      obtain rfl : hooks = s.told := by simpa [toldBy] using told
      obtain ⟨requeue, op, next, entry, calls, rfl⟩ := Journal.requeueSend_some moved
      refine ⟨hooked.placed, hooked.told, hooked.others, hooked.hooks, fun other among => ?_⟩
      rcases List.mem_or_eq_of_mem_set among with old | rfl
      · exact hooked.requeues other old
      · have before := hooked.requeues requeue (List.mem_of_getElem? entry)
        rw [calls] at before
        exact before.2 _

theorem of_run {now : Timestamp} {db : Database} {as : List JournalAction}
    (path : Transition.Run (Attempts.step tables) (fun _ => OnlyHooksExhaust)
      (Attempts.initial now db) as s) : Hooked tables s :=
  path.invariant (fun _ _ _ hooked allowed taken => hooked.step allowed taken) (.initial now db)

end Hooked

/-- A step outside the cluster tells no hook. -/
theorem toldBy_outside (outside : ∀ b, a ≠ .base b) : s.toldBy a = [] := by
  unfold toldBy
  split
  next k => exact absurd rfl (outside _)
  next => rfl

/-- An attempt has failed for good because it had before the step, or because it fails in it. -/
theorem failedForGood_step (hooked : Hooked tables s) (taken : s.step tables a = some s')
    (failed : s'.FailedForGood tables job) :
    s.FailedForGood tables job ∨ ∃ i error retryAt e, a = .base (.fail i error retryAt) ∧
      s.journal.cluster.running[i]? = some e ∧ e.job = job ∧
        (WorkerError.classifyFromMessage tables error).isRetryable = false := by
  obtain ⟨moved, told⟩ := step_some taken
  rcases Journal.cluster_step moved with ⟨b, rfl, clusterMoved⟩ | ⟨outside, same⟩
  · cases failed with
    | waits among same permanent =>
        subst same
        rcases Cluster.failures_step clusterMoved among with old | ⟨i, retryAt, e, rfl, entry, same⟩
        · exact .inl (.waits old rfl permanent)
        · exact .inr ⟨i, _, retryAt, e, rfl, entry, same, permanent⟩
    | hooked among same sends =>
        subst same
        left
        obtain ⟨routine, entry, next⟩ := Option.bind_eq_some_iff.mp sends
        rcases hooked.told_step taken among entry with ⟨old, before⟩ | rfl | ⟨waited, rfl⟩
        · exact .hooked old rfl (Option.bind_eq_some_iff.mpr ⟨routine, before, next⟩)
        · cases next
        · exact .waits waited rfl (hook_next next).1
  · rw [toldBy_outside outside, List.append_nil] at told
    cases failed with
    | waits among is permanent => exact .inl (.waits (by rwa [same] at among) is permanent)
    | hooked among is sends =>
        rw [told] at among
        exact .inl (.hooked among is (by rwa [Sends, Cluster.Sends, same] at sends))

/-- An attempt is unsettled because it was before the step, or because the step starts it. -/
theorem unsettled_step (hooked : Hooked tables s) (taken : s.step tables a = some s')
    (unsettled : s'.Unsettled tables job) :
    s.Unsettled tables job ∨ ∃ worker jobId db, a = .base (.fetch worker jobId) ∧
      s.db.getJob worker s.journal.cluster.now jobId = some (job, db) := by
  rcases unsettled.cases with ⟨e, among, rfl⟩ | failed
  · exact (Journal.running_of_step (step_some taken).1 among).imp_left fun old => .running old rfl
  · rcases failedForGood_step hooked taken failed with before | ⟨_, _, _, e, -, entry, same, -⟩
    · exact .inl before.unsettled
    · exact .inl (.running (List.mem_of_getElem? entry) same)

end Attempts

end Backfill
