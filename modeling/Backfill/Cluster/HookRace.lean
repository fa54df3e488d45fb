import Backfill.Cluster.Attempts

/-!
# What the `JobFail` hook exhausts (`permanent_failure_plugin.rs:48`)

The `UPDATE` of the hook finds its row by the id of the job that failed, if the row is unlocked and
has attempts left. An enqueue that rewrites the row in place in between leaves the id, and the row
that is found then is a job that nobody has executed.
-/

namespace Backfill

/-- `job` is in the log as it was fetched, and its row has not been written since. -/
def FetchedSinceWritten (log : List Entry) (job : Job) : Prop :=
  ∃ before after, log = before ++ .fetched job :: after ∧
    ∀ entry ∈ after, ∀ row, entry.written? = some row → row.id ≠ job.id

theorem FetchedSinceWritten.append {log more : List Entry} {job : Job}
    (fetched : FetchedSinceWritten log job)
    (others : ∀ entry ∈ more, ∀ row, entry.written? = some row → row.id ≠ job.id) :
    FetchedSinceWritten (log ++ more) job := by
  obtain ⟨before, after, rfl, since⟩ := fetched
  refine ⟨before, after ++ more, by simp, fun entry among => ?_⟩
  rcases List.mem_append.mp among with old | new
  · exact since entry old
  · exact others entry new

/-- A row that has just been written has not been fetched since. -/
theorem not_fetchedSinceWritten {log : List Entry} {row : JobRow} {job : Job}
    (same : row.id = job.id) : ¬ FetchedSinceWritten (log ++ [.written row]) job := by
  rintro ⟨before, after, split, since⟩
  rcases List.eq_nil_or_concat after with rfl | ⟨rest, last, rfl⟩
  · have ends := (List.append_inj' split rfl).2
    cases ends
  · have split' : log ++ [.written row] = (before ++ .fetched job :: rest) ++ [last] := by
      simpa using split
    have ends : [Entry.written row] = [last] := (List.append_inj' split' rfl).2
    obtain rfl := List.singleton_inj.mp ends
    exact since (.written row) (by simp) row rfl same

/-- `job` is what the row with its id has been fetched as, and the row still has its payload. -/
structure Intact (j : Journal) (job : Job) : Prop where
  drawn : job.id < j.db.jobs.nextId
  fetched : FetchedSinceWritten j.log job
  payload : ∀ row ∈ j.db.jobs.rows, row.id = job.id → row.payload = job.payload

namespace Intact

variable {tables : CharTables} {j j' : Journal} {a : JournalAction} {job : Job}

/-- A step that does not rewrite the row in place leaves the payload. -/
theorem step (intact : Intact j job)
    (spared : ∀ new, j.enqueues? a = some new → ∀ row ∈ j.db.jobs.rows, new.Rewrites row →
      row.id ≠ job.id)
    (taken : j.step tables a = some j') : Intact j' job := by
  refine ⟨lt_of_lt_of_le intact.drawn (Journal.nextId_step taken), ?_, fun row member same => ?_⟩
  · obtain ⟨more, log, entered⟩ := Journal.log_step taken
    rw [log]
    refine intact.fetched.append fun entry among row writes => ?_
    rcases (entered entry among).written_id writes with
      new | ⟨new, enqueues, old, member, rewrites, same⟩
    · exact new ▸ intact.drawn.ne'
    · exact same ▸ spared new enqueues old member rewrites
  · rcases Journal.changed_step taken member with ⟨old, oldMember, change⟩ | new
    · have sameOld : old.id = job.id := change.id_eq.symm.trans same
      rcases change.payload_eq with kept | ⟨new, enqueues, rewrites⟩
      · exact kept.trans (intact.payload old oldMember sameOld)
      · exact absurd sameOld (spared new enqueues old oldMember rewrites)
    · exact absurd (same.symm.trans new) intact.drawn.ne

/-- A job that has just been fetched is as its row. -/
theorem of_fetch {worker : String} {jobId : Int} {db : Database}
    (got : j.db.getJob worker j.cluster.now jobId = some (job, db))
    (taken : j.step tables (.base (.fetch worker jobId)) = some j') : Intact j' job := by
  obtain ⟨row, member, rfl, -, -, -, copied, -⟩ := Database.getJob_some got
  have sameId : job.id = row.id := by rw [copied]; rfl
  refine ⟨?_, ⟨j.log, [], ?_, by simp⟩, fun r among same => ?_⟩
  · rw [sameId]
    exact lt_of_lt_of_le (j.db.jobs.id_lt row member) (Journal.nextId_step taken)
  · obtain ⟨cluster, -, rfl⟩ := Journal.base_some taken
    simp [Journal.entriesOf, got]
  · rcases Journal.changed_step taken among with ⟨old, oldMember, change⟩ | new
    · obtain rfl := j.db.jobs.eq_of_id_eq oldMember member
        (change.id_eq.symm.trans (same.trans sameId))
      rcases change.payload_eq with kept | ⟨_, enqueues, -⟩
      · rw [kept, copied]
        rfl
      · cases enqueues
    · exact absurd ((sameId.symm.trans same.symm).trans new) (j.db.jobs.id_lt row member).ne

end Intact

namespace Attempts

/-- Any step but an enqueue that rewrites a job in place while an attempt at it is unsettled. -/
structure SettlesFirst (tables : CharTables) (s : Attempts) (a : JournalAction) : Prop where
  exhausts : OnlyHooksExhaust a
  rewritten : ∀ new, s.journal.enqueues? a = some new → ∀ row ∈ s.db.jobs.rows, new.Rewrites row →
    ∀ job, s.Unsettled tables job → row.id ≠ job.id

/-- Every unsettled attempt is at the job that is in the queue. -/
structure AttemptsIntact (tables : CharTables) (s : Attempts) : Prop where
  hooked : Hooked tables s
  intact : ∀ job, s.Unsettled tables job → Intact s.journal job

namespace AttemptsIntact

variable {tables : CharTables} {s s' : Attempts} {a : JournalAction}

theorem initial (now : Timestamp) (db : Database) : AttemptsIntact tables (initial now db) where
  hooked := .initial now db
  intact job unsettled := by
    cases unsettled with
    | running among | failed among | hooked among => cases among

theorem step (attempts : AttemptsIntact tables s) (allowed : SettlesFirst tables s a)
    (taken : s.step tables a = some s') : AttemptsIntact tables s' := by
  refine ⟨attempts.hooked.step allowed.exhausts taken, fun job unsettled => ?_⟩
  rcases unsettled_step attempts.hooked taken unsettled with before | ⟨worker, jobId, db, rfl, got⟩
  · refine (attempts.intact job before).step (fun new enqueues row member rewrites => ?_)
      (step_some taken).1
    exact allowed.rewritten new enqueues row member rewrites job before
  · exact .of_fetch got (step_some taken).1

end AttemptsIntact

/-- In every run in which no job is rewritten in place while an attempt at it is unsettled: whoever
is about to use up the attempts of a job is the hook of a failed attempt at it, the job was fetched
for that attempt after its row was last written, and the row still has the payload that failed. -/
theorem hook_exhausts_failed (tables : CharTables) {now : Timestamp} {db : Database}
    {as : List JournalAction} {s : Attempts}
    (path : Transition.Run (step tables) (SettlesFirst tables) (initial now db) as s) {i : Nat}
    {jobId : Int} {reason : String} (sends : s.Sends i (.shortCircuit jobId reason)) :
    ∃ ctx, (i, ctx) ∈ s.told ∧ ctx.job.id = jobId ∧ FetchedSinceWritten s.journal.log ctx.job ∧
      ∀ row ∈ s.db.jobs.rows, row.id = jobId → row.payload = ctx.job.payload := by
  have attempts : AttemptsIntact tables s :=
    path.invariant (fun _ _ _ inv allowed taken => inv.step allowed taken) (.initial now db)
  obtain ⟨ctx, among, rfl⟩ := attempts.hooked.sends_told sends
  have intact := attempts.intact ctx.job (.hooked among rfl sends)
  exact ⟨ctx, among, rfl, intact.fetched, intact.payload⟩

/-- An invoice that may be tried twice. -/
def retriedInvoice (payload : Json) : NewJob := { invoiceJob payload with maxAttempts := 2 }

/-- The invoice fails for good, a tick runs past it, and the hook uses up its attempts. -/
theorem hook_exhausts_failed_invoice :
    ∃ as s, Transition.Run (step .ascii) (SettlesFirst .ascii) (initial 0 .fresh) as s ∧
      ∃ reason ctx, s.Sends 1 (.shortCircuit 1 reason) ∧ (1, ctx) ∈ s.told ∧ ctx.job.id = 1 ∧
        FetchedSinceWritten s.journal.log ctx.job ∧
        (∃ row ∈ s.db.jobs.rows, row.id = 1 ∧ row.isAvailable = true) ∧
        ∀ row ∈ s.db.jobs.rows, row.id = 1 → row.payload = ctx.job.payload := by
  have quiet : ∀ {s : Attempts} {a : JournalAction}, s.journal.enqueues? a = none →
      OnlyHooksExhaust a → SettlesFirst .ascii s a :=
    fun none exhausts => ⟨exhausts, fun _ enqueues => absurd (none.symm.trans enqueues) (by simp)⟩
  have tick : Cluster.WorkerRoutine (.fromSecs 60) Client.processFailedJobs := .dlqTick
  obtain ⟨s, reason, path, sends, present⟩ : ∃ s reason,
      Transition.Run (step .ascii) (SettlesFirst .ascii) (initial 0 .fresh)
        [.base (.enqueue (retriedInvoice .null)), .base (.fetch "worker" 1),
          .base (.fail 0 "validation failed" 0), .base (.start Client.processFailedJobs),
          .base (.send 0 none), .base (.jobFail 0)] s ∧ s.Sends 1 (.shortCircuit 1 reason) ∧
      ∃ row ∈ s.db.jobs.rows, row.id = 1 ∧ row.isAvailable = true :=
    ⟨_, _, .cons ⟨nofun, fun _ _ _ among => by cases among⟩ rfl <| .cons (quiet rfl nofun) rfl <|
      .cons (quiet rfl nofun) rfl <| .cons (quiet rfl (.of_worker tick)) rfl <|
      .cons (quiet rfl nofun) rfl <| .cons (quiet rfl nofun) rfl <| .nil _,
      rfl, _, .head _, rfl, rfl⟩
  obtain ⟨ctx, told, same, fetched, payload⟩ := hook_exhausts_failed .ascii path sends
  exact ⟨_, s, path, reason, ctx, sends, told, same, fetched, present, payload⟩

/-- An enqueue under the key of a job that has failed for good gives its row another payload, and
the hook uses up the attempts of that. -/
theorem hook_exhausts_replaced :
    ∃ as s, Transition.Run (step .ascii) (fun _ _ => True) (initial 0 .fresh) as s ∧
      ∃ ctx reason, (0, ctx) ∈ s.told ∧ s.Sends 0 (.shortCircuit ctx.job.id reason) ∧
        (∃ row ∈ s.db.jobs.rows, row.id = ctx.job.id ∧ row.payload ≠ ctx.job.payload) ∧
        (∀ job, job.id = ctx.job.id → ¬ FetchedSinceWritten s.journal.log job) ∧
        ∃ s', s.step .ascii (.base (.send 0 none)) = some s' ∧
          ∃ row ∈ s'.db.jobs.rows, row.id = ctx.job.id ∧ row.attempts = row.maxAttempts := by
  refine ⟨[.base (.enqueue (retriedInvoice .null)), .base (.fetch "worker" 1),
    .base (.fail 0 "validation failed" 0), .base (.jobFail 0),
    .base (.enqueue (retriedInvoice (.bool true)))], _, .of_run (by simp) rfl, _, _, .head _, rfl,
    ⟨_, .head _, rfl, show Json.bool true ≠ .null from nofun⟩, ?_, _, rfl, _, .head _, rfl, rfl⟩
  intro job same
  exact @not_fetchedSinceWritten [_, _] _ job same.symm

end Attempts

end Backfill
