import Backfill.Cluster.Attempts

/-!
# Jobs that leave the queue without having run

A job is fetched while `attempts < max_attempts`, the scan for failed jobs takes what has used up
`max_attempts > 0`, and the cleanup deletes whatever has `attempts >= max_attempts`. The conversion
of a `JobSpec` clamps to 0, for which the first two never hold and the last always does.
-/

namespace Backfill

/-- The job has been fetched, or a capture has left a record for it. -/
def Accounted (log : List Entry) (jobId : Int) : Prop :=
  (∃ job, .fetched job ∈ log ∧ job.id = jobId) ∨
    ∃ entry ∈ log, ∃ record, entry.captured? = some record ∧ record.originalJobId = some jobId

theorem Accounted.append_left {log more : List Entry} {jobId : Int}
    (accounted : Accounted log jobId) : Accounted (log ++ more) jobId := by
  rcases accounted with ⟨job, among, same⟩ | ⟨entry, among, captured⟩
  · exact .inl ⟨job, List.mem_append_left _ among, same⟩
  · exact .inr ⟨entry, List.mem_append_left _ among, captured⟩

theorem Accounted.append_right {log more : List Entry} {jobId : Int}
    (accounted : Accounted more jobId) : Accounted (log ++ more) jobId := by
  rcases accounted with ⟨job, among, same⟩ | ⟨entry, among, captured⟩
  · exact .inl ⟨job, List.mem_append_right _ among, same⟩
  · exact .inr ⟨entry, List.mem_append_right _ among, captured⟩

/-- The first job of the fresh schema is no duplicate. -/
theorem Database.addJob_fresh (job : NewJob) (now : Timestamp) :
    ∃ written, (Database.fresh.addJob now job).1 = some written := by
  have free : ((Database.fresh.prepared job).supersede job now).holds job.key = false := by
    rw [Bool.eq_false_iff]
    intro held
    obtain ⟨-, row, member, -⟩ := SerialTable.holds_iff.mp held
    rcases Database.of_mem_supersede member with ⟨old, -⟩ | ⟨old, oldMember, -⟩
    · rw [Database.jobs_prepared] at old
      cases old
    · rw [Database.jobs_prepared] at oldMember
      cases oldMember
  simp only [Database.addJob, free, Bool.false_eq_true, and_false, if_false]
  exact ⟨_, rfl⟩

namespace Attempts

/-- Any step but an enqueue that rewrites this job in place and allows it no attempt. -/
structure AllowsAttempts (jobId : Int) (s : Attempts) (a : JournalAction) : Prop where
  exhausts : OnlyHooksExhaust a
  rewritten : ∀ new, s.journal.enqueues? a = some new → ∀ row ∈ s.db.jobs.rows, new.Rewrites row →
    row.id = jobId → 0 < new.maxAttempts

/-- The job is in the queue and can be fetched, and no attempt at the row is unsettled. -/
structure Awaits (tables : CharTables) (jobId : Int) (s : Attempts) : Prop where
  available : ∃ row ∈ s.db.jobs.rows, row.id = jobId ∧ row.isAvailable = true
  settled : ∀ job, s.Unsettled tables job → job.id ≠ jobId

namespace Awaits

variable {tables : CharTables} {s s' : Attempts} {a : JournalAction} {jobId : Int}

/-- What a step makes of a row that nobody has tried: it can still be fetched, or it has been. -/
theorem available_of_changed (awaits : Awaits tables jobId s) (hooked : Hooked tables s)
    (allowed : AllowsAttempts jobId s a) {old row : JobRow} (member : old ∈ s.db.jobs.rows)
    (same : old.id = jobId) (available : old.isAvailable = true)
    (change : s.journal.RowChange a old row) :
    row.isAvailable = true ∨ ∃ worker, a = .base (.fetch worker jobId) := by
  have unlocked := (JobRow.isAvailable_iff.mp available).1
  cases change with
  | kept => exact .inl available
  | fetched => exact .inr ⟨_, by rw [same]⟩
  | failed among sameJob =>
      exact absurd (sameJob.symm.trans same) (awaits.settled _ (.running among rfl))
  | released locked | superseded locked => exact absurd unlocked locked
  | rewritten enqueues rewrites =>
      have allows := allowed.rewritten _ enqueues old member rewrites same
      left
      simpa [NewJob.overwrite, rewrites.2.2.2, JobRow.isAvailable_iff, unlocked] using allows
  | shortCircuited sends =>
      obtain ⟨job, unsettled, sameJob⟩ := hooked.unsettled_of_sends sends
      exact absurd (sameJob.trans same) (awaits.settled job unsettled)

/-- A job that has been fetched is in the log. -/
theorem accounted_of_fetch {worker : String} {s' : Attempts}
    (taken : s.step tables (.base (.fetch worker jobId)) = some s') :
    ∃ more, s'.journal.log = s.journal.log ++ more ∧ Accounted more jobId := by
  obtain ⟨cluster, moved, same⟩ := Journal.base_some (step_some taken).1
  obtain ⟨⟨job, db⟩, got, -⟩ := Option.map_eq_some_iff.mp moved
  obtain ⟨row, -, rfl, -, -, -, copied, -⟩ := Database.getJob_some got
  refine ⟨[.fetched job], ?_, .inl ⟨job, .head _, by rw [copied]; rfl⟩⟩
  rw [same]
  simp [Journal.entriesOf, got]

/-- Nothing but a fetch or a capture takes such a job away. -/
theorem step (awaits : Awaits tables jobId s) (hooked : Hooked tables s)
    (allowed : AllowsAttempts jobId s a) (taken : s.step tables a = some s') :
    ∃ more, s'.journal.log = s.journal.log ++ more ∧
      (Accounted more jobId ∨ Awaits tables jobId s') := by
  by_cases fetches : ∃ worker, a = .base (.fetch worker jobId)
  · obtain ⟨worker, rfl⟩ := fetches
    obtain ⟨more, log, accounted⟩ := accounted_of_fetch taken
    exact ⟨more, log, .inl accounted⟩
  · have moved := (step_some taken).1
    obtain ⟨row, member, same, available⟩ := awaits.available
    have settled : ∀ job, s'.Unsettled tables job → job.id ≠ jobId := by
      intro job unsettled
      rcases unsettled_step hooked taken unsettled with before | ⟨worker, key, db, rfl, got⟩
      · exact awaits.settled job before
      · rintro rfl
        obtain ⟨found, -, rfl, -, -, -, copied, -⟩ := Database.getJob_some got
        exact fetches ⟨worker, by rw [copied]; rfl⟩
    rcases Journal.kept_step moved member with
      ⟨r, kept, sameRow⟩ | ⟨e, running, sameJob⟩ | ⟨op, sends, removes⟩
    · obtain ⟨more, log, -⟩ := Journal.log_step moved
      refine ⟨more, log, .inr ⟨⟨r, kept, sameRow.trans same, ?_⟩, settled⟩⟩
      rcases Journal.changed_step moved kept with ⟨old, oldMember, change⟩ | new
      · obtain rfl := s.db.jobs.eq_of_id_eq oldMember member
          (change.id_eq.symm.trans sameRow)
        have next := awaits.available_of_changed hooked allowed member same available change
        exact next.resolve_right fetches
      · exact absurd (sameRow.symm.trans new) (s.db.jobs.id_lt row member).ne
    · exact absurd (sameJob.trans same) (awaits.settled e.job (.running running rfl))
    · cases removes with
      | moves is accepted present sameJob =>
          subst is
          obtain ⟨marks, log⟩ := Journal.log_sends sends moved
          obtain ⟨entry, among, captured⟩ := Statement.exists_captured present member sameJob
          refine ⟨_, log, .inl (.inr ⟨entry, List.mem_append_left _ ?_, same ▸ captured⟩)⟩
          rw [accepted]
          exact among
      | deletes is accepted exhausted =>
          simp [JobRow.isAvailable, exhausted] at available

/-- In a run of such steps the job waits until it is fetched or captured. -/
theorem run (awaits : Awaits tables jobId s) (hooked : Hooked tables s)
    {as : List JournalAction} {t : Attempts}
    (path : Transition.Run (Attempts.step tables) (AllowsAttempts jobId) s as t) :
    ∃ more, t.journal.log = s.journal.log ++ more ∧
      (Accounted more jobId ∨ Awaits tables jobId t) := by
  refine (path.invariant (I := fun t => Hooked tables t ∧ ∃ more,
    t.journal.log = s.journal.log ++ more ∧ (Accounted more jobId ∨ Awaits tables jobId t)) ?_
    ⟨hooked, [], by simp, .inr awaits⟩).2
  rintro u a v ⟨hooked, before, log, state⟩ allowed taken
  refine ⟨hooked.step allowed.exhausts taken, ?_⟩
  rcases state with accounted | awaits
  · obtain ⟨more, log', -⟩ := Journal.log_step (step_some taken).1
    exact ⟨before ++ more, by rw [log', log, List.append_assoc], .inl accounted.append_left⟩
  · obtain ⟨more, log', state⟩ := awaits.step hooked allowed taken
    exact ⟨before ++ more, by rw [log', log, List.append_assoc],
      state.imp_left Accounted.append_right⟩

end Awaits

/-- In a run from any database the job has just been enqueued, as the row with this id, and no
attempt at what the row was before is unsettled. -/
inductive Enqueued (tables : CharTables) (taskIdentifier : String) (payload : Json)
    (spec : JobSpec) (jobId : Int) (s' : Attempts) : Prop
  | intro {now : Timestamp} {db : Database} {as : List JournalAction} {s : Attempts}
      {a : JournalAction} {written : JobRow}
      (path : Transition.Run (step tables) (fun _ => OnlyHooksExhaust) (initial now db) as s)
      (enqueues : s.journal.enqueues? a =
        some (spec.toGraphile.newJob taskIdentifier payload s.journal.cluster.now))
      (reported : (s.db.addJob s.journal.cluster.now
        (spec.toGraphile.newJob taskIdentifier payload s.journal.cluster.now)).1 = some written)
      (same : written.id = jobId) (settled : ∀ job, s.Unsettled tables job → job.id ≠ jobId)
      (taken : s.step tables a = some s')

/-- Every attempt in a run is at a row whose id has been drawn. -/
theorem Unsettled.drawn {tables : CharTables} {now : Timestamp} {db : Database}
    {as : List JournalAction} {s : Attempts} {job : Job}
    (path : Transition.Run (step tables) (fun _ => OnlyHooksExhaust) (initial now db) as s)
    (unsettled : s.Unsettled tables job) : job.id < s.db.jobs.nextId := by
  refine (path.invariant (I := fun s => Hooked tables s ∧
    ∀ job, s.Unsettled tables job → job.id < s.db.jobs.nextId) ?_ ⟨.initial now db, ?_⟩).2 job
      unsettled
  · rintro s a s' ⟨hooked, drawn⟩ exhausts taken
    refine ⟨hooked.step exhausts taken, fun job unsettled => ?_⟩
    have grows := Journal.nextId_step (step_some taken).1
    rcases unsettled_step hooked taken unsettled with before | ⟨worker, key, db, rfl, got⟩
    · exact lt_of_lt_of_le (drawn job before) grows
    · obtain ⟨row, member, -, -, -, -, copied, -⟩ := Database.getJob_some got
      have same : job.id = row.id := by rw [copied]; rfl
      exact same ▸ lt_of_lt_of_le (s.db.jobs.id_lt row member) grows
  · intro job unsettled
    cases unsettled with
    | running among | failed among | hooked among => cases among

/-- So a job that is enqueued as a new row needs no further condition. -/
theorem Enqueued.inserted {tables : CharTables} {taskIdentifier : String} {payload : Json}
    {spec : JobSpec} {now : Timestamp} {db : Database} {as : List JournalAction} {s s' : Attempts}
    {a : JournalAction} {written : JobRow}
    (path : Transition.Run (step tables) (fun _ => OnlyHooksExhaust) (initial now db) as s)
    (enqueues : s.journal.enqueues? a =
      some (spec.toGraphile.newJob taskIdentifier payload s.journal.cluster.now))
    (reported : (s.db.addJob s.journal.cluster.now
      (spec.toGraphile.newJob taskIdentifier payload s.journal.cluster.now)).1 = some written)
    (fresh : written.id = s.db.jobs.nextId) (taken : s.step tables a = some s') :
    Enqueued tables taskIdentifier payload spec written.id s' :=
  .intro path enqueues reported rfl (fun _ unsettled => fresh ▸ (unsettled.drawn path).ne) taken

/-- The first job of the fresh schema. -/
theorem Enqueued.first {tables : CharTables} {taskIdentifier : String} {payload : Json}
    {spec : JobSpec} {now : Timestamp} {written : JobRow} {s : Attempts}
    (reported : (Database.fresh.addJob now
      (spec.toGraphile.newJob taskIdentifier payload now)).1 = some written)
    (taken : (initial now .fresh).step tables
      (.base (.enqueue (spec.toGraphile.newJob taskIdentifier payload now))) = some s) :
    Enqueued tables taskIdentifier payload spec written.id s := by
  have fresh : written.id = Database.fresh.jobs.nextId := by
    rcases Database.addJob_reported reported with ⟨old, member, -⟩ | rfl
    · cases member
    · rfl
  exact .inserted (.nil (initial now .fresh)) rfl reported fresh taken

/-- Its hooks are as in every other run. -/
theorem Enqueued.hooked {tables : CharTables} {taskIdentifier : String} {payload : Json}
    {spec : JobSpec} {jobId : Int} {s : Attempts}
    (enqueued : Enqueued tables taskIdentifier payload spec jobId s) : Hooked tables s := by
  obtain ⟨path, enqueues, -, -, -, taken⟩ := enqueued
  exact (Hooked.of_run path).step (.of_enqueues enqueues) taken

/-- A job that was enqueued with an attempt allowed waits for it. -/
theorem Enqueued.awaits {tables : CharTables} {taskIdentifier : String} {payload : Json}
    {spec : JobSpec} {jobId : Int} {s : Attempts}
    (enqueued : Enqueued tables taskIdentifier payload spec jobId s)
    (allows : ∀ n, spec.maxAttempts = some n → 0 < n) :
    Hooked tables s ∧ Awaits tables jobId s := by
  refine ⟨enqueued.hooked, ?_⟩
  obtain ⟨path, enqueues, reported, same, settled, taken⟩ := enqueued
  refine ⟨⟨_, ?_, same, ?_⟩, ?_⟩
  · exact Journal.written_step enqueues reported (step_some taken).1
  · exact Database.isAvailable_written reported ((spec.allows_attempt_iff ..).mpr allows)
  · intro job unsettled
    rcases unsettled_step (.of_run path) taken unsettled with before | ⟨_, _, _, rfl, -⟩
    · exact settled job before
    · cases enqueues

/-- The cleanup is none of those that use up attempts. -/
theorem OnlyHooksExhaust.of_cleanup :
    OnlyHooksExhaust (.base (.start Client.cleanupPermanentlyFailedJobs)) := by
  rintro _ ⟨⟩
  refine (Client.calls_query fun _ _ => nofun).bind fun deleted => ?_
  split
  · exact ⟨fun _ _ => nofun, fun _ => trivial⟩
  · trivial

/-- A job without an attempt is deleted by the cleanup, and nothing has happened to it until
then. -/
theorem unallowed_deleted (tables : CharTables) {job : NewJob} (unallowed : ¬ 0 < job.maxAttempts) :
    ∃ written s t, (Database.fresh.addJob 0 job).1 = some written ∧
      (initial 0 .fresh).step tables (.base (.enqueue job)) = some s ∧
      Transition.Run (step tables) (AllowsAttempts written.id) s
        [.base (.start Client.cleanupPermanentlyFailedJobs), .base (.send 0 none)] t ∧
      t.journal.log = s.journal.log ∧ t.db.jobs.rows = [] := by
  obtain ⟨written, reported⟩ := Database.addJob_fresh job 0
  have silent : ∀ {s : Attempts} {a : JournalAction}, s.journal.enqueues? a = none →
      OnlyHooksExhaust a → AllowsAttempts written.id s a :=
    fun none exhausts => ⟨exhausts, fun _ enqueues => absurd (none.symm.trans enqueues) (by simp)⟩
  refine ⟨written, _, _, reported, rfl,
    .cons (silent rfl .of_cleanup) rfl (.cons (silent rfl .of_send) rfl (.nil _)), ?_, ?_⟩
  · exact (List.append_nil _).trans (List.append_nil _)
  · refine List.eq_nil_iff_forall_not_mem.mpr fun row left => ?_
    obtain ⟨member, kept⟩ := SerialTable.mem_delete.mp left
    rcases Database.of_mem_addJob member with
      old | ⟨old, oldMember, -⟩ | ⟨old, oldMember, -⟩ | ⟨taskId, jobQueueId, rfl⟩
    · cases old
    · cases oldMember
    · cases oldMember
    · have exhausted : job.maxAttempts ≤ 0 := not_lt.mp unallowed
      simp [NewJob.draft, JobRow.exhausted, exhausted] at kept

/-- Whatever specification a job is enqueued with: that it is executed or captured before it leaves
the queue, in every later run that does not rewrite it in place without an attempt, is the case
exactly when the specification does not limit the attempts to 0 or less. -/
theorem enqueued_accounted_iff (tables : CharTables) (taskIdentifier : String) (payload : Json)
    (spec : JobSpec) :
    (∀ jobId s as t, Enqueued tables taskIdentifier payload spec jobId s →
      Transition.Run (step tables) (AllowsAttempts jobId) s as t →
      ∃ more, t.journal.log = s.journal.log ++ more ∧
        (Accounted more jobId ∨ ∃ row ∈ t.db.jobs.rows, row.id = jobId)) ↔
      ∀ n, spec.maxAttempts = some n → 0 < n := by
  constructor
  · intro accounts
    by_contra limited
    rw [← spec.allows_attempt_iff taskIdentifier payload 0] at limited
    obtain ⟨written, s, t, reported, taken, path, log, left⟩ := unallowed_deleted tables limited
    obtain ⟨more, log', accounted | ⟨row, member, -⟩⟩ :=
      accounts _ s _ t (.first reported taken) path
    · obtain rfl : more = [] := List.append_right_eq_self.mp (log'.symm.trans log)
      rcases accounted with ⟨_, ⟨⟩, -⟩ | ⟨_, ⟨⟩, -⟩
    · rw [left] at member
      cases member
  · intro allows jobId s as t enqueued path
    obtain ⟨hooked, awaits⟩ := enqueued.awaits allows
    obtain ⟨more, log, state⟩ := awaits.run hooked path
    refine ⟨more, log, state.imp_right fun awaits => ?_⟩
    obtain ⟨row, member, same, -⟩ := awaits.available
    exact ⟨row, member, same⟩

/-- A parallel job without a key, and with this limit. -/
def limitedSpec (maxAttempts : Int) : JobSpec where
  runAt := none
  priority := ⟨0⟩
  queue := .parallel
  maxAttempts := some maxAttempts
  jobKey := none
  jobKeyMode := .replace

/-- A job that may be tried once waits through the startup of a worker, and is then executed. -/
theorem enqueued_accounted_single :
    ∃ s as t more, Enqueued .ascii "send_email" .null (limitedSpec 1) 1 s ∧
      Transition.Run (step .ascii) (AllowsAttempts 1) s as t ∧
      t.journal.log = s.journal.log ++ more ∧
      (Accounted more 1 ∨ ∃ row ∈ t.db.jobs.rows, row.id = 1) := by
  have starts : OnlyHooksExhaust (.base (.start (Client.startupRoutine .default))) :=
    .of_worker (.startup .default rfl)
  obtain ⟨s, t, enqueued, path⟩ : ∃ s t,
      Enqueued .ascii "send_email" .null (limitedSpec 1) 1 s ∧
      Transition.Run (step .ascii) (AllowsAttempts 1) s
        [.base (.start (Client.startupRoutine .default)), .base (.send 0 none),
          .base (.send 0 none), .base (.send 0 none), .base (.send 0 none),
          .base (.fetch "worker" 1)] t :=
    ⟨_, _, @Enqueued.first .ascii "send_email" .null (limitedSpec 1) 0 _ _ rfl rfl,
      .cons ⟨starts, nofun⟩ rfl <| .cons ⟨nofun, nofun⟩ rfl <| .cons ⟨nofun, nofun⟩ rfl <|
      .cons ⟨nofun, nofun⟩ rfl <| .cons ⟨nofun, nofun⟩ rfl <| .cons ⟨nofun, nofun⟩ rfl <| .nil _⟩
  have attempted : ∀ n, (limitedSpec 1).maxAttempts = some n → 0 < n := by simp [limitedSpec]
  obtain ⟨more, log, state⟩ :=
    (enqueued_accounted_iff .ascii "send_email" .null (limitedSpec 1)).mpr attempted 1 s _ t
      enqueued path
  exact ⟨s, _, t, more, enqueued, path, log, state⟩

/-- With the limit -1, which the conversion takes for 0, the startup of a worker deletes it. -/
theorem negative_limit_deleted :
    ∃ s as t, Enqueued .ascii "send_email" .null (limitedSpec (-1)) 1 s ∧
      Transition.Run (step .ascii) (fun _ => OnlyHooksExhaust) s as t ∧
      (∃ row ∈ s.db.jobs.rows, row.id = 1) ∧ t.journal.log = s.journal.log ∧
      t.db.jobs.rows = [] := by
  have starts : OnlyHooksExhaust (.base (.start (Client.startupRoutine .default))) :=
    .of_worker (.startup .default rfl)
  have enqueued := @Enqueued.first .ascii "send_email" .null (limitedSpec (-1)) 0 _ _ rfl rfl
  refine ⟨_, [.base (.start (Client.startupRoutine .default)), .base (.send 0 none),
    .base (.send 0 none), .base (.send 0 none), .base (.send 0 none)], _, enqueued,
    .cons starts rfl <| .cons .of_send rfl <| .cons .of_send rfl <| .cons .of_send rfl <|
      .cons .of_send rfl <| .nil _, ⟨_, .head _, rfl⟩, rfl, rfl⟩

end Attempts

end Backfill
