import Backfill.Cluster.Journal
import Backfill.Misc.ListFacts

/-!
# What becomes of a requeued record once its job has succeeded

The `JobComplete` hook finds the records of a job by the key the job was fetched with. A job id
has one key as long as the job can be fetched, and a record has one key for as long as it lives.
So the hook of a job that was requeued with a key finds the record the job was requeued from;
without a key it looks for nothing.
-/

namespace Backfill

/-- A job id and the key it was seen with. -/
def Entry.sighting? : Entry → Option (Int × Option String)
  | fetched job => some (job.id, job.key)
  | requeued _ row => some (row.id, row.key)
  | _ => none

theorem Entry.sighting_of_counts {entry : Entry} (counts : entry.counts = true) :
    entry.sighting? = none := by
  cases entry <;> first
    | rfl
    | cases counts

namespace Journal

/-- The log shows the job id with this key. -/
def Seen (j : Journal) (jobId : Int) (key : Option String) : Prop :=
  ∃ entry ∈ j.log, entry.sighting? = some (jobId, key)

/-- A job id keeps the key it was seen with; completed jobs are out of circulation. -/
structure JobKeysKept (j : Journal) : Prop where
  seen : ∀ jobId key, j.Seen jobId key → jobId < j.db.jobs.nextId ∧ ∀ row ∈ j.db.jobs.rows,
    row.id = jobId → row.key = key ∨ (row.key = none ∧ row.maxAttempts ≤ row.attempts)
  agree : ∀ jobId key key', j.Seen jobId key → j.Seen jobId key' → key = key'
  running : ∀ e ∈ j.cluster.running, j.Seen e.job.id e.job.key
  completed : ∀ hook ∈ j.hooks, j.Seen hook.job.id hook.job.key ∧
    ∀ row ∈ j.db.jobs.rows, row.id ≠ hook.job.id

namespace JobKeysKept

variable {tables : CharTables} {j j' : Journal} {a : JournalAction} {jobId : Int}
  {key : Option String}

theorem initial (now : Timestamp) (db : Database) : JobKeysKept (initial now db) := by
  constructor <;> simp [Journal.initial, Cluster.initial, Seen]

/-- What was seen before a step is true of the rows after it. -/
theorem seen_step (kept : JobKeysKept j) (taken : j.step tables a = some j')
    (seen : j.Seen jobId key) : jobId < j'.db.jobs.nextId ∧ ∀ row ∈ j'.db.jobs.rows,
      row.id = jobId → row.key = key ∨ (row.key = none ∧ row.maxAttempts ≤ row.attempts) := by
  obtain ⟨drawn, rows⟩ := kept.seen jobId key seen
  refine ⟨lt_of_lt_of_le drawn (nextId_step taken), fun row member same => ?_⟩
  rcases row_step taken member with ⟨old, oldMember, follows⟩ | new
  · have before := rows old oldMember (follows.id_eq ▸ same)
    rcases follows.key_eq with kept | superseded
    · rcases before with known | ⟨keyless, spent⟩
      · exact .inl (kept.trans known)
      · exact .inr ⟨kept.trans keyless, follows.exhausted keyless spent⟩
    · exact .inr superseded
  · omega

/-- An id that has left the queue does not come back. -/
theorem absent_step (taken : j.step tables a = some j') (drawn : jobId < j.db.jobs.nextId)
    (absent : ∀ row ∈ j.db.jobs.rows, row.id ≠ jobId) :
    ∀ row ∈ j'.db.jobs.rows, row.id ≠ jobId := by
  intro row member
  rcases row_step taken member with ⟨old, oldMember, follows⟩ | new
  · rw [follows.id_eq]
    exact absent old oldMember
  · omega

/-- An id that a step shows for the first time, or once more: the queue has a row with it and
its key, and it has not been seen with another key. -/
theorem sighted (kept : JobKeysKept j) (taken : j.step tables a = some j') {entry : Entry}
    (new : entry ∈ j'.log) (sight : entry.sighting? = some (jobId, key)) :
    entry ∈ j.log ∨ (∃ row ∈ j'.db.jobs.rows, row.id = jobId ∧ row.key = key) ∧
      ∀ key', j.Seen jobId key' → key' = key := by
  obtain ⟨more, log, entered⟩ := log_step taken
  rw [log] at new
  refine (List.mem_append.mp new).imp_right fun among => ?_
  cases entered entry among with
  | counted sends among =>
      have none := Entry.sighting_of_counts (Statement.counts_entries entry among)
      exact absurd (none.symm.trans sight) (Option.some_ne_none _).symm
  | written | erased => cases sight
  | requeued found loaded calls reported =>
      obtain ⟨rfl, rfl⟩ := by simpa [Entry.sighting?] using sight
      have written := written_step (requeue_enqueues found calls) reported taken
      obtain ⟨sameKey, origin⟩ := Database.addJob_written_key reported
      refine ⟨⟨_, written, rfl, rfl⟩, fun key' seen => ?_⟩
      rcases origin with fresh | keyed
      · have below := (kept.seen _ _ seen).1
        omega
      · rcases (kept.seen_step taken seen).2 _ written rfl with same | ⟨absent, -⟩
        · exact same.symm
        · exact absurd (sameKey.symm.trans absent) keyed
  | fetched got =>
      obtain ⟨cluster, moved, rfl⟩ := base_some taken
      obtain ⟨taken', got', rfl⟩ := Option.map_eq_some_iff.mp moved
      obtain rfl := Option.some.inj (got.symm.trans got')
      obtain ⟨row, member, -, available, -, -, copied, rfl⟩ := Database.getJob_some got
      obtain ⟨rfl, rfl⟩ := by simpa [Entry.sighting?] using sight
      have left := (JobRow.isAvailable_iff.mp available).2
      rw [copied]
      refine ⟨⟨_, Database.mem_lockJob.mpr ⟨row, member, (if_pos rfl).symm⟩, rfl, rfl⟩, ?_⟩
      intro key' seen
      rcases (kept.seen _ _ seen).2 row member rfl with same | ⟨-, spent⟩
      · exact same.symm
      · omega

theorem seen_mono (taken : j.step tables a = some j') (seen : j.Seen jobId key) :
    j'.Seen jobId key := by
  obtain ⟨more, log, -⟩ := log_step taken
  obtain ⟨entry, member, sight⟩ := seen
  exact ⟨entry, log ▸ List.mem_append_left _ member, sight⟩

/-- The executions after a step have all been seen. -/
theorem running_step (kept : JobKeysKept j) (taken : j.step tables a = some j') :
    ∀ e ∈ j'.cluster.running, j'.Seen e.job.id e.job.key := by
  intro e running
  rcases running_of_step taken running with before | ⟨worker, wanted, db, rfl, got⟩
  · exact seen_mono taken (kept.running e before)
  · obtain ⟨cluster, -, rfl⟩ := base_some taken
    exact ⟨.fetched e.job, List.mem_append_right _ (by simp [entriesOf, got]), rfl⟩

/-- The hooks after a step are those of jobs that were seen and are out of circulation. -/
theorem completed_step (kept : JobKeysKept j) (taken : j.step tables a = some j') :
    ∀ hook ∈ j'.hooks, j'.Seen hook.job.id hook.job.key ∧
      ∀ row ∈ j'.db.jobs.rows, row.id ≠ hook.job.id := by
  have before : ∀ hook ∈ j.hooks, j'.Seen hook.job.id hook.job.key ∧
      ∀ row ∈ j'.db.jobs.rows, row.id ≠ hook.job.id := by
    intro hook among
    obtain ⟨seen, absent⟩ := kept.completed hook among
    exact ⟨seen_mono taken seen, absent_step taken (kept.seen _ _ seen).1 absent⟩
  cases a with
  | requeue dlqId notes =>
      obtain rfl := Option.some.inj taken
      exact before
  | hookSend i fault =>
      obtain ⟨hook, op, next, entry, -, rfl⟩ := hookSend_some taken
      intro other among
      rcases List.mem_or_eq_of_mem_set among with old | rfl
      · exact before other old
      · exact before hook (List.mem_of_getElem? entry)
  | requeueSend i fault =>
      obtain ⟨requeue, op, next, -, -, rfl⟩ := requeueSend_some taken
      exact before
  | base b =>
      obtain ⟨cluster, moved, rfl⟩ := base_some taken
      intro hook among
      rcases List.mem_append.mp among with old | new
      · exact before hook old
      · cases b with
        | complete i =>
            obtain ⟨ended, entry, rfl⟩ := Option.map_eq_some_iff.mp moved
            obtain rfl : hook = _ := by simpa [hooksOf, entry] using new
            refine ⟨seen_mono taken (kept.running ended (List.mem_of_getElem? entry)), ?_⟩
            exact fun row member => (Database.mem_completeJob.mp member).2
        | _ => cases new

/-- Every step of the journal. -/
theorem step (kept : JobKeysKept j) (taken : j.step tables a = some j') : JobKeysKept j' := by
  refine ⟨fun jobId key seen => ?_, fun jobId key key' seen seen' => ?_,
    kept.running_step taken, kept.completed_step taken⟩
  · obtain ⟨entry, member, sight⟩ := seen
    rcases kept.sighted taken member sight with old | ⟨⟨row, rowMember, rfl, rfl⟩, -⟩
    · exact kept.seen_step taken ⟨entry, old, sight⟩
    · refine ⟨j'.db.jobs.id_lt row rowMember, fun other otherMember same => .inl ?_⟩
      rw [j'.db.jobs.eq_of_id_eq otherMember rowMember same]
  · obtain ⟨entry, member, sight⟩ := seen
    obtain ⟨entry', member', sight'⟩ := seen'
    rcases kept.sighted taken member sight with old | ⟨⟨row, rowMember, rfl, rfl⟩, only⟩
    · rcases kept.sighted taken member' sight' with old' | ⟨-, only⟩
      · exact kept.agree jobId key key' ⟨entry, old, sight⟩ ⟨entry', old', sight'⟩
      · exact only key ⟨entry, old, sight⟩
    · rcases kept.sighted taken member' sight' with old' | ⟨⟨row', rowMember', same, rfl⟩, -⟩
      · exact (only key' ⟨entry', old', sight'⟩).symm
      · rw [j'.db.jobs.eq_of_id_eq rowMember' rowMember same]

end JobKeysKept

/-- The stages of `requeue_dlq_job`. -/
inductive RequeueStage : Requeue → Prop
  | reading (dlqId : Int) (notes : Option String) :
      RequeueStage ⟨dlqId, none, Client.requeueDlqJob dlqId notes⟩
  | adding (dlqId : Int) (notes : Option String) (dlqJob : DlqJob) (same : dlqJob.id = dlqId) :
      RequeueStage ⟨dlqId, some dlqJob, Client.requeue dlqId notes (some dlqJob)⟩
  | recording (dlqId : Int) (notes : Option String) (dlqJob : Option DlqJob) (job : Job) :
      RequeueStage ⟨dlqId, dlqJob, .call (.recordRequeue notes dlqId) fun _ => .done job⟩
  | ended (dlqId : Int) (dlqJob : Option DlqJob) (routine : Client Job)
      (last : routine.next? = none) : RequeueStage ⟨dlqId, dlqJob, routine⟩

/-- Whatever the enqueue of a requeue comes to: the requeue goes on to its bookkeeping or ends
with an error. -/
theorem RequeueStage.of_outcome (dlqId : Int) (notes : Option String) (dlqJob : Option DlqJob)
    (jobKey : Option String) (outcome : Except ForeignError Job) :
    RequeueStage ⟨dlqId, dlqJob,
      Client.enqueueOutcome jobKey outcome >>= Client.recordRequeue dlqId notes⟩ := by
  cases outcome with
  | ok job => exact .recording dlqId notes dlqJob job
  | error error =>
      refine .ended _ _ _ ?_
      unfold Client.enqueueOutcome
      cases jobKey with
      | none => rfl
      | some key =>
          dsimp only
          split <;> rfl

/-- The statements of `requeue_dlq_job`, and that it goes from stage to stage. -/
theorem RequeueStage.answer {r : Requeue} {op : Statement} {next : Statement.Reply op → Client Job}
    (stage : RequeueStage r) (calls : r.routine = .call op next) (now : Timestamp)
    (fault : Option ForeignError) (db : Database) :
    RequeueStage { r with
      dlqJob := r.read op (op.answer now fault db).1
      routine := next (op.answer now fault db).1 } ∧
    ((op = .getDlqJob r.dlqId ∧ r.dlqJob = none) ∨
      (∃ dlqJob, r.dlqJob = some dlqJob ∧ dlqJob.id = r.dlqId ∧
        op = .addJob dlqJob.taskIdentifier dlqJob.payload dlqJob.toSpec.toGraphile) ∨
      ∃ notes, op = .recordRequeue notes r.dlqId) := by
  cases stage with
  | reading dlqId notes =>
      have sends : Program.call (.getDlqJob dlqId) _ = Program.call op next := calls
      cases sends
      refine ⟨?_, .inl ⟨rfl, rfl⟩⟩
      cases fault with
      | some error => exact .ended _ _ _ rfl
      | none =>
          cases present : db.dlq with
          | error missing =>
              simp only [Statement.answer_none, Statement.exec, present]
              exact .ended _ _ _ rfl
          | ok table =>
              simp only [Statement.answer_none, Statement.exec, present]
              cases found : table.get? dlqId with
              | none => exact .ended _ _ _ rfl
              | some dlqJob =>
                  exact .adding dlqId notes dlqJob (SerialTable.get?_eq_some.mp found).2
  | adding dlqId notes dlqJob same =>
      have sends : Program.call (.addJob dlqJob.taskIdentifier dlqJob.payload
        dlqJob.toSpec.toGraphile) _ = Program.call op next := calls
      cases sends
      refine ⟨?_, .inr (.inl ⟨dlqJob, rfl, same, rfl⟩)⟩
      cases fault with
      | some error => exact .of_outcome dlqId notes _ dlqJob.jobKey (.error error)
      | none =>
          simp only [Statement.answer_none, Statement.exec]
          cases (db.addJob now _).1 with
          | none => exact .of_outcome dlqId notes _ dlqJob.jobKey (.error rowNotFound)
          | some row => exact .of_outcome dlqId notes _ dlqJob.jobKey (.ok _)
  | recording dlqId notes dlqJob job =>
      cases calls
      exact ⟨.ended _ _ _ rfl, .inr (.inr ⟨notes, rfl⟩)⟩
  | ended dlqId dlqJob routine last =>
      rw [show routine = .call op next from calls] at last
      cases last

/-- What requeues have read and enqueued is known to the DLQ, and what the hooks of requeued
jobs were to clean up is gone. -/
structure RequeuesKept (j : Journal) (table : DlqTable) : Prop where
  present : j.db.dlq = .ok table
  stages : ∀ r ∈ j.requeues, RequeueStage r ∧ ∀ dlqJob, r.dlqJob = some dlqJob → Known table dlqJob
  requeued : ∀ dlqJob row, .requeued dlqJob row ∈ j.log →
    Known table dlqJob ∧ row.key = dlqJob.jobKey
  hooks : ∀ hook ∈ j.hooks, HookStage hook
  cleaned : ∀ hook ∈ j.hooks, hook.routine.next? = none → hook.refused = false →
    ∀ dlqJob row, .requeued dlqJob row ∈ j.log → row.id = hook.job.id → dlqJob.jobKey ≠ none →
      ∀ d ∈ table.rows, d.id ≠ dlqJob.id

namespace RequeuesKept

variable {tables : CharTables} {j j' : Journal} {a : JournalAction} {table : DlqTable}

theorem initial {now : Timestamp} {db : Database} (present : db.dlq = .ok table) :
    RequeuesKept (initial now db) table := by
  refine ⟨present, ?_, ?_, ?_, ?_⟩ <;> simp [Journal.initial]

/-- An enqueue that the log does not have yet is that of a requeue, and its row has the key of
the record. -/
theorem requeued_step (kept : RequeuesKept j table) (taken : j.step tables a = some j')
    {dlqJob : DlqJob} {row : JobRow} (new : .requeued dlqJob row ∈ j'.log) :
    .requeued dlqJob row ∈ j.log ∨
      Known table dlqJob ∧ row.key = dlqJob.jobKey ∧ row ∈ j'.db.jobs.rows := by
  obtain ⟨more, log, entered⟩ := log_step taken
  rw [log] at new
  refine (List.mem_append.mp new).imp_right fun among => ?_
  cases entered _ among with
  | counted sends among => cases Statement.counts_entries _ among
  | requeued found loaded calls reported =>
      obtain ⟨stage, known⟩ := kept.stages _ (List.mem_of_getElem? found)
      refine ⟨known _ loaded, ?_, written_step (requeue_enqueues found calls) reported taken⟩
      rw [(Database.addJob_written_key reported).1]
      rcases (stage.answer calls j.cluster.now none j.db).2 with
        ⟨other, -⟩ | ⟨_, loaded', -, adds⟩ | ⟨_, other⟩
      · cases other
      · obtain ⟨-, -, rfl⟩ := Statement.addJob.inj adds
        rw [Option.some.inj (loaded.symm.trans loaded')]
        rfl
      · cases other

/-- Requeues go from stage to stage, and what they read is in the DLQ. -/
theorem stages_step {table' : DlqTable} {entries : List Entry} (kept : RequeuesKept j table)
    (taken : j.step tables a = some j') (after : j'.db.dlq = .ok table')
    (change : DlqChange j.cluster.now table table' entries) :
    ∀ r ∈ j'.requeues, RequeueStage r ∧
      ∀ dlqJob, r.dlqJob = some dlqJob → Known table' dlqJob := by
  have before : ∀ r ∈ j.requeues, RequeueStage r ∧
      ∀ dlqJob, r.dlqJob = some dlqJob → Known table' dlqJob := fun r among =>
    ⟨(kept.stages r among).1, fun dlqJob read =>
      ((kept.stages r among).2 dlqJob read).change change⟩
  cases a with
  | requeue dlqId notes =>
      obtain rfl := Option.some.inj taken
      intro r among
      rcases List.mem_append.mp among with old | new
      · exact before r old
      · rw [List.mem_singleton.mp new]
        exact ⟨.reading dlqId notes, fun _ read => absurd read (Option.some_ne_none _).symm⟩
  | hookSend i fault =>
      obtain ⟨hook, op, next, -, -, rfl⟩ := hookSend_some taken
      exact before
  | base b =>
      obtain ⟨cluster, moved, rfl⟩ := base_some taken
      exact before
  | requeueSend i fault =>
      obtain ⟨requeue, op, next, entry, calls, rfl⟩ := requeueSend_some taken
      have member := List.mem_of_getElem? entry
      obtain ⟨stage, sends⟩ := (kept.stages requeue member).1.answer calls j.cluster.now fault j.db
      intro r among
      rcases List.mem_or_eq_of_mem_set among with old | rfl
      · exact before r old
      · refine ⟨stage, fun dlqJob read => ?_⟩
        rcases sends with ⟨rfl, -⟩ | ⟨_, loaded, -, rfl⟩ | ⟨notes, rfl⟩
        · -- the row was read from the table, which the read has left alone
          cases fault with
          | some error => exact (before requeue member).2 dlqJob read
          | none =>
              simp only [Statement.answer_none, Statement.exec, kept.present, Requeue.read] at read
              have same : ((Statement.getDlqJob requeue.dlqId).answer j.cluster.now none
                  j.db).2.dlq = .ok table := by
                simp only [Statement.answer_none, Statement.exec, kept.present]
              obtain rfl := Except.ok.inj (same.symm.trans after)
              exact .of_mem (SerialTable.get?_eq_some.mp read).1
        · exact (before requeue member).2 dlqJob read
        · exact (before requeue member).2 dlqJob read

/-- A hook that has run to its end without an error has left no record its job was requeued
from. -/
theorem cleaned_step {table' : DlqTable} {entries : List Entry} (kept : RequeuesKept j table)
    (keys : JobKeysKept j) (keys' : JobKeysKept j') (taken : j.step tables a = some j')
    (after : j'.db.dlq = .ok table') (change : DlqChange j.cluster.now table table' entries) :
    ∀ hook ∈ j'.hooks, hook.routine.next? = none → hook.refused = false →
      ∀ dlqJob row, .requeued dlqJob row ∈ j'.log → row.id = hook.job.id →
        dlqJob.jobKey ≠ none → ∀ d ∈ table'.rows, d.id ≠ dlqJob.id := by
  intro hook among last accepted dlqJob row new same keyed
  -- a job that is requeued is in the queue, a completed one is not
  have old : .requeued dlqJob row ∈ j.log := by
    rcases kept.requeued_step taken new with old | ⟨-, -, member⟩
    · exact old
    · exact absurd same ((keys'.completed hook among).2 row member)
  obtain ⟨known, sameKey⟩ := kept.requeued dlqJob row old
  have seen : j.Seen row.id row.key := ⟨_, old, rfl⟩
  have cleanedBefore : hook ∈ j.hooks → ∀ d ∈ table'.rows, d.id ≠ dlqJob.id := fun before =>
    (Known.gone known.1 (kept.cleaned hook before last accepted dlqJob row old same keyed) change).2
  cases a with
  | requeue dlqId notes =>
      obtain rfl := Option.some.inj taken
      exact cleanedBefore among
  | requeueSend i fault =>
      obtain ⟨requeue, op, next, -, -, rfl⟩ := requeueSend_some taken
      exact cleanedBefore among
  | hookSend i fault =>
      obtain ⟨started, op, next, entry, calls, rfl⟩ := hookSend_some taken
      rcases List.mem_or_eq_of_mem_set among with before | rfl
      · exact cleanedBefore before
      · have member := List.mem_of_getElem? entry
        obtain ⟨jobKey, present, rfl, -, -⟩ := (kept.hooks started member).sends calls
        have agrees : dlqJob.jobKey = some jobKey := by
          rw [← sameKey, ← present]
          exact keys.agree _ _ _ seen (same ▸ (keys.completed started member).1)
        cases fault with
        | some error => simp [Statement.answer, Except.isOk, Except.toBool] at accepted
        | none =>
            have erased : ((Statement.deleteDlqByJobKey jobKey).answer j.cluster.now none
                j.db).2.dlq = .ok (table.delete fun row => row.jobKey = some jobKey) := by
              simp only [Statement.answer_none, Statement.exec, kept.present]
            obtain rfl := Except.ok.inj (erased.symm.trans after)
            intro d dMember sameId
            obtain ⟨dOld, spared⟩ := SerialTable.mem_delete.mp dMember
            rw [known.2 d dOld sameId, agrees] at spared
            simp at spared
  | base b =>
      obtain ⟨cluster, moved, rfl⟩ := base_some taken
      rcases List.mem_append.mp among with before | started
      · exact cleanedBefore before
      · cases b with
        | complete i =>
            obtain ⟨ended, entry, rfl⟩ := Option.map_eq_some_iff.mp moved
            obtain rfl : hook = _ := by simpa [hooksOf, entry] using started
            have running := keys.running ended (List.mem_of_getElem? entry)
            have sameKeys := keys.agree _ _ _ seen (same ▸ running)
            exact absurd (sameKey.symm.trans (sameKeys.trans (HookStage.keyless last))) keyed
        | _ => cases started

/-- Every step of the journal. -/
theorem step (kept : RequeuesKept j table) (keys : JobKeysKept j)
    (taken : j.step tables a = some j') : ∃ table', RequeuesKept j' table' := by
  obtain ⟨table', entries, marks, after, change, -, -⟩ := dlq_step kept.present taken
  refine ⟨table', after, kept.stages_step taken after change, fun dlqJob row new => ?_,
    hooks_step kept.hooks taken, kept.cleaned_step keys (keys.step taken) taken after change⟩
  rcases kept.requeued_step taken new with old | ⟨known, sameKey, -⟩
  · exact ⟨(kept.requeued dlqJob row old).1.change change, (kept.requeued dlqJob row old).2⟩
  · exact ⟨known.change change, sameKey⟩

end RequeuesKept

/-- A record has gone, and none of the requeues from number `n` on has found it. -/
structure NotFound (n : Nat) (dlqId : Int) (j : Journal) : Prop where
  keys : JobKeysKept j
  gone : ∃ table, RequeuesKept j table ∧ dlqId < table.nextId ∧ ∀ d ∈ table.rows, d.id ≠ dlqId
  unread : ∀ i r, n ≤ i → j.requeues[i]? = some r → r.dlqId = dlqId → r.dlqJob = none

namespace NotFound

variable {tables : CharTables} {j j' : Journal} {a : JournalAction} {n : Nat} {dlqId : Int}

/-- A requeue of it that reads finds nothing. -/
theorem unread_step (absent : NotFound n dlqId j) (taken : j.step tables a = some j') :
    ∀ i r, n ≤ i → j'.requeues[i]? = some r → r.dlqId = dlqId → r.dlqJob = none := by
  obtain ⟨table, kept, drawn, gone⟩ := absent.gone
  cases a with
  | hookSend k fault =>
      obtain ⟨hook, op, next, -, -, rfl⟩ := hookSend_some taken
      exact absent.unread
  | base b =>
      obtain ⟨cluster, -, rfl⟩ := base_some taken
      exact absent.unread
  | requeue other notes =>
      obtain rfl := Option.some.inj taken
      intro i r later entry same
      rcases ListFacts.getElem?_concat entry with old | ⟨-, rfl⟩
      · exact absent.unread i r later old same
      · rfl
  | requeueSend k fault =>
      obtain ⟨requeue, op, next, started, calls, rfl⟩ := requeueSend_some taken
      intro i r later entry same
      rcases ListFacts.getElem?_set entry with ⟨-, old⟩ | ⟨rfl, rfl⟩
      · exact absent.unread i r later old same
      · have unread := absent.unread i requeue later started same
        rcases ((kept.stages requeue (List.mem_of_getElem? started)).1.answer calls
            j.cluster.now fault j.db).2 with ⟨rfl, -⟩ | ⟨_, loaded, -⟩ | ⟨notes, rfl⟩
        · cases fault with
          | some error => exact unread
          | none =>
              have missing : table.get? requeue.dlqId = none :=
                SerialTable.get?_eq_none.mpr fun d member => same ▸ gone d member
              simp only [Statement.answer_none, Statement.exec, kept.present, Requeue.read, missing]
        · exact absurd (loaded.symm.trans unread) (Option.some_ne_none _)
        · exact unread

theorem step (absent : NotFound n dlqId j) (taken : j.step tables a = some j') :
    NotFound n dlqId j' := by
  refine ⟨absent.keys.step taken, ?_, absent.unread_step taken⟩
  obtain ⟨table, kept, drawn, gone⟩ := absent.gone
  obtain ⟨table', kept'⟩ := kept.step absent.keys taken
  obtain ⟨after, entries, marks, present, change, -, -⟩ := dlq_step kept.present taken
  obtain rfl := Except.ok.inj (present.symm.trans kept'.present)
  exact ⟨after, kept', Known.gone drawn gone change⟩

/-- So it does not enqueue anything. -/
theorem no_enqueue (absent : NotFound n dlqId j) {i : Nat} {r : Requeue} (later : n ≤ i)
    (entry : j.requeues[i]? = some r) (same : r.dlqId = dlqId) (identifier : String)
    (payload : Json) (spec : GraphileJobSpec) :
    r.routine.next? ≠ some (.addJob identifier payload spec) := by
  intro sends
  obtain ⟨table, kept, -, -⟩ := absent.gone
  obtain ⟨next, calls⟩ : ∃ next, r.routine = .call (.addJob identifier payload spec) next := by
    cases routine : r.routine with
    | done job => simp [routine, Program.next?] at sends
    | fail error => simp [routine, Program.next?] at sends
    | call op next =>
        rw [routine] at sends
        obtain rfl := Option.some.inj sends
        exact ⟨next, rfl⟩
  rcases ((kept.stages r (List.mem_of_getElem? entry)).1.answer calls 0 none .fresh).2 with
    ⟨other, -⟩ | ⟨_, loaded, -⟩ | ⟨_, other⟩
  · cases other
  · exact absurd (loaded.symm.trans (absent.unread i r later entry same)) (Option.some_ne_none _)
  · cases other

end NotFound

/-- In every run: once a job that was requeued from a record with a key has completed and its
hook has run without an error, the record has gone and never comes back, and no requeue of it
that is called from then on gets to enqueue anything. -/
theorem requeued_record_gone (tables : CharTables) {now : Timestamp} {db : Database}
    {table : DlqTable} (present : db.dlq = .ok table) {as : List JournalAction} {j : Journal}
    (path : Transition.Run (step tables) (fun _ _ => True) (initial now db) as j) {hook : Hook}
    (completed : hook ∈ j.hooks) (last : hook.routine.next? = none)
    (accepted : hook.refused = false) {dlqJob : DlqJob} {row : JobRow}
    (requeued : .requeued dlqJob row ∈ j.log) (same : row.id = hook.job.id)
    (keyed : dlqJob.jobKey ≠ none) {bs : List JournalAction} {j' : Journal}
    (onward : Transition.Run (step tables) (fun _ _ => True) j bs j') :
    (∀ d ∈ j'.db.dlqRows, d.id ≠ dlqJob.id) ∧
      ∀ i r, j.requeues.length ≤ i → j'.requeues[i]? = some r → r.dlqId = dlqJob.id →
        ∀ identifier payload spec, r.routine.next? ≠ some (.addJob identifier payload spec) := by
  obtain ⟨keys, table, kept⟩ : JobKeysKept j ∧ ∃ table, RequeuesKept j table :=
    path.invariant (I := fun j => JobKeysKept j ∧ ∃ table, RequeuesKept j table)
      (fun _ _ _ ⟨keys, _, kept⟩ _ taken => ⟨keys.step taken, kept.step keys taken⟩)
      ⟨.initial now db, table, .initial present⟩
  have gone := kept.cleaned hook completed last accepted dlqJob row requeued same keyed
  have absent : NotFound j.requeues.length dlqJob.id j := by
    refine ⟨keys, ⟨table, kept, (kept.requeued dlqJob row requeued).1.1, gone⟩, ?_⟩
    intro i r later entry
    rw [List.getElem?_eq_none later] at entry
    cases entry
  have absent' : NotFound j.requeues.length dlqJob.id j' :=
    onward.invariant (fun _ _ _ absent _ taken => absent.step taken) absent
  refine ⟨?_, fun i r later entry sameId identifier payload spec =>
    absent'.no_enqueue later entry sameId identifier payload spec⟩
  obtain ⟨table', kept', -, gone'⟩ := absent'.gone
  rw [Database.dlqRows_ok kept'.present]
  exact gone'

/-- A keyed job is captured, requeued and completed; its record has gone. -/
theorem requeued_record_gone_failedInvoice :
    ∃ as j, Transition.Run (step .ascii) (fun _ _ => True)
        (initial 0 (failedInvoice .null)) as j ∧
      (∃ dlqJob row, .requeued dlqJob row ∈ j.log ∧ dlqJob.id = 1) ∧
      ∀ d ∈ j.db.dlqRows, d.id ≠ 1 := by
  have path : Transition.Run (step .ascii) (fun _ _ => True) (initial 0 (failedInvoice .null))
      [.base (.start Client.processFailedJobs), .base (.send 0 none), .base (.send 0 none),
        .requeue 1 none, .requeueSend 0 none, .requeueSend 0 none, .requeueSend 0 none,
        .base (.fetch "worker" 2), .base (.complete 0), .hookSend 0 none] _ :=
    .of_run (by simp) rfl
  exact ⟨_, _, path, ⟨_, _, .tail _ (.head _), rfl⟩, (requeued_record_gone .ascii rfl path (.head _)
    rfl rfl (.tail _ (.head _)) rfl (Option.some_ne_none _) (.nil _)).1⟩

/-- Without a key the record of a job that was requeued and has completed stays, and the next
requeue enqueues the job again. -/
theorem keyless_record_requeued_again :
    ∃ as j, Transition.Run (step .ascii) (fun _ _ => True)
        (initial 0 (Database.fresh.addJob 0 singleAttempt).2) as j ∧
      ∃ hook ∈ j.hooks, hook.routine.next? = none ∧ hook.refused = false ∧
        ∃ dlqJob row, .requeued dlqJob row ∈ j.log ∧ row.id = hook.job.id ∧
          (∃ d ∈ j.db.dlqRows, d.id = dlqJob.id) ∧
          ∃ bs j', Transition.Run (step .ascii) (fun _ _ => True) j bs j' ∧
            ∃ dlqJob' row', .requeued dlqJob' row' ∈ j'.log ∧ dlqJob'.id = dlqJob.id ∧
              row'.id ≠ row.id := by
  refine ⟨[.base (.fetch "worker" 1), .base (.fail 0 "boom" 0),
    .base (.start Client.processFailedJobs), .base (.send 0 none), .base (.send 0 none),
    .requeue 1 none, .requeueSend 0 none, .requeueSend 0 none, .requeueSend 0 none,
    .base (.fetch "worker" 2), .base (.complete 0)], _, .of_run (by simp) rfl, _, .head _, rfl, rfl,
    _, _, .tail _ (.tail _ (.head _)), rfl, ⟨_, .head _, rfl⟩,
    [.requeue 1 none, .requeueSend 1 none, .requeueSend 1 none], _, .of_run (by simp) rfl,
    _, _, .tail _ (.tail _ (.tail _ (.tail _ (.tail _ (.head _))))), rfl, ?_⟩
  decide

end Journal

end Backfill
