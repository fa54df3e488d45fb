import Backfill.Client.Description
import Backfill.Client.DlqTable

/-!
# Which jobs the columns of the DLQ can take

The queue tables keep a job's names in `text` columns and its payload as `json`; the DLQ
keeps them in `varchar` columns and as `jsonb`. A capture succeeds exactly for the jobs
that fit into both.
-/

namespace Backfill

/-- The reason a pass records is a text the database can hold. -/
theorem FailedJob.nulFree_failureReason (job : FailedJob) :
    NulFree job.toInsert.failureReason := by
  refine .append (.append (.append (.append ?_ (nulFree_toString _)) ?_) (nulFree_toString _)) ?_
  all_goals decide

/-- What the columns of the queue tables can hold of a job (`docs/01-database-setup.md:30`). -/
structure Job.Storable (job : Job) : Prop where
  id : -2 ^ 63 ≤ job.id ∧ job.id < 2 ^ 63
  priority : -2 ^ 15 ≤ job.priority ∧ job.priority < 2 ^ 15
  attempts : -2 ^ 15 ≤ job.attempts ∧ job.attempts < 2 ^ 15
  maxAttempts : -2 ^ 15 ≤ job.maxAttempts ∧ job.maxAttempts < 2 ^ 15
  taskIdentifier : NulFree job.taskIdentifier
  key : ∀ key ∈ job.key, NulFree key
  lastError : ∀ error ∈ job.lastError, NulFree error

namespace Database

/-- The names of the queues are texts the database can hold. -/
def QueueNamesStorable (db : Database) : Prop :=
  ∀ queue ∈ db.jobQueues.rows, NulFree queue.queueName

/-- The job is within the columns of the DLQ. -/
structure FitsDlq (jsonb : Json → Bool) (db : Database) (job : Job) : Prop where
  taskIdentifier : FitsVarchar 200 job.taskIdentifier
  queueName : ∀ name ∈ db.queueName? job.jobQueueId, FitsVarchar 100 name
  key : ∀ key ∈ job.key, FitsVarchar 200 key
  payload : jsonb job.payload = true

/-- The queue name a capture records: that of the job, or one of the two it uses for want of
one. -/
def RecordsQueue (db : Database) (job : Job) (values : DlqInsert) : Prop :=
  db.queueName? job.jobQueueId = some values.queueName ∨
    db.queueName? job.jobQueueId = none ∧ values.queueName ∈ ["", "default"]

/-- A queue name that joins to a job is one the database can hold. -/
theorem QueueNamesStorable.nulFree {db : Database} {jobQueueId : Option Int} {name : String}
    (storable : db.QueueNamesStorable) (named : db.queueName? jobQueueId = some name) :
    NulFree name := by
  obtain ⟨row, found, rfl⟩ := Option.map_eq_some_iff.mp named
  obtain ⟨queueId, -, found⟩ := Option.bind_eq_some_iff.mp found
  exact storable row (SerialTable.get?_eq_some.mp found).1

end Database

/-- Values read from a job that the queue tables hold fit the columns of the DLQ when the job
does, apart from what is said about its failure. -/
theorem DlqInsert.fitsColumns_iff_fitsDlq {jsonb : Json → Bool} {db : Database} {job : Job}
    {values : DlqInsert} (bound : Describes.Bound db job values)
    (queue : db.RecordsQueue job values) (storable : job.Storable)
    (queues : db.QueueNamesStorable) :
    values.FitsColumns jsonb ↔ db.FitsDlq jsonb job ∧ NulFree values.failureReason ∧
      ∀ error ∈ values.lastError, jsonb error = true := by
  have queueName : NulFree values.queueName ∧ FitsVarchar 100 values.queueName ↔
      ∀ name ∈ db.queueName? job.jobQueueId, FitsVarchar 100 name := by
    rcases queue with named | ⟨unnamed, substitute⟩
    · simp [named, queues.nulFree named]
    · have short : NulFree values.queueName ∧ FitsVarchar 100 values.queueName := by
        rcases List.mem_pair.mp substitute with same | same <;> rw [same] <;> decide
      simp [unnamed, short]
  have id := storable.id
  have low := storable.priority
  have few := storable.maxAttempts
  constructor
  · intro fits
    refine ⟨⟨?_, ?_, ?_, ?_⟩, fits.failureReason, fits.lastError⟩
    · exact bound.taskIdentifier ▸ fits.taskIdentifier.2
    · exact queueName.mp fits.queueName
    · exact fun key keyed => (fits.jobKey key (bound.jobKey ▸ keyed)).2
    · exact bound.payload ▸ fits.payload
  · rintro ⟨fits, reason, error⟩
    refine ⟨?_, ?_, ?_, ?_, ?_, ?_, ?_, reason, error⟩
    · rw [bound.originalJobId]
      exact id
    · rw [bound.taskIdentifier]
      exact ⟨storable.taskIdentifier, fits.taskIdentifier⟩
    · rw [bound.payload]
      exact fits.payload
    · exact queueName.mpr fits.queueName
    · rw [bound.priority]
      omega
    · rw [bound.jobKey]
      exact fun key keyed => ⟨storable.key key keyed, fits.key key keyed⟩
    · rw [bound.maxAttempts]
      omega

namespace Session

variable {session : Session} {table : DlqTable}

/-- A scanned job leaves the queue exactly when its values fit. -/
theorem gone_processFailedJobs_iff {jsonb : Json → Bool} {ddl : TableDdl} {scanned : FailedJob}
    (calm : session.Calm) (present : session.db.dlq = .ok table)
    (watched : watchesKeys ddl = true) (among : scanned ∈ session.db.findFailedJobs) :
    (∀ r ∈ (session.runOn jsonb ddl Client.processFailedJobs).2.db.jobs.rows,
      r.id ≠ scanned.id) ↔ scanned.fits jsonb ddl = true := by
  obtain ⟨sent, db', ran, rows, -⟩ :=
    @runOn_processFailedJobs jsonb ddl session table calm present watched
  rw [ran]
  constructor
  · intro gone
    by_contra misfit
    obtain ⟨row, member, -, -, joined⟩ := Database.of_mem_findFailedJobs among
    have same : scanned.id = row.id := Database.failedJob?_id joined
    refine gone row ((rows row).mpr ⟨member, fun job others fits shared => misfit ?_⟩) same.symm
    obtain rfl : job = scanned := by
      by_contra differ
      exact (Database.pairwise_findFailedJobs session.db).forall others among differ
        (shared.symm.trans same.symm)
    exact fits
  · intro fits r left
    exact ((rows r).mp left).2 scanned among fits

/-- `add_to_dlq` succeeds exactly when its values fit. -/
theorem isOk_upsertDlq_iff {jsonb : Json → Bool} {ddl : TableDdl} {values : DlqInsert}
    (calm : session.Calm) (present : session.db.dlq = .ok table)
    (watched : watchesKeys ddl = true) :
    (session.runOn jsonb ddl (Client.query (.upsertDlq values))).1.isOk = true ↔
      (values.stored jsonb ddl).isOk = true := by
  cases stored : values.stored jsonb ddl with
  | ok kept =>
      rw [runOn_single calm (Statement.execOn_upsertDlq_stored present watched stored)]
      rfl
  | error message =>
      rw [runOn_single calm (Statement.execOn_upsertDlq_refused present watched stored)]
      rfl

/-- Both captures of a job take exactly what fits the columns of `init_dlq`: a pass that scans
the job takes it out of the queue, and `add_to_dlq` succeeds. -/
theorem captured_iff_fitsDlq (jsonb : Json → Bool) (job : Job) (calm : session.Calm)
    (present : session.db.dlq = .ok table) (storable : job.Storable)
    (queues : session.db.QueueNamesStorable) :
    (job.toJobRow ∈ session.db.jobs.rows →
      session.db.taskIdentifier? job.taskId = some job.taskIdentifier →
      (∃ scanned ∈ session.db.findFailedJobs, scanned.id = job.id) →
        ((∀ r ∈ (session.runOn jsonb initDlq Client.processFailedJobs).2.db.jobs.rows,
            r.id ≠ job.id) ↔
          session.db.FitsDlq jsonb job ∧ ∀ error ∈ job.lastError, jsonb (.string error) = true)) ∧
    ∀ reason lastError, NulFree reason → (∀ error ∈ lastError, jsonb error = true) →
      ((session.runOn jsonb initDlq (Client.addToDlq job reason lastError)).1.isOk = true ↔
        session.db.FitsDlq jsonb job) := by
  constructor
  · rintro queued named ⟨scanned, among, same⟩
    obtain ⟨row, member, -, -, joined⟩ := Database.of_mem_findFailedJobs among
    obtain rfl : row = job.toJobRow :=
      session.db.jobs.eq_of_id_eq member queued ((Database.failedJob?_id joined).symm.trans same)
    have bound := Describes.bound_failedJob joined named
    have queue : session.db.RecordsQueue job scanned.toInsert := by
      obtain ⟨identifier, -, rfl⟩ := Option.map_eq_some_iff.mp joined
      rw [Database.RecordsQueue]
      cases named : session.db.queueName? job.jobQueueId with
      | none => exact .inr ⟨rfl, by simp [FailedJob.toInsert]⟩
      | some name => exact .inl (by simp [FailedJob.toInsert])
    have errors : (∀ error ∈ scanned.toInsert.lastError, jsonb error = true) ↔
        ∀ error ∈ job.lastError, jsonb (.string error) = true := by
      obtain ⟨identifier, -, rfl⟩ := Option.map_eq_some_iff.mp joined
      simp [FailedJob.toInsert]
    have gone :=
      @gone_processFailedJobs_iff _ _ jsonb _ _ calm present watchesKeys_initDlq among
    rw [same] at gone
    rw [gone, FailedJob.fits, DlqInsert.isOk_stored_initDlq,
      DlqInsert.fitsColumns_iff_fitsDlq bound queue storable queues, errors]
    exact and_congr_right fun _ => and_iff_right scanned.nulFree_failureReason
  · intro reason lastError clean representable
    obtain ⟨queueName, sent, parallel, queue, ran⟩ :=
      @runOn_addToDlq jsonb initDlq session calm job reason lastError
    have bound : Describes.Bound session.db job (job.toInsert queueName reason lastError) := by
      refine Describes.bound_toInsert parallel fun name serial => ?_
      rcases queue with named | ⟨unnamed, -⟩
      · exact Option.some.inj (named.symm.trans serial)
      · exact absurd (unnamed.symm.trans serial) (Option.some_ne_none name).symm
    rw [ran, isOk_upsertDlq_iff (calm.after sent _) present watchesKeys_initDlq,
      DlqInsert.isOk_stored_initDlq,
      DlqInsert.fitsColumns_iff_fitsDlq bound queue storable queues]
    exact ⟨And.left, fun fits => ⟨fits, clean, representable⟩⟩

theorem storable_invoice : (invoice 1 .null).Storable :=
  ⟨by decide, by decide, by decide, by decide, by decide, by decide, by decide⟩

/-- A job whose names are short is captured either way. -/
theorem captured_invoice :
    (∀ r ∈ ((undisturbed 0 (failedInvoice .null)).runOn (fun _ => true) initDlq
        Client.processFailedJobs).2.db.jobs.rows, r.id ≠ 1) ∧
      ((undisturbed 0 (failedInvoice .null)).runOn (fun _ => true) initDlq
        (Client.addToDlq (invoice 1 .null) "boom" none)).1.isOk = true := by
  have calm : (undisturbed 0 (failedInvoice .null)).Calm := fun _ _ => rfl
  have present : (undisturbed 0 (failedInvoice .null)).db.dlq = .ok .empty := rfl
  have captured := captured_iff_fitsDlq (fun _ => true) (invoice 1 .null) calm present
    storable_invoice (by intro queue member; cases member)
  have fits : (failedInvoice .null).FitsDlq (fun _ => true) (invoice 1 .null) :=
    ⟨by decide, (by intro name named; cases named), by decide, rfl⟩
  exact ⟨(captured.1 (.head _) rfl ⟨_, .head _, rfl⟩).mpr ⟨fits, by decide⟩,
    (captured.2 "boom" none (by decide) (by decide)).mpr fits⟩

/-- A key of 201 letters, which the queue takes. -/
def longKey : String := String.ofList (List.replicate 201 'k')

/-- A failed job under that key. -/
def failedLongKey : Database :=
  let db := (Database.fresh.addJob 0 { singleAttempt with key := some longKey }).2
  { db with jobs := db.jobs.update (fun _ => true) (JobRow.shortCircuit "boom" 0) }

/-- The job itself. -/
def longKeyJob : Job := { invoice 1 .null with key := some longKey }

/-- The job is well within the queue tables, and no capture takes it: the pass counts none and
leaves it in the queue, and `add_to_dlq` fails. -/
theorem long_key_not_captured :
    longKey.length = 201 ∧ longKeyJob.Storable ∧
      longKeyJob.toJobRow ∈ failedLongKey.jobs.rows ∧
      (∃ scanned ∈ failedLongKey.findFailedJobs, scanned.id = longKeyJob.id) ∧
      ((undisturbed 0 failedLongKey).runOn (fun _ => true) initDlq
        Client.processFailedJobs).1 = .ok 0 ∧
      longKeyJob.toJobRow ∈ ((undisturbed 0 failedLongKey).runOn (fun _ => true) initDlq
        Client.processFailedJobs).2.db.jobs.rows ∧
      ((undisturbed 0 failedLongKey).runOn (fun _ => true) initDlq
        (Client.addToDlq longKeyJob "boom" none)).1.isOk = false := by
  have letters : longKey.toList = List.replicate 201 'k' := String.toList_ofList ..
  have overlong : ¬ FitsVarchar 200 longKey := by
    intro fits
    have blank := fits 'k' (by simp [letters])
    exact absurd blank (by decide)
  have clean : NulFree longKey := by
    rw [NulFree, letters, List.mem_replicate]
    exact fun zero => absurd zero.2 (by decide)
  have calm : (undisturbed 0 failedLongKey).Calm := fun _ _ => rfl
  have present : (undisturbed 0 failedLongKey).db.dlq = .ok .empty := rfl
  have misfit : ∀ values : DlqInsert, values.jobKey = some longKey →
      (values.stored (fun _ => true) initDlq).isOk = false := by
    intro values keyed
    refine Bool.eq_false_iff.mpr fun stored => overlong ?_
    exact ((DlqInsert.isOk_stored_initDlq.mp stored).jobKey longKey keyed).2
  have rows : (undisturbed 0 failedLongKey).db.jobs.rows = [longKeyJob.toJobRow] := rfl
  have none : (undisturbed 0 failedLongKey).db.findFailedJobs.countP
      (FailedJob.fits (fun _ => true) initDlq) = 0 := by
    refine List.countP_eq_zero.mpr fun scanned among => ?_
    obtain ⟨row, member, -, -, joined⟩ := Database.of_mem_findFailedJobs among
    rw [rows, List.mem_singleton] at member
    have keyed : scanned.toInsert.jobKey = some longKey :=
      (Database.failedJob?_key joined).trans (member ▸ rfl)
    simp [FailedJob.fits, misfit _ keyed]
  obtain ⟨sent, db', ran, -, idle⟩ :=
    @runOn_processFailedJobs (fun _ => true) initDlq _ _ calm present watchesKeys_initDlq
  obtain ⟨queueName, sent', -, -, added⟩ :=
    @runOn_addToDlq (fun _ => true) initDlq _ calm longKeyJob "boom" Option.none
  have length : longKey.length = 201 := by
    rw [← String.length_toList, letters, List.length_replicate]
  have storable : longKeyJob.Storable := by
    refine ⟨by decide, by decide, by decide, by decide, by decide, ?_, by decide⟩
    intro key keyed
    have same : longKey = key := Option.some.inj keyed
    exact same.subst clean
  refine ⟨length, storable, .head _, ⟨_, .head _, rfl⟩, ?_, ?_, ?_⟩
  · rw [ran, none]
  · rw [ran]
    show longKeyJob.toJobRow ∈ db'.jobs.rows
    rw [idle none, rows]
    exact .head _
  · rw [added, Bool.eq_false_iff]
    refine (isOk_upsertDlq_iff (calm.after sent' _) present watchesKeys_initDlq).not.mpr ?_
    exact Bool.eq_false_iff.mp (misfit _ rfl)

end Session

end Backfill
