import Backfill.Client.RoundTrip

/-!
# What a requeue does to the other jobs (`client/dlq.rs:339`)

`requeue_dlq_job` enqueues under the key of the DLQ entry, in `JobKeyMode::Replace`. A job that was
enqueued under that key since the failure gives way to the entry, which is older; the jobs with
other keys and those without one stay as they are.
-/

namespace Backfill

/-- The job waits for an attempt. -/
def Database.Pending (db : Database) (row : JobRow) : Prop :=
  row ∈ db.jobs.rows ∧ row.isAvailable = true

namespace Session

variable {session : Session} {dlqId : Int} {notes : Option String} {job : Job}

/-- A requeue that reports a job has put the work of the DLQ entry in the queue. Every job that was
pending under another key, or under none, is pending as it was; a job that was pending under the
key of the entry is now the job of the entry. -/
theorem requeueDlqJob_pending
    (ran : (session.run (Client.requeueDlqJob dlqId notes)).1 = .ok job) :
    ∃ record ∈ session.db.dlqRows, record.id = dlqId ∧
      (job.toJobRow ∈ (session.run (Client.requeueDlqJob dlqId notes)).2.db.jobs.rows ∧
        job.attempts = 0 ∧ job.lockedAt = none) ∧
      (session.run (Client.requeueDlqJob dlqId notes)).2.db.HasContent job record.content ∧
      ∀ row, session.db.Pending row →
        (row.key = none ∨ row.key ≠ record.jobKey →
          (session.run (Client.requeueDlqJob dlqId notes)).2.db.Pending row) ∧
        (row.key ≠ none → row.key = record.jobKey → job.id = row.id) := by
  obtain ⟨record, among, same, written, dlq, reported, rfl, left⟩ := run_requeueDlqJob ran
  have jobs := congrArg Database.jobs left
  have tasks := congrArg Database.tasks left
  have queues := congrArg Database.jobQueues left
  have has := (Database.hasContent_addJob reported).congr tasks queues
  rw [record.content_toSpec] at has
  refine ⟨record, among, same, ?_, has, ?_⟩
  · rw [jobs]
    exact Database.addJob_written reported
  · rintro row ⟨member, available⟩
    refine ⟨fun other => ⟨?_, available⟩, fun keyed sameKey => ?_⟩
    · rw [jobs]
      refine Database.mem_addJob_of_ne member ?_
      by_cases absent : record.jobKey = none
      · exact .inl absent
      · refine .inr fun sameKey => ?_
        rcases other with none | differ
        · exact absent (sameKey.symm.trans none)
        · exact differ sameKey
    · have entryKeyed : record.jobKey ≠ none := sameKey ▸ keyed
      exact Database.addJob_reported_id reported member (JobRow.isAvailable_iff.mp available).1
        entryKeyed sameKey

/-- The invoice is in the DLQ, and one with another payload has been enqueued under its key. -/
def reissuedInvoice : Session :=
  ((movedInvoice "invoices").run
    (Client.enqueue "send_email" (.string "reissued") (invoiceSpec "invoices"))).2

/-- The job of that enqueue. -/
def reissued : JobRow :=
  { submittedInvoice.toJobRow with id := 2, payload := .string "reissued" }

/-- A requeue of the invoice reports the reissued job, with the old payload. -/
theorem requeueDlqJob_pending_reissued :
    ∃ record ∈ reissuedInvoice.db.dlqRows, record.jobKey = some "invoice" ∧
      ∃ job : Job, (reissuedInvoice.run (Client.requeueDlqJob 1 none)).1 = .ok job ∧
        job.id = reissued.id ∧ job.payload = record.payload := by
  have ran : (reissuedInvoice.run (Client.requeueDlqJob 1 none)).1 = .ok _ := rfl
  obtain ⟨record, among, same, -, has, others⟩ := requeueDlqJob_pending ran
  have pending : reissuedInvoice.db.Pending reissued := ⟨.head _, rfl⟩
  have keyed : record.jobKey = some "invoice" := by
    cases among with
    | head => rfl
    | tail _ more => cases more
  exact ⟨record, among, keyed, _, ran,
    (others reissued pending).2 (Option.some_ne_none _) keyed.symm, has.payload⟩

/-- After it no job has the payload of the job that was pending. -/
theorem requeueDlqJob_destroys :
    ¬ ∀ (session : Session) (dlqId : Int) (notes : Option String) (job : Job),
      (session.run (Client.requeueDlqJob dlqId notes)).1 = .ok job →
      ∀ row, session.db.Pending row →
        ∃ row', (session.run (Client.requeueDlqJob dlqId notes)).2.db.Pending row' ∧
          row'.payload = row.payload := by
  intro keeps
  have ran : (reissuedInvoice.run (Client.requeueDlqJob 1 none)).1 = .ok _ := rfl
  have pending : reissuedInvoice.db.Pending reissued := ⟨.head _, rfl⟩
  obtain ⟨row, ⟨member, -⟩, same⟩ := keeps reissuedInvoice 1 none _ ran reissued pending
  cases member with
  | head => cases same
  | tail _ more => cases more

end Session

end Backfill
