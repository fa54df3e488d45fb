import Backfill.Admin.Locks
import Backfill.Client.RoundTrip

/-!
# Enqueueing over the admin API (`admin.rs:504`)

`POST /jobs` takes a priority and a number of attempts in 32 bits. Both columns are `smallint`s: the
attempts are clamped on the way, the priority is cut to its low 16 bits.
-/

namespace Backfill

/-- The body of `POST /jobs`. -/
structure EnqueueJobRequest where
  taskIdentifier : String
  payload : Json
  queue : Option String
  priority : Option Int
  maxAttempts : Option Int
  jobKey : Option String
  runAt : Option Timestamp

structure EnqueueJobResponse where
  jobId : String
  status : String

/-- The queue a request names. -/
def EnqueueJobRequest.namedQueue (name : String) : Queue :=
  if name = "" ∨ name = "parallel" then .parallel else .serial name

/-- The specification the handler builds: the default one with what the request gives. -/
def EnqueueJobRequest.toSpec (req : EnqueueJobRequest) : JobSpec :=
  { JobSpec.default with
    queue := (req.queue.map namedQueue).getD JobSpec.default.queue
    priority := (req.priority.map fun priority => ⟨asI16 priority⟩).getD JobSpec.default.priority
    maxAttempts := req.maxAttempts <|> JobSpec.default.maxAttempts
    jobKey := req.jobKey <|> JobSpec.default.jobKey
    runAt := req.runAt <|> JobSpec.default.runAt }

namespace Handler

/-- The response to an enqueue. -/
def enqueueResponse : EnqueueOutcome → Handler EnqueueJobResponse
  | .enqueued job => .done ⟨toString job.id, "enqueued"⟩
  | .alreadyInProgress jobKey =>
      .fail ⟨409, "Job with key '" ++ jobKey ++ "' is already in progress",
        "JOB_ALREADY_IN_PROGRESS"⟩

/-- `enqueue_job` (`admin.rs:504`). -/
def enqueueJob (req : EnqueueJobRequest) : Handler EnqueueJobResponse := do
  let outcome ← (Client.enqueue req.taskIdentifier req.payload req.toSpec).mapError fun e =>
    ⟨500, e.display, "ENQUEUE_FAILED"⟩
  enqueueResponse outcome

end Handler

/-- A request whose job the handler says is enqueued, with the row of the job. -/
structure StoredRequest where
  session : Session
  request : EnqueueJobRequest
  response : EnqueueJobResponse
  row : JobRow
  answered : (session.run (Handler.enqueueJob request)).1 = .ok response
  stored : row ∈ (session.run (Handler.enqueueJob request)).2.db.jobs.rows
  same : ∀ job, (session.run (Client.enqueue request.taskIdentifier request.payload
    request.toSpec)).1 = .ok (.enqueued job) → row.id = job.id

/-- A DLQ row whose requeue reports a job, with the row of the job. -/
structure RequeuedRow where
  session : Session
  record : DlqJob
  notes : Option String
  job : Job
  row : JobRow
  among : record ∈ session.db.dlqRows
  requeued : (session.run (Client.requeueDlqJob record.id notes)).1 = .ok job
  stored : row ∈ (session.run (Client.requeueDlqJob record.id notes)).2.db.jobs.rows
  same : row.id = job.id

/-- The handler says that a job is enqueued exactly when the client reports one. -/
theorem Session.run_enqueueJob {session : Session} {req : EnqueueJobRequest}
    {response : EnqueueJobResponse} :
    (session.run (Handler.enqueueJob req)).1 = .ok response ↔
      ∃ job, (session.run (Client.enqueue req.taskIdentifier req.payload req.toSpec)).1 =
          .ok (.enqueued job) ∧ response = ⟨toString job.id, "enqueued"⟩ := by
  constructor
  · intro ran
    obtain ⟨outcome, enqueued, ended⟩ := Program.ok_of_run_bind exec ran
    cases outcome with
    | enqueued job =>
        exact ⟨job, (Program.run_mapError_eq_ok exec).mp enqueued, (Except.ok.inj ended).symm⟩
    | alreadyInProgress jobKey => cases ended
  · rintro ⟨job, enqueued, rfl⟩
    have answered := (Program.run_mapError_eq_ok exec
      (g := fun e => (⟨500, e.display, "ENQUEUE_FAILED"⟩ : AdminError))).mpr enqueued
    exact congrArg Prod.fst (Program.run_bind_ok exec answered)

namespace StoredRequest

/-- The row has the columns the specification of the handler asks for. -/
theorem columns (post : StoredRequest) :
    post.row.priority = post.request.toSpec.priority.value.toInt ∧
      post.row.maxAttempts =
        ((post.request.toSpec.maxAttempts.map clampI16).getD 25).toInt := by
  obtain ⟨job, enqueued, -⟩ := Session.run_enqueueJob.mp post.answered
  have same := post.same job enqueued
  obtain ⟨written, reported, rfl, left⟩ := Session.run_enqueue enqueued
  have handled : (post.session.run (Handler.enqueueJob post.request)).2.db.jobs =
      (post.session.run (Client.enqueue post.request.taskIdentifier post.request.payload
        post.request.toSpec)).2.db.jobs := by
    have answered := (Program.run_mapError_eq_ok Session.exec
      (g := fun e => (⟨500, e.display, "ENQUEUE_FAILED"⟩ : AdminError))).mpr enqueued
    have ended := congrArg Prod.snd (Program.run_bind_ok Session.exec
      (f := Handler.enqueueResponse) answered)
    rw [Program.run_mapError] at ended
    exact congrArg (fun session => session.db.jobs) ended
  have stored := post.stored
  rw [handled, left] at stored
  exact Database.columns_addJob reported stored same

/-- The priority a request gives is stored as the low 16 bits of it. -/
theorem priority_row (post : StoredRequest) {p : Int} (given : post.request.priority = some p) :
    post.row.priority = (asI16 p).toInt := by
  rw [post.columns.1, EnqueueJobRequest.toSpec, given]
  rfl

/-- The attempts it gives are stored clamped. -/
theorem maxAttempts_row (post : StoredRequest) {n : Int}
    (given : post.request.maxAttempts = some n) :
    post.row.maxAttempts = max 0 (min n 32767) := by
  rw [post.columns.2, EnqueueJobRequest.toSpec, given]
  exact toInt_clampI16 n

end StoredRequest

/-- Two rows of the DLQ with one id are one row. -/
theorem Database.eq_of_mem_dlqRows {db : Database} {a b : DlqJob} (memberA : a ∈ db.dlqRows)
    (memberB : b ∈ db.dlqRows) (same : a.id = b.id) : a = b := by
  unfold dlqRows at memberA memberB
  cases present : db.dlq with
  | error missing =>
      rw [present] at memberA
      cases memberA
  | ok table =>
      rw [present] at memberA memberB
      exact table.eq_of_id_eq memberA memberB same

/-- The priority of a DLQ row is restored as the low 16 bits of it. -/
theorem RequeuedRow.priority_row (requeue : RequeuedRow) :
    requeue.row.priority = (asI16 requeue.record.priority).toInt := by
  obtain ⟨record, among, named, written, dlq, reported, job, left⟩ :=
    Session.run_requeueDlqJob requeue.requeued
  obtain rfl := Database.eq_of_mem_dlqRows among requeue.among named
  have stored := requeue.stored
  have same := requeue.same
  rw [left] at stored
  rw [job] at same
  exact (Database.columns_addJob reported stored same).1

/-- At least as far apart as the wraps of an `i16` between them make up. -/
def ApartByWraps (p q : Int) : Prop := 65536 * (i16Wraps q - i16Wraps p) ≤ q - p

instance (p q : Int) : Decidable (ApartByWraps p q) := inferInstanceAs (Decidable (_ ≤ _))

/-- That is when an `i16` keeps the order. -/
theorem apartByWraps_iff {p q : Int} : ApartByWraps p q ↔ (asI16 p).toInt ≤ (asI16 q).toInt := by
  rw [toInt_asI16, toInt_asI16, ApartByWraps]
  omega

/-- Two requests and two requeues store what keeps the order of what they are given, and what fits
as it is. -/
structure KeepOrder (first second : StoredRequest) (restored restored' : RequeuedRow) :
    Prop where
  requested : ∀ p q, first.request.priority = some p → second.request.priority = some q →
    p ≤ q → first.row.priority ≤ second.row.priority
  exact : ∀ p, first.request.priority = some p → -2 ^ 15 ≤ p → p < 2 ^ 15 →
    first.row.priority = p
  requeued : restored.record.priority ≤ restored'.record.priority →
    restored.row.priority ≤ restored'.row.priority
  attempts : ∀ m n, first.request.maxAttempts = some m → second.request.maxAttempts = some n →
    m ≤ n → first.row.maxAttempts ≤ second.row.maxAttempts

/-- Attempts always keep their order, and priorities do exactly when they are as far apart as the
wraps between them make up. -/
theorem keepOrder_iff (first second : StoredRequest) (restored restored' : RequeuedRow) :
    KeepOrder first second restored restored' ↔
      (∀ p q, first.request.priority = some p → second.request.priority = some q → p ≤ q →
        ApartByWraps p q) ∧
      (restored.record.priority ≤ restored'.record.priority →
        ApartByWraps restored.record.priority restored'.record.priority) := by
  simp only [apartByWraps_iff, ← restored.priority_row, ← restored'.priority_row]
  constructor
  · intro keep
    refine ⟨fun p q given given' le => ?_, keep.requeued⟩
    rw [← first.priority_row given, ← second.priority_row given']
    exact keep.requested p q given given' le
  · rintro ⟨requested, requeued⟩
    refine ⟨fun p q given given' le => ?_, fun p given low high => ?_, requeued,
      fun m n given given' le => ?_⟩
    · rw [first.priority_row given, second.priority_row given']
      exact requested p q given given' le
    · rw [first.priority_row given, toInt_asI16_of_fits low high]
    · rw [first.maxAttempts_row given, second.maxAttempts_row given']
      omega

/-- Priorities that fit are as far apart as that. -/
theorem apartByWraps_of_fits {p q : Int} (le : p ≤ q) (low : -2 ^ 15 ≤ p) (high : q < 2 ^ 15) :
    ApartByWraps p q := by
  rw [apartByWraps_iff, toInt_asI16_of_fits low (by omega), toInt_asI16_of_fits (by omega) high]
  exact le

/-- A request for a job with this priority. -/
def prioritized (priority : Int) : EnqueueJobRequest :=
  ⟨"send_email", .null, none, some priority, none, none, none⟩

/-- The request, stored in a new database. -/
def storedPriority (priority : Int) : StoredRequest where
  session := .undisturbed 0 .fresh
  request := prioritized priority
  response := _
  row := _
  answered := rfl
  stored := .head _
  same job enqueued := by
    obtain rfl := EnqueueOutcome.enqueued.inj (Except.ok.inj enqueued)
    rfl

/-- The invoice is requeued. -/
def requeuedInvoice : RequeuedRow where
  session := Session.movedInvoice "invoices"
  record := _
  notes := none
  job := _
  row := _
  among := .head _
  requeued := rfl
  stored := .head _
  same := rfl

/-- One step beyond the largest priority comes before it. -/
theorem priority_32768_overtakes : ¬ ∀ (first second : StoredRequest)
    (restored restored' : RequeuedRow), KeepOrder first second restored restored' := by
  intro keep
  have requested := (keep (storedPriority 32767) (storedPriority 32768) requeuedInvoice
    requeuedInvoice).requested 32767 32768 rfl rfl (by decide)
  exact absurd requested (by decide)

end Backfill
