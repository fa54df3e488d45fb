import Backfill.Admin.Locks
import Backfill.Client.RequeueRun

/-!
# The missing entry of `POST /dlq/{id}/requeue` (`admin.rs:797`)

The handler takes an error for a missing entry when its text contains `"not found"`. The text of the
error for a missing entry does; the texts of the other errors embed the key of the job or are the
database's own.
-/

namespace Backfill

/-- The body of a successful response; the time in it is that of the response. -/
structure DlqRequeueResponse where
  jobId : Int
  status : String

/-- The response for a missing entry. -/
def AdminError.dlqJobNotFound : AdminError := ⟨404, "DLQ job not found", "DLQ_JOB_NOT_FOUND"⟩

/-- `e.to_string().contains("not found")`. -/
def BackfillError.mentionsNotFound (e : BackfillError) : Bool :=
  contains e.display.toList "not found"

/-- The two error arms of the handler. -/
def requeueError (e : BackfillError) : AdminError :=
  if e.mentionsNotFound then .dlqJobNotFound else ⟨500, e.display, "DLQ_REQUEUE_FAILED"⟩

namespace Handler

/-- `requeue_dlq_job` (`admin.rs:797`). -/
def requeueDlqJob (dlqId : Int) : Handler DlqRequeueResponse := do
  let job ← (Client.requeueDlqJob dlqId none).mapError requeueError
  pure ⟨job.id, "requeued"⟩

end Handler

/-- The text of a refused enqueue that is not the library's own: the key of the job if the refusal
says that it is in progress, or else the text of the refusal. -/
def refusalText (jobKey : Option String) (e : ForeignError) : String :=
  match jobKey with
  | some key => if isRowNotFound e then key else e.display
  | none => e.display

theorem mentionsNotFound_sqlxError (e : ForeignError) :
    (BackfillError.sqlxError e).mentionsNotFound = contains e.display.toList "not found" := rfl

theorem mentionsNotFound_missing (dlqId : Int) :
    (BackfillError.dlqJobNotFound dlqId).mentionsNotFound = true := by
  have label : "not found".toList <:+: "DLQ job not found with ID: ".toList := by
    decide +kernel
  show contains ("DLQ job not found with ID: " ++ toString dlqId).toList "not found" = true
  rw [contains, decide_eq_true_iff, String.toList_append]
  exact List.infix_append_of_infix_left label

/-- The words around the key of a job in progress do not say `"not found"`. -/
theorem mentionsNotFound_inProgress (dlqId : Int) (key : String) :
    (BackfillError.runtimeError ("Cannot requeue DLQ job " ++ toString dlqId ++
      ": a job with key '" ++ key ++ "' is already in progress")).mentionsNotFound =
      contains key.toList "not found" := by
  have quote : '\'' ∉ "not found".toList := by decide
  have colon : ':' ∉ "not found".toList := by decide
  have letter : 'b' ∉ "not found".toList := by decide
  have opening : ¬ "not found".toList <:+: "Runtime error: Cannot requeue DLQ jo".toList := by
    decide +kernel
  have middle : ¬ "not found".toList <:+: " a job with key ".toList := by decide +kernel
  have closing : ¬ "not found".toList <:+: " is already in progress".toList := by
    decide +kernel
  have number : ¬ "not found".toList <:+: ' ' :: (toString dlqId).toList := by
    intro found
    have member : 'f' ∈ ' ' :: (toString dlqId).toList := found.subset (by decide)
    rcases List.mem_cons.mp member with blank | digit
    · exact absurd blank (by decide)
    · exact not_mem_toString (by decide) (by decide) dlqId digit
  have pieces : ("Runtime error: " ++ ("Cannot requeue DLQ job " ++ toString dlqId ++
      ": a job with key '" ++ key ++ "' is already in progress")).toList =
      ("Runtime error: Cannot requeue DLQ jo".toList ++ 'b' :: (' ' :: (toString dlqId).toList ++
        ':' :: " a job with key ".toList)) ++ '\'' ::
        (key.toList ++ '\'' :: " is already in progress".toList) := by
    simp [String.toList_append]
  show contains ("Runtime error: " ++ ("Cannot requeue DLQ job " ++ toString dlqId ++
    ": a job with key '" ++ key ++ "' is already in progress")).toList "not found" = _
  rw [contains, contains, decide_eq_decide, pieces, Infix.append_cons_iff quote,
    Infix.append_cons_iff letter, Infix.append_cons_iff colon, Infix.append_cons_iff quote]
  simp only [opening, middle, closing, number, false_or, or_false]

/-- So a refused enqueue says `"not found"` where its own text does. -/
theorem mentionsNotFound_refusal (dlqId : Int) (jobKey : Option String) (e : ForeignError) :
    (requeueRefusal dlqId jobKey e).mentionsNotFound =
      contains (refusalText jobKey e).toList "not found" := by
  cases jobKey with
  | none => rfl
  | some key =>
      simp only [requeueRefusal, refusalText]
      by_cases inProgress : isRowNotFound e = true
      · simp only [inProgress, if_true]
        exact mentionsNotFound_inProgress dlqId key
      · simp only [inProgress]
        rfl

namespace Session

variable {session : Session} {dlqId : Int}

/-- The error that the lookup of a DLQ entry is answered with. -/
def lookupError (session : Session) (dlqId : Int) : Option ForeignError :=
  match (session.upcoming 0).fault (.getDlqJob dlqId), session.db.dlq with
  | some error, _ => some error
  | none, .error missing => some missing
  | none, .ok _ => none

/-- The texts of errors say `"not found"` for missing entries only: that of a lookup that fails
says so exactly if the entry is missing, and that of a refused enqueue does not. -/
structure TextsTell (session : Session) (dlqId : Int) : Prop where
  lookup : ∀ e, session.lookupError dlqId = some e →
    (contains e.display.toList "not found" = true ↔ ∀ row ∈ session.db.dlqRows, row.id ≠ dlqId)
  enqueue : session.lookupError dlqId = none → ∀ row ∈ session.db.dlqRows, row.id = dlqId →
    ∀ e, (session.upcoming 1).fault row.addStatement = some e →
      contains (refusalText row.jobKey e).toList "not found" = false

/-- What the lookup is answered with, and what it leaves. -/
theorem exec_getDlqJob (session : Session) (dlqId : Int) :
    (∃ e, session.lookupError dlqId = some e ∧
      exec (.getDlqJob dlqId) session = (.error e, session.after 1 session.db)) ∨
    ∃ table : DlqTable, session.lookupError dlqId = none ∧ session.db.dlqRows = table.rows ∧
      exec (.getDlqJob dlqId) session =
        (.ok (table.get? dlqId), session.after 1 session.db) := by
  unfold lookupError
  cases fault : (session.upcoming 0).fault (.getDlqJob dlqId) with
  | some error => exact .inl ⟨error, rfl, exec_refused fault⟩
  | none =>
      rw [exec_accepted fault]
      cases present : session.db.dlq with
      | error missing => exact .inl ⟨missing, rfl, by simp only [Statement.exec, present]⟩
      | ok table =>
          exact .inr ⟨table, rfl, Database.dlqRows_ok present, by
            simp only [Statement.exec, present]⟩

/-- An enqueue of a record is refused, or it is answered with a job. -/
theorem exec_addStatement (session : Session) (record : DlqJob) :
    (∃ e, (session.upcoming 0).fault record.addStatement = some e ∧
      (exec record.addStatement session).1 = .error e) ∨
    (session.upcoming 0).fault record.addStatement = none ∧
      ∃ job, (exec record.addStatement session).1 = .ok (some job) := by
  cases fault : (session.upcoming 0).fault record.addStatement with
  | some error => exact .inl ⟨error, rfl, congrArg Prod.fst (exec_refused fault)⟩
  | none =>
      have replaces := record.mode_newJob (session.upcoming 0).now
      obtain ⟨written, reported⟩ := @Database.addJob_reports session.db _
        (session.upcoming 0).now (by rw [replaces]; simp)
      refine .inr ⟨rfl, { written with taskIdentifier := record.taskIdentifier }, ?_⟩
      rw [exec_accepted fault]
      simp only [DlqJob.addStatement, Statement.exec, reported, Option.map_some]

/-- The handler answers that the entry is missing when the error of the requeue says so. -/
theorem run_requeue_notFound :
    (session.run (Handler.requeueDlqJob dlqId)).1 = .error .dlqJobNotFound ↔
      ∃ e, (session.run (Client.requeueDlqJob dlqId none)).1 = .error e ∧
        e.mentionsNotFound = true := by
  unfold run Handler.requeueDlqJob
  rw [Program.run_bind, Program.run_mapError]
  cases ran : ((Client.requeueDlqJob dlqId none).run exec session).1 with
  | ok job =>
      show Except.ok _ = Except.error AdminError.dlqJobNotFound ↔ _
      simp
  | error e =>
      show Except.error (requeueError e) = Except.error AdminError.dlqJobNotFound ↔ _
      by_cases missing : e.mentionsNotFound = true
      · simp [requeueError, missing]
      · simp [requeueError, missing, AdminError.dlqJobNotFound]

/-- The error a requeue ends with, if it does, mentions `"not found"`. -/
def RequeueMentions (session : Session) (dlqId : Int) : Prop :=
  ∃ e, (session.run (Client.requeueDlqJob dlqId none)).1 = .error e ∧ e.mentionsNotFound = true

theorem requeueMentions_iff {result : Except BackfillError Job}
    (ran : (session.run (Client.requeueDlqJob dlqId none)).1 = result) :
    session.RequeueMentions dlqId ↔ ∃ e, result = .error e ∧ e.mentionsNotFound = true := by
  rw [RequeueMentions, ran]

/-- A requeue of the session, by the replies it gets. -/
theorem exists_requeueRun (session : Session) (dlqId : Int) :
    ∃ result sent left, (session.run (Client.requeueDlqJob dlqId none)).1 = result ∧
      RequeueRun exec dlqId none session result sent left :=
  ⟨_, _, _, rfl, requeueRun exec dlqId none session⟩

/-- If the lookup fails, its error is that of the requeue. -/
theorem mentions_of_lookupError {e : ForeignError}
    (read : exec (.getDlqJob dlqId) session = (.error e, session.after 1 session.db)) :
    session.RequeueMentions dlqId ↔ contains e.display.toList "not found" = true := by
  obtain ⟨result, sent, left, ran, runs⟩ := exists_requeueRun session dlqId
  rw [requeueMentions_iff ran]
  cases runs with
  | unread read' =>
      obtain rfl := Except.error.inj (congrArg Prod.fst (read.symm.trans read'))
      simp [mentionsNotFound_sqlxError]
  | missing read' | refused read' | enqueued read' => cases read.symm.trans read'

/-- The error for a missing entry mentions it. -/
theorem mentions_of_missing
    (read : exec (.getDlqJob dlqId) session = (.ok none, session.after 1 session.db)) :
    session.RequeueMentions dlqId := by
  obtain ⟨result, sent, left, ran, runs⟩ := exists_requeueRun session dlqId
  rw [requeueMentions_iff ran]
  cases runs with
  | missing => exact ⟨_, rfl, mentionsNotFound_missing dlqId⟩
  | unread read' | refused read' | enqueued read' => cases read.symm.trans read'

/-- For an entry that is there, it is the text of a refused enqueue that may mention it. -/
theorem mentions_of_present {record : DlqJob}
    (read : exec (.getDlqJob dlqId) session = (.ok (some record), session.after 1 session.db)) :
    session.RequeueMentions dlqId ↔
      ∃ e, (session.upcoming 1).fault record.addStatement = some e ∧
        contains (refusalText record.jobKey e).toList "not found" = true := by
  obtain ⟨result, sent, left, ran, runs⟩ := exists_requeueRun session dlqId
  rw [requeueMentions_iff ran]
  have enqueue := exec_addStatement (session.after 1 session.db) record
  cases runs with
  | unread read' | missing read' => cases read.symm.trans read'
  | @refused record' t u e read' added =>
      obtain ⟨found, rfl⟩ := Prod.mk.inj (read.symm.trans read')
      obtain rfl := Option.some.inj (Except.ok.inj found)
      have refused : (session.upcoming 1).fault record.addStatement = some e := by
        rcases enqueue with ⟨e', refused, reply⟩ | ⟨-, job, reply⟩
        · rcases added with added | ⟨added, -⟩ <;> rw [added] at reply
          · obtain rfl := Except.error.inj reply
            exact refused
          · cases reply
        · rcases added with added | ⟨added, -⟩ <;> rw [added] at reply <;> cases reply
      simp [refused, mentionsNotFound_refusal]
  | @enqueued record' t u job read' added =>
      obtain ⟨found, rfl⟩ := Prod.mk.inj (read.symm.trans read')
      obtain rfl := Option.some.inj (Except.ok.inj found)
      have accepted : (session.upcoming 1).fault record.addStatement = none := by
        rcases enqueue with ⟨e, -, reply⟩ | ⟨accepted, -⟩
        · rw [added] at reply
          cases reply
        · exact accepted
      simp [accepted]

/-- The handler answers `404` exactly for the entries that are missing, if and only if the texts of
the errors tell these from the others. -/
theorem requeue_not_found_iff (session : Session) (dlqId : Int) :
    ((session.run (Handler.requeueDlqJob dlqId)).1 = .error .dlqJobNotFound ↔
      ∀ row ∈ session.db.dlqRows, row.id ≠ dlqId) ↔ session.TextsTell dlqId := by
  have answers : (session.run (Handler.requeueDlqJob dlqId)).1 = .error .dlqJobNotFound ↔
    session.RequeueMentions dlqId := run_requeue_notFound
  rw [answers]
  rcases exec_getDlqJob session dlqId with ⟨e, fails, read⟩ | ⟨table, answered, rows, read⟩
  · rw [mentions_of_lookupError read]
    constructor
    · intro tells
      refine ⟨fun e' fails' => ?_, fun answered => ?_⟩
      · obtain rfl := Option.some.inj (fails.symm.trans fails')
        exact tells
      · simp [fails] at answered
    · exact fun texts => texts.lookup e fails
  · have noLookupError : ∀ e, session.lookupError dlqId ≠ some e := by simp [answered]
    cases found : table.get? dlqId with
    | none =>
        have absent := SerialTable.get?_eq_none.mp found
        rw [← rows] at absent
        refine iff_of_true (iff_of_true (mentions_of_missing (found ▸ read)) absent) ⟨?_, ?_⟩
        · exact fun e fails => absurd fails (noLookupError e)
        · exact fun _ row member same => absurd same (absent row member)
    | some record =>
        obtain ⟨among, same⟩ := SerialTable.get?_eq_some.mp found
        have present : ¬ ∀ row ∈ session.db.dlqRows, row.id ≠ dlqId :=
          fun absent => absent record (rows ▸ among) same
        rw [mentions_of_present (found ▸ read), iff_false_right present]
        constructor
        · intro quiet
          refine ⟨fun e fails => absurd fails (noLookupError e), ?_⟩
          intro _ row member same' e refused
          obtain rfl := table.eq_of_id_eq (rows ▸ member) among (same'.trans same.symm)
          exact Bool.eq_false_iff.mpr fun mentions => quiet ⟨e, refused, mentions⟩
        · rintro texts ⟨e, refused, mentions⟩
          have quiet := texts.enqueue answered record (rows ▸ among) same e refused
          simp [quiet] at mentions

/-- The record of a failed job with the key `"page not found"`, in a session whose enqueues are
answered without a row, as in the rare race in which a job with the key is just being locked. -/
def pageInProgress : Session where
  db :=
    let db := (Database.fresh.addJob 0 { singleAttempt with key := some "page not found" }).2
    let failed := { db with jobs := db.jobs.update (fun _ => true) (JobRow.shortCircuit "boom" 0) }
    ((undisturbed 0 failed).run Client.processFailedJobs).2.db
  upcoming _ :=
    { now := 0
      fault := fun
        | .addJob _ _ _ => some rowNotFound
        | _ => none }

/-- The requeue of that record is refused as if a job with its key were in progress, and the handler
answers that there is no record. -/
theorem inProgress_answered_notFound :
    (pageInProgress.run (Handler.requeueDlqJob 1)).1 = .error .dlqJobNotFound ∧
      ∃ row ∈ pageInProgress.db.dlqRows, row.id = 1 := by
  refine ⟨run_requeue_notFound.mpr ⟨_, rfl, ?_⟩, _, .head _, rfl⟩
  exact (mentionsNotFound_inProgress 1 "page not found").trans (by decide +kernel)

end Session

end Backfill
