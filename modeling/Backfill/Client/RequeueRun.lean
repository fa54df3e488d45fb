import Backfill.Client.Requeue

/-!
# One requeue, by the replies it gets (`client/dlq.rs:339`)

What a requeue ends with and which statements it sends is decided by the replies to its first two
statements, whoever answers them. The three endings of `RequeueRun` are all there are.
-/

namespace Backfill

/-- What a requeue makes of an enqueue that was answered with an error. -/
def requeueRefusal (dlqId : Int) (jobKey : Option String) (e : ForeignError) : BackfillError :=
  match jobKey with
  | some key =>
      if isRowNotFound e then
        .runtimeError ("Cannot requeue DLQ job " ++ toString dlqId ++ ": a job with key '" ++ key
          ++ "' is already in progress")
      else .graphileWorker e
  | none => .graphileWorker e

/-- The enqueue of the record. -/
def DlqJob.addStatement (record : DlqJob) : Statement :=
  .addJob record.taskIdentifier record.payload record.toSpec.toGraphile

/-- The statement is an enqueue that was answered with a job. -/
def Statement.addsJob : (s : Statement) → Statement.Reply s → Bool
  | .addJob _ _ _, .ok added => Option.isSome added
  | _, _ => false

@[simp] theorem Statement.addsJob_getDlqJob (dlqId : Int) (reply : Reply (.getDlqJob dlqId)) :
    (Statement.getDlqJob dlqId).addsJob reply = false := rfl

@[simp] theorem Statement.addsJob_recordRequeue (notes : Option String) (dlqId : Int)
    (reply : Reply (.recordRequeue notes dlqId)) :
    (Statement.recordRequeue notes dlqId).addsJob reply = false := rfl

@[simp] theorem DlqJob.addsJob_error (record : DlqJob) (e : ForeignError) :
    record.addStatement.addsJob (.error e) = false := rfl

@[simp] theorem DlqJob.addsJob_ok (record : DlqJob) (added : Option Job) :
    record.addStatement.addsJob (.ok added) = added.isSome := rfl

section

variable {σ : Type} (exec : (s : Statement) → σ → Statement.Reply s × σ)

/-- How a requeue runs from the state `s`: its result, the statements it sends with the states they
meet, and the state it leaves. -/
inductive RequeueRun (dlqId : Int) (notes : Option String) (s : σ) :
    Except BackfillError Job → List (Statement × σ) → σ → Prop
  /-- the record is not read -/
  | unread {e : ForeignError} {t : σ} (read : exec (.getDlqJob dlqId) s = (.error e, t)) :
      RequeueRun dlqId notes s (.error (.sqlxError e)) [(.getDlqJob dlqId, s)] t
  /-- there is no record -/
  | missing {t : σ} (read : exec (.getDlqJob dlqId) s = (.ok none, t)) :
      RequeueRun dlqId notes s (.error (.dlqJobNotFound dlqId)) [(.getDlqJob dlqId, s)] t
  /-- the enqueue is answered with an error, or without a job -/
  | refused {record : DlqJob} {t u : σ} {e : ForeignError}
      (read : exec (.getDlqJob dlqId) s = (.ok (some record), t))
      (added : exec record.addStatement t = (.error e, u) ∨
        exec record.addStatement t = (.ok none, u) ∧ e = rowNotFound) :
      RequeueRun dlqId notes s (.error (requeueRefusal dlqId record.jobKey e))
        [(.getDlqJob dlqId, s), (record.addStatement, t)] u
  /-- the job is enqueued, and counted if the database lets it -/
  | enqueued {record : DlqJob} {t u : σ} {job : Job}
      (read : exec (.getDlqJob dlqId) s = (.ok (some record), t))
      (added : exec record.addStatement t = (.ok (some job), u)) :
      RequeueRun dlqId notes s (.ok job)
        [(.getDlqJob dlqId, s), (record.addStatement, t), (.recordRequeue notes dlqId, u)]
        (exec (.recordRequeue notes dlqId) u).2

/-- An enqueue that was answered with an error ends the requeue. -/
theorem run_refused (dlqId : Int) (notes jobKey : Option String) (e : ForeignError) (s : σ) :
    (Client.enqueueOutcome jobKey (.error e) >>= Client.recordRequeue dlqId notes).run exec s =
        (.error (requeueRefusal dlqId jobKey e), s) ∧
      (Client.enqueueOutcome jobKey (.error e) >>= Client.recordRequeue dlqId notes).visits exec s =
        [] := by
  cases jobKey with
  | none => exact ⟨rfl, rfl⟩
  | some key =>
      simp only [Client.enqueueOutcome, requeueRefusal]
      by_cases gone : isRowNotFound e = true
      · simp only [gone, if_true]
        exact ⟨rfl, rfl⟩
      · simp only [gone]
        exact ⟨rfl, rfl⟩

/-- Every requeue runs in one of these ways. -/
theorem requeueRun (dlqId : Int) (notes : Option String) (s : σ) :
    RequeueRun exec dlqId notes s ((Client.requeueDlqJob dlqId notes).run exec s).1
      ((Client.requeueDlqJob dlqId notes).visits exec s)
      ((Client.requeueDlqJob dlqId notes).run exec s).2 := by
  simp only [Client.requeueDlqJob, Client.getDlqJob, Client.query, Program.bind_call,
    Program.run_call, Program.visits_call]
  rcases read : exec (.getDlqJob dlqId) s with ⟨reply, t⟩
  cases reply with
  | error e => exact .unread read
  | ok found =>
      cases found with
      | none => exact .missing read
      | some record =>
          simp only [Program.bind_done, Client.requeue, Client.enqueue, Client.addRawJob,
            Program.bind_call, Program.run_call, Program.visits_call, Program.bind_assoc]
          rcases added : exec record.addStatement t with ⟨reply', u⟩
          have reply : exec (.addJob record.taskIdentifier record.payload
              record.toSpec.toGraphile) t = (reply', u) := added
          have key : record.toSpec.jobKey = record.jobKey := rfl
          rw [reply, key]
          cases reply' with
          | error e =>
              obtain ⟨ran, sent⟩ := run_refused exec dlqId notes record.jobKey e u
              simp only [Program.bind_done, ran, sent]
              exact .refused read (.inl added)
          | ok outcome =>
              cases outcome with
              | none =>
                  obtain ⟨ran, sent⟩ := run_refused exec dlqId notes record.jobKey rowNotFound u
                  simp only [Program.bind_done, ran, sent]
                  exact .refused read (.inr ⟨added, rfl⟩)
              | some job => exact .enqueued read added

end

end Backfill
