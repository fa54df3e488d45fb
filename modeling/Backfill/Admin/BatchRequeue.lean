import Backfill.Admin.Dlq
import Backfill.Client.JobRows
import Backfill.Client.RequeueRun
import Backfill.Client.RoundTrip

/-!
# What a batch requeue reports (`admin.rs:909`)

The handler lists a page and requeues its entries one after another. Others write in between, so an
entry may be gone when its turn comes, and each statement may be refused.
-/

namespace Backfill

/-- A session whose database others write to: `others n` is what they do before the statement that
is sent behind `n` more. -/
structure SharedSession where
  db : Database
  upcoming : Nat → Tick
  others : Nat → Database → Database

namespace SharedSession

/-- The database as the next statement finds it. -/
def found (session : SharedSession) : Database := session.others 0 session.db

/-- Send one statement. -/
def exec (s : Statement) (session : SharedSession) : Statement.Reply s × SharedSession :=
  let tick := session.upcoming 0
  let answer := s.answer tick.now (tick.fault s) session.found
  (answer.1,
    { db := answer.2
      upcoming := fun n => session.upcoming (n + 1)
      others := fun n => session.others (n + 1) })

/-- Run a routine while others write. -/
def run {ε α : Type} (session : SharedSession)
    (routine : Program Statement Statement.Reply ε α) : Except ε α × SharedSession :=
  routine.run exec session

/-- The statements a routine sends, each with the session it meets. -/
def sent {ε α : Type} (session : SharedSession)
    (routine : Program Statement Statement.Reply ε α) : List (Statement × SharedSession) :=
  routine.visits exec session

/-- A statement leaves the DLQ entry `dlqId` as it finds it. -/
def LeavesEntry (dlqId : Int) (visit : Statement × SharedSession) : Prop :=
  ∀ row, row.id = dlqId →
    (row ∈ (exec visit.1 visit.2).2.db.dlqRows ↔ row ∈ visit.2.found.dlqRows)

end SharedSession

namespace SharedSession

variable {session : SharedSession} {dlqId : Int} {notes : Option String}

/-- What a statement leaves when it is answered and when it is refused. -/
theorem db_exec (s : Statement) (session : SharedSession) :
    (exec s session).2.db = session.found ∨
      (exec s session).2.db = (s.exec (session.upcoming 0).now session.found).2 := by
  cases fault : (session.upcoming 0).fault s with
  | some error => exact .inl (by simp only [exec, fault, Statement.answer_fault])
  | none => exact .inr (by simp only [exec, fault, Statement.answer_none])

/-- A statement that does not write the DLQ leaves every entry. -/
theorem leavesEntry_of_leavesDlq {s : Statement} (leaves : s.LeavesDlq = true) :
    LeavesEntry dlqId (s, session) := by
  intro row _
  rcases db_exec s session with same | same
  · rw [same]
  · have dlq := @Statement.dlq_exec s (session.upcoming 0).now session.found leaves
    simp only [same, Database.dlqRows, dlq]

/-- The bookkeeping of a requeue leaves the other entries. -/
theorem leavesEntry_recordRequeue {other : Int} (differ : other ≠ dlqId) :
    LeavesEntry dlqId (.recordRequeue notes other, session) := by
  intro row same
  rcases db_exec (.recordRequeue notes other) session with kept | written
  · rw [kept]
  · rw [written]
    cases present : session.found.dlq with
    | error missing => simp only [Statement.exec, present]
    | ok table =>
        simp only [Statement.exec, present, Database.dlqRows]
        rw [SerialTable.mem_update]
        constructor
        · rintro ⟨old, member, rfl⟩
          by_cases hit : old.id = other
          · rw [if_pos (decide_eq_true hit)] at same
            have kept : old.id = dlqId := same
            exact absurd (hit.symm.trans kept) differ
          · rwa [if_neg (by simp [hit])]
        · intro member
          exact ⟨row, member, by rw [if_neg (by simp [same, differ.symm])]⟩

end SharedSession

/-- One entry's turn in a batch. -/
structure RequeueTurn where
  dlqJob : DlqJob
  session : SharedSession

namespace RequeueTurn

variable {notes : Option String} {turn : RequeueTurn} {dlqId : Int}

/-- The statements of the turn. -/
def sent (notes : Option String) (turn : RequeueTurn) : List (Statement × SharedSession) :=
  turn.session.sent (Client.requeueDlqJob turn.dlqJob.id notes)

/-- A job was enqueued in the turn. -/
def enqueues (notes : Option String) (turn : RequeueTurn) : Bool :=
  (turn.sent notes).any fun visit => visit.1.addsJob (SharedSession.exec visit.1 visit.2).1

/-- The turn, by the replies it gets. -/
theorem exists_run (notes : Option String) (turn : RequeueTurn) : ∃ result sent left,
    (turn.session.run (Client.requeueDlqJob turn.dlqJob.id notes)).1 = result ∧
      turn.sent notes = sent ∧
        RequeueRun SharedSession.exec turn.dlqJob.id notes turn.session result sent left :=
  ⟨_, _, _, rfl, rfl, requeueRun SharedSession.exec turn.dlqJob.id notes turn.session⟩

/-- A turn ends well exactly when it has enqueued a job. -/
theorem enqueues_iff (notes : Option String) (turn : RequeueTurn) : turn.enqueues notes = true ↔
    ∃ job, (turn.session.run (Client.requeueDlqJob turn.dlqJob.id notes)).1 = .ok job := by
  obtain ⟨result, sent, left, ran, sends, runs⟩ := turn.exists_run notes
  rw [ran, enqueues, sends]
  cases runs with
  | unread read => simp
  | missing read => simp
  | refused read added =>
      rcases added with added | ⟨added, -⟩
      · simp [added]
      · simp [added]
  | enqueued read added => simp [added]

/-- It writes to the DLQ only after that, and to its own entry. -/
theorem visit_cases {visit : Statement × SharedSession} (sends : visit ∈ turn.sent notes) :
    visit.1.LeavesDlq = true ∨
      turn.enqueues notes = true ∧ visit.1 = .recordRequeue notes turn.dlqJob.id := by
  obtain ⟨result, sent, left, ran, sent_eq, runs⟩ := turn.exists_run notes
  rw [enqueues_iff, ran]
  rw [sent_eq] at sends
  cases runs with
  | unread read | missing read =>
      obtain rfl := List.mem_singleton.mp sends
      exact .inl rfl
  | refused read added =>
      rcases sends with _ | ⟨_, _ | ⟨_, nothing⟩⟩
      · exact .inl rfl
      · exact .inl rfl
      · cases nothing
  | enqueued read added =>
      rcases sends with _ | ⟨_, _ | ⟨_, _ | ⟨_, nothing⟩⟩⟩
      · exact .inl rfl
      · exact .inl rfl
      · exact .inr ⟨⟨_, rfl⟩, rfl⟩
      · cases nothing

/-- So a turn leaves the other entries, and its own too unless it enqueues a job. -/
theorem leavesEntry {visit : Statement × SharedSession} (sends : visit ∈ turn.sent notes)
    (spared : turn.dlqJob.id = dlqId → turn.enqueues notes = false) :
    SharedSession.LeavesEntry dlqId visit := by
  obtain ⟨statement, session⟩ := visit
  rcases visit_cases sends with leaves | ⟨enqueues, rfl⟩
  · exact SharedSession.leavesEntry_of_leavesDlq leaves
  · refine SharedSession.leavesEntry_recordRequeue fun same => ?_
    rw [spared same] at enqueues
    cases enqueues

end RequeueTurn

/-- The turns of the listed entries, from the session in which the first one starts. -/
def requeueTurns (notes : Option String) : List DlqJob → SharedSession → List RequeueTurn
  | [], _ => []
  | job :: jobs, session =>
      ⟨job, session⟩ ::
        requeueTurns notes jobs (session.run (Client.requeueDlqJob job.id notes)).2

/-- Every entry has one turn, in the order of the list. -/
theorem map_dlqJob_requeueTurns (notes : Option String) (jobs : List DlqJob)
    (session : SharedSession) :
    (requeueTurns notes jobs session).map RequeueTurn.dlqJob = jobs := by
  induction jobs generalizing session with
  | nil => rfl
  | cons job jobs ih => exact congrArg (List.cons job) (ih _)

namespace Handler.Requeued

variable {notes : Option String} {turn : RequeueTurn} {turns : List RequeueTurn}
  {requeued final : Requeued}

/-- The response to a batch whose loop has ended. -/
def response (final : Requeued) : DlqBatchRequeueResponse :=
  ⟨final.requeuedCount, final.failedCount, false, final.affectedTasks, final.errors⟩

/-- The loop has come from `requeued` to `final` in these turns. -/
structure Counts (notes : Option String) (turns : List RequeueTurn)
    (requeued final : Requeued) : Prop where
  requeuedCount : final.requeuedCount =
    requeued.requeuedCount + .ofNat (turns.countP (RequeueTurn.enqueues notes))
  failedCount : final.failedCount =
    requeued.failedCount + .ofNat (turns.countP fun turn => !turn.enqueues notes)
  errors : final.errors.map BatchOperationError.dlqId =
    requeued.errors.map BatchOperationError.dlqId ++
      (turns.filter fun turn => !turn.enqueues notes).map fun turn => turn.dlqJob.id
  affectedTasks : final.affectedTasks = requeued.affectedTasks ∪
    taskIdentifiers ((turns.filter (RequeueTurn.enqueues notes)).map RequeueTurn.dlqJob)

theorem counts_nil (notes : Option String) (requeued : Requeued) :
    requeued.Counts notes [] requeued where
  requeuedCount := (UInt32.add_zero _).symm
  failedCount := (UInt32.add_zero _).symm
  errors := (List.append_nil _).symm
  affectedTasks := (Finset.union_empty _).symm

/-- A turn that enqueues a job, and the turns behind it. -/
theorem Counts.enqueued (enqueues : turn.enqueues notes = true)
    (rest : Counts notes turns { requeued with
      requeuedCount := requeued.requeuedCount + 1
      affectedTasks := insert turn.dlqJob.taskIdentifier requeued.affectedTasks } final) :
    requeued.Counts notes (turn :: turns) final where
  requeuedCount := by
    rw [rest.requeuedCount, List.countP_cons_of_pos enqueues, counted_cons]
  failedCount := by
    rw [rest.failedCount, List.countP_cons_of_neg (by simp [enqueues])]
  errors := by
    rw [rest.errors, List.filter_cons_of_neg (by simp [enqueues])]
  affectedTasks := by
    rw [rest.affectedTasks, List.filter_cons_of_pos enqueues, List.map_cons, tasks_cons]

/-- A turn that does not. -/
theorem Counts.failed {text : String} (fails : turn.enqueues notes = false)
    (rest : Counts notes turns { requeued with
      failedCount := requeued.failedCount + 1
      errors := requeued.errors ++ [⟨turn.dlqJob.id, turn.dlqJob.taskIdentifier, text⟩] } final) :
    requeued.Counts notes (turn :: turns) final where
  requeuedCount := by
    rw [rest.requeuedCount, List.countP_cons_of_neg (by simp [fails])]
  failedCount := by
    rw [rest.failedCount, List.countP_cons_of_pos (by simp [fails]), counted_cons]
  errors := by
    rw [rest.errors, List.filter_cons_of_pos (by simp [fails]), List.map_append, List.append_assoc]
    rfl
  affectedTasks := by
    rw [rest.affectedTasks, List.filter_cons_of_neg (by simp [fails])]

end Handler.Requeued

namespace SharedSession

variable {session : SharedSession} {notes : Option String}

/-- The loop counts every turn once, and sends what the turns send. -/
theorem run_requeueJobs (jobs : List DlqJob) (session : SharedSession)
    (requeued : Handler.Requeued) :
    session.sent (Handler.requeueJobs notes jobs requeued) =
        (requeueTurns notes jobs session).flatMap (RequeueTurn.sent notes) ∧
      ∃ final, (session.run (Handler.requeueJobs notes jobs requeued)).1 = .ok final ∧
        requeued.Counts notes (requeueTurns notes jobs session) final := by
  induction jobs generalizing session requeued with
  | nil => exact ⟨rfl, requeued, rfl, Handler.Requeued.counts_nil notes requeued⟩
  | cons job jobs ih =>
      have enqueues := RequeueTurn.enqueues_iff notes ⟨job, session⟩
      have attempted : ((Client.requeueDlqJob job.id notes).attempt :
          Handler (Except BackfillError Job)).run exec session = _ := Program.run_attempt ..
      have performed : ((Client.requeueDlqJob job.id notes).attempt :
          Handler (Except BackfillError Job)).visits exec session = _ := Program.visits_attempt ..
      unfold sent run
      rw [Handler.requeueJobs, Program.visits_bind_ok exec (congrArg Prod.fst attempted),
        Program.run_bind_ok exec (congrArg Prod.fst attempted), attempted, performed]
      cases ran : ((Client.requeueDlqJob job.id notes).run exec session).1 with
      | ok added =>
          obtain ⟨sends, final, ended, counts⟩ :=
            ih (session.run (Client.requeueDlqJob job.id notes)).2 { requeued with
              requeuedCount := requeued.requeuedCount + 1
              affectedTasks := insert job.taskIdentifier requeued.affectedTasks }
          exact ⟨congrArg _ sends, final, ended, counts.enqueued (enqueues.mpr ⟨added, ran⟩)⟩
      | error e =>
          have fails : RequeueTurn.enqueues notes ⟨job, session⟩ = false := by
            rw [Bool.eq_false_iff, Ne, enqueues]
            rintro ⟨added, ok⟩
            cases ran.symm.trans ok
          obtain ⟨sends, final, ended, counts⟩ :=
            ih (session.run (Client.requeueDlqJob job.id notes)).2 { requeued with
              failedCount := requeued.failedCount + 1
              errors := requeued.errors ++ [⟨job.id, job.taskIdentifier, e.display⟩] }
          exact ⟨congrArg _ sends, final, ended, counts.failed fails⟩

/-- A query that ends well is answered. -/
theorem exec_of_run_query {s : Statement} {rows : s.Rows}
    (ran : (session.run (Client.query s)).1 = .ok rows) : (exec s session).1 = .ok rows := by
  simp only [run, Client.query, Program.run_call] at ran
  cases reply : (exec s session).1 with
  | error e =>
      rw [reply] at ran
      cases ran
  | ok answered =>
      rw [reply] at ran
      obtain rfl := Except.ok.inj ran
      rfl

/-- The rows that are listed are a page of the table. -/
theorem exec_listDlqJobs {filter : DlqFilter} {jobs : List DlqJob}
    (answered : (exec (.listDlqJobs filter) session).1 = .ok jobs) :
    ∃ table : DlqTable, jobs = filter.page table.rows := by
  simp only [exec] at answered
  cases fault : (session.upcoming 0).fault (.listDlqJobs filter) with
  | some error =>
      rw [fault, Statement.answer_fault] at answered
      cases answered
  | none =>
      rw [fault, Statement.answer_none] at answered
      obtain ⟨table, -, page, -⟩ := Statement.listDlqJobs_ok (Prod.ext answered rfl)
      exact ⟨table, page⟩

/-- So a batch is about a page of the table. -/
theorem page_of_run_queryDlq {filter : DlqFilter} {jobs : List DlqJob}
    (ran : (session.run (Handler.queryDlq filter)).1 = .ok jobs) :
    ∃ table : DlqTable, jobs = filter.page table.rows := by
  obtain ⟨page, listed, same⟩ := Program.ok_of_run_bind exec ran
  obtain ⟨rows, queried, counted⟩ :=
    Program.ok_of_run_bind exec ((Program.run_mapError_eq_ok exec).mp listed)
  obtain ⟨total, -, ended⟩ := Program.ok_of_run_bind exec counted
  obtain rfl := Except.ok.inj ended
  obtain rfl := Except.ok.inj same
  exact exec_listDlqJobs (exec_of_run_query queried)

/-- Listing a page leaves the DLQ. -/
theorem calls_queryDlq (filter : DlqFilter) :
    (Handler.queryDlq filter).Calls fun s => s.LeavesDlq = true := by
  have reads : ∀ s : Statement, s.LeavesDlq = true →
      (Client.query s).Calls fun s => s.LeavesDlq = true :=
    fun _ leaves => Client.calls_query (I := fun s => s.LeavesDlq = true) leaves
  have listed : (Client.listDlqJobs filter).Calls fun s => s.LeavesDlq = true :=
    (reads _ rfl).bind fun _ => (reads _ rfl).bind fun _ => Program.calls_done _
  exact listed.mapError.bind fun _ => Program.calls_done _

/-- The turns of a batch in which these entries have been listed. -/
def turns (session : SharedSession) (req : DlqBatchRequeueRequest) (listed : List DlqJob) :
    List RequeueTurn :=
  requeueTurns req.notes listed (session.run (Handler.queryDlq req.filter)).2

/-- What the response to a batch says of the entries that have been listed. -/
structure Accounts (session : SharedSession) (req : DlqBatchRequeueRequest)
    (listed : List DlqJob) (response : DlqBatchRequeueResponse) : Prop where
  /-- every entry has one turn, and nothing else is sent behind the listing -/
  distinct : (listed.map DlqJob.id).Nodup
  once : (session.turns req listed).map RequeueTurn.dlqJob = listed
  sent : session.sent (Handler.batchRequeueDlqJobs req) =
    session.sent (Handler.queryDlq req.filter) ++
      (session.turns req listed).flatMap (RequeueTurn.sent req.notes)
  requeuedCount : response.requeuedCount.toNat =
    (session.turns req listed).countP (RequeueTurn.enqueues req.notes)
  failedCount : response.failedCount.toNat =
    (session.turns req listed).countP fun turn => !turn.enqueues req.notes
  errors : response.errors.map BatchOperationError.dlqId =
    ((session.turns req listed).filter fun turn => !turn.enqueues req.notes).map fun turn =>
      turn.dlqJob.id
  affectedTasks : response.affectedTasks = taskIdentifiers
    (((session.turns req listed).filter (RequeueTurn.enqueues req.notes)).map RequeueTurn.dlqJob)
  /-- an entry for which no job was enqueued is left as it is by all that is sent -/
  unchanged : ∀ turn ∈ session.turns req listed, turn.enqueues req.notes = false →
    ∀ visit ∈ session.sent (Handler.batchRequeueDlqJobs req), LeavesEntry turn.dlqJob.id visit

/-- The ids of a page are distinct. -/
theorem nodup_page (filter : DlqFilter) (table : DlqTable) :
    ((filter.page table.rows).map DlqJob.id).Nodup := by
  obtain ⟨among, distinct⟩ := page_of_table filter table
  refine distinct.map_on fun a memberA b memberB same => ?_
  exact table.eq_of_id_eq (among a memberA) (among b memberB) same

/-- A page is at most a thousand rows long. -/
theorem length_page_le (req : DlqBatchRequeueRequest) (rows : List DlqJob) :
    (req.filter.page rows).length ≤ 1000 := by
  refine (List.length_take_le ..).trans ?_
  show (min (req.maxJobs.getD 100) 1000).toNat ≤ 1000
  omega

/-- A count of some of the turns is not too large for 32 bits. -/
theorem toNat_countP {turns : List RequeueTurn} (short : turns.length ≤ 1000)
    (p : RequeueTurn → Bool) : (0 + UInt32.ofNat (turns.countP p)).toNat = turns.countP p := by
  have few : turns.countP p ≤ turns.length := List.countP_le_length
  rw [UInt32.zero_add, UInt32.toNat_ofNat']
  omega

/-- A batch whose entries are listed goes through the loop and responds. -/
theorem run_batchRequeueDlqJobs {req : DlqBatchRequeueRequest} {listed : List DlqJob}
    (real : req.dryRun.getD false = false)
    (listing : (session.run (Handler.queryDlq req.filter)).1 = .ok listed) :
    session.sent (Handler.batchRequeueDlqJobs req) =
        session.sent (Handler.queryDlq req.filter) ++
          (session.turns req listed).flatMap (RequeueTurn.sent req.notes) ∧
      ∃ final, (session.run (Handler.batchRequeueDlqJobs req)).1 = .ok final.response ∧
        (⟨0, 0, [], ∅⟩ : Handler.Requeued).Counts req.notes (session.turns req listed) final := by
  obtain ⟨sends, final, ended, counts⟩ := @run_requeueJobs req.notes listed
    (session.run (Handler.queryDlq req.filter)).2 ⟨0, 0, [], ∅⟩
  have goesOn : Handler.batchRequeueDlqJobs req = Handler.queryDlq req.filter >>= fun jobs =>
      Handler.requeueJobs req.notes jobs ⟨0, 0, [], ∅⟩ >>= fun requeued =>
        pure requeued.response := by
    simp only [Handler.batchRequeueDlqJobs, real, Bool.false_eq_true, if_false]
    rfl
  have responds := Program.run_bind_ok exec
    (f := fun requeued => (pure requeued.response : Handler DlqBatchRequeueResponse)) ended
  have performs := Program.visits_bind_ok exec
    (f := fun requeued => (pure requeued.response : Handler DlqBatchRequeueResponse)) ended
  rw [Program.pure_eq, Program.visits_done, List.append_nil] at performs
  unfold sent run at *
  rw [goesOn, Program.visits_bind_ok exec listing, Program.run_bind_ok exec listing]
  exact ⟨congrArg _ (performs.trans sends), final, congrArg Prod.fst responds, counts⟩

/-- A batch requeue either cannot list the entries, or it accounts for each of them, whatever others
do meanwhile and whatever is refused. -/
theorem batchRequeue_accounts (session : SharedSession) (req : DlqBatchRequeueRequest)
    (real : req.dryRun.getD false = false) :
    (∃ error, (session.run (Handler.queryDlq req.filter)).1 = .error error ∧
      (session.run (Handler.batchRequeueDlqJobs req)).1 = .error error) ∨
    ∃ listed response, (session.run (Handler.queryDlq req.filter)).1 = .ok listed ∧
      (session.run (Handler.batchRequeueDlqJobs req)).1 = .ok response ∧
      session.Accounts req listed response := by
  cases listing : (session.run (Handler.queryDlq req.filter)).1 with
  | error error =>
      exact .inl ⟨error, rfl, congrArg Prod.fst (Program.run_bind_error exec listing)⟩
  | ok listed =>
      obtain ⟨performs, final, responds, counts⟩ := run_batchRequeueDlqJobs real listing
      obtain ⟨table, rfl⟩ := page_of_run_queryDlq listing
      refine .inr ⟨_, _, rfl, responds, ?_⟩
      have short : (session.turns req (req.filter.page table.rows)).length ≤ 1000 := by
        rw [← List.length_map RequeueTurn.dlqJob, turns, map_dlqJob_requeueTurns]
        exact length_page_le req table.rows
      have once := map_dlqJob_requeueTurns req.notes (req.filter.page table.rows)
        (session.run (Handler.queryDlq req.filter)).2
      have distinct := nodup_page req.filter table
      refine ⟨distinct, once, performs, ?_, ?_, counts.errors, ?_, ?_⟩
      · show final.requeuedCount.toNat = _
        rw [counts.requeuedCount]
        exact toNat_countP short _
      · show final.failedCount.toNat = _
        rw [counts.failedCount]
        exact toNat_countP short _
      · show final.affectedTasks = _
        rw [counts.affectedTasks, Finset.empty_union]
      · intro turn among fails visit sends
        rw [performs, List.mem_append, List.mem_flatMap] at sends
        rcases sends with lists | ⟨turn', among', sends⟩
        · exact leavesEntry_of_leavesDlq ((calls_queryDlq req.filter).visits exec lists)
        · refine RequeueTurn.leavesEntry sends fun same => ?_
          rw [← once, List.map_map] at distinct
          obtain rfl := List.inj_on_of_nodup_map distinct among' among same
          exact fails

/-- The invoice is in the DLQ, and nothing can be recorded there. -/
def unrecordedInvoice : SharedSession where
  db := (Session.movedInvoice "invoices").db
  upcoming _ :=
    { now := 0
      fault := fun
        | .recordRequeue _ _ => some rowNotFound
        | _ => none }
  others _ db := db

/-- A batch with no filter. -/
def everyDlqJob : DlqBatchRequeueRequest := ⟨none, none, none, none, none, none, none⟩

/-- The invoice counts as requeued all the same. -/
theorem batchRequeue_accounts_unrecorded : ∃ response,
    (unrecordedInvoice.run (Handler.batchRequeueDlqJobs everyDlqJob)).1 = .ok response ∧
      response.requeuedCount.toNat = 1 ∧ response.failedCount.toNat = 0 := by
  have lists : (unrecordedInvoice.run (Handler.queryDlq everyDlqJob.filter)).1 = .ok _ := rfl
  rcases batchRequeue_accounts unrecordedInvoice everyDlqJob rfl with
    ⟨error, refused, -⟩ | ⟨listed, response, listing, ran, accounts⟩
  · cases lists.symm.trans refused
  · obtain rfl := Except.ok.inj (lists.symm.trans listing)
    exact ⟨response, ran, accounts.requeuedCount, accounts.failedCount⟩

end SharedSession

end Backfill
