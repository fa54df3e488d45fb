import Backfill.Admin.DlqCleanup
import Backfill.Admin.DlqEntry
import Backfill.Misc.ListFacts

/-!
# Requests that delete many entries (`admin.rs:838`, `admin.rs:1000`)

`POST /dlq/cleanup` and `POST /dlq/batch-delete` list a page and delete its entries one by one. Any
number of them may be under way at once, next to everything else that works on the database. An
entry that several of them have listed is deleted by one at most, and that one reports it.
-/

namespace Backfill

/-- A request to delete the entries of a page. -/
inductive DlqDeletionRequest
  | batchDelete (req : DlqBatchDeleteRequest)
  | cleanup (req : DlqCleanupRequest) (cutoffDate : Timestamp)

/-- What both of them report. -/
structure DlqDeletionReport where
  deletedCount : UInt32
  dryRun : Bool
  affectedTasks : Finset String

namespace DlqDeletionRequest

def filter : DlqDeletionRequest → DlqFilter
  | batchDelete req => req.filter
  | cleanup req cutoffDate => req.filter cutoffDate

def dryRun : DlqDeletionRequest → Bool
  | batchDelete req => req.dryRun.getD false
  | cleanup req _ => req.dryRun.getD false

/-- The handler of a request. -/
def handler : DlqDeletionRequest → Handler DlqDeletionReport
  | batchDelete req => do
      let response ← Handler.batchDeleteDlqJobs req
      pure ⟨response.deletedCount, response.dryRun, response.affectedTasks⟩
  | cleanup req cutoffDate => do
      let response ← Handler.cleanupDlqBefore req cutoffDate
      pure ⟨response.deletedCount, response.dryRun, response.affectedTasks⟩

/-- The request is about an entry of this task and this queue. -/
def Asks (request : DlqDeletionRequest) (row : DlqJob) : Prop :=
  (∀ task, request.filter.taskIdentifier = some task → row.taskIdentifier = task) ∧
    ∀ queue, request.filter.queueName = some queue → row.queueName = queue

end DlqDeletionRequest

/-- A request that is being served. -/
structure DlqDeletion where
  request : DlqDeletionRequest
  routine : Handler DlqDeletionReport
  /-- The rows its deletes have removed, as they were then. -/
  deleted : List DlqJob

/-- What has been reported is what was done. A request that fails has deleted nothing. -/
def DlqDeletion.Accounted (c : DlqDeletion) : Prop :=
  match c.routine with
  | .done report =>
      report.dryRun = c.request.dryRun ∧
        if report.dryRun then c.deleted = []
        else report.deletedCount.toNat = c.deleted.length ∧
          report.affectedTasks = taskIdentifiers c.deleted
  | .fail _ => c.deleted = []
  | .call _ _ => True

/-- A journal, and the requests that are served next to it. -/
structure DlqDeletions where
  journal : Journal
  calls : List DlqDeletion

inductive DlqDeletionAction
  /-- a step of the journal -/
  | base (a : JournalAction)
  /-- somebody requests a deletion -/
  | call (request : DlqDeletionRequest)
  /-- the handler of call `i` sends its next statement -/
  | send (i : Nat) (fault : Option ForeignError)

namespace DlqDeletions

def initial (now : Timestamp) (db : Database) : DlqDeletions where
  journal := .initial now db
  calls := []

/-- The handler of call `i` sends its next statement. -/
def send (s : DlqDeletions) (i : Nat) (fault : Option ForeignError) : Option DlqDeletions :=
  match s.calls[i]? with
  | some ⟨request, .call op next, deleted⟩ =>
      let reply := (op.answer s.journal.cluster.now fault s.journal.db).1
      some
        { journal := { s.journal with cluster := s.journal.answered op fault }
          calls := s.calls.set i
            ⟨request, next reply, deleted ++ op.deletedRows fault s.journal.db⟩ }
  | _ => none

/-- One step; `none` when the action is not possible. -/
def step (tables : CharTables) (s : DlqDeletions) : DlqDeletionAction → Option DlqDeletions
  | .base a => (s.journal.step tables a).map fun journal => { s with journal := journal }
  | .call request => some { s with calls := s.calls ++ [⟨request, request.handler, []⟩] }
  | .send i fault => s.send i fault

end DlqDeletions

namespace DlqDeletionRequest

variable {request : DlqDeletionRequest} {table table' : DlqTable}

/-- The loop over the page, and its report. -/
def deleting (jobs : List DlqJob) (deletedCount : UInt32) (affectedTasks : Finset String) :
    Handler DlqDeletionReport := do
  let (deletedCount, affectedTasks) ← Handler.deleteJobs jobs deletedCount affectedTasks
  pure ⟨deletedCount, false, affectedTasks⟩

/-- What is left once the page is there: the count that comes with it, and the loop. -/
def listed (request : DlqDeletionRequest) (jobs : List DlqJob) : Handler DlqDeletionReport :=
  .call (.countDlqJobs request.filter) fun
    | .error e => .fail ⟨500, "Failed to query DLQ: " ++ (BackfillError.sqlxError e).display,
        "QUERY_ERROR"⟩
    | .ok _ =>
        if request.dryRun then .done ⟨.ofNat jobs.length, true, taskIdentifiers jobs⟩
        else deleting jobs 0 ∅

theorem handler_eq (request : DlqDeletionRequest) :
    request.handler = .call (.listDlqJobs request.filter) fun
      | .error e => .fail ⟨500, "Failed to query DLQ: " ++ (BackfillError.sqlxError e).display,
          "QUERY_ERROR"⟩
      | .ok jobs => request.listed jobs := by
  cases request with
  | batchDelete req =>
      refine congrArg (Program.call (Statement.listDlqJobs req.filter)) (funext fun listed => ?_)
      cases listed with
      | error e => rfl
      | ok jobs =>
          refine congrArg (Program.call (Statement.countDlqJobs req.filter))
            (funext fun counted => ?_)
          cases counted with
          | error e => rfl
          | ok total =>
              cases dry : req.dryRun.getD false with
              | true => simp [dryRun, dry, Program.mapError]
              | false => simp [dryRun, dry, Program.mapError, deleting, Program.bind_assoc]
  | cleanup req cutoffDate =>
      rw [handler, Handler.cleanupDlqBefore_eq]
      refine congrArg (Program.call (Statement.listDlqJobs (req.filter cutoffDate)))
        (funext fun listed => ?_)
      cases listed with
      | error e => rfl
      | ok jobs =>
          refine congrArg (Program.call (Statement.countDlqJobs (req.filter cutoffDate)))
            (funext fun counted => ?_)
          cases counted with
          | error e => rfl
          | ok total =>
              cases dry : req.dryRun.getD false with
              | true => simp [dryRun, dry]
              | false => simp [dryRun, dry, deleting, Program.bind_assoc]

theorem deleting_nil (deletedCount : UInt32) (affectedTasks : Finset String) :
    deleting [] deletedCount affectedTasks = .done ⟨deletedCount, false, affectedTasks⟩ := rfl

theorem deleting_cons (job : DlqJob) (jobs : List DlqJob) (deletedCount : UInt32)
    (affectedTasks : Finset String) :
    deleting (job :: jobs) deletedCount affectedTasks = .call (.deleteDlqJob job.id) fun
      | .ok (some _) =>
          deleting jobs (deletedCount + 1) (insert job.taskIdentifier affectedTasks)
      | .ok none => deleting jobs deletedCount affectedTasks
      | .error _ => deleting jobs deletedCount affectedTasks := by
  refine congrArg (Program.call (Statement.deleteDlqJob job.id)) (funext fun deleted => ?_)
  rcases deleted with e | _ | task <;> rfl

/-- An entry of the page: the request asks for it, and the row that has its id, if there is one, is
of the same task and queue. -/
structure Lists (request : DlqDeletionRequest) (table : DlqTable) (job : DlqJob) : Prop where
  drawn : job.id < table.nextId
  asked : request.Asks job
  kept : ∀ row ∈ table.rows, row.id = job.id →
    row.taskIdentifier = job.taskIdentifier ∧ row.queueName = job.queueName

theorem Lists.change {now : Timestamp} {entries : List Entry} {job : DlqJob}
    (lists : request.Lists table job) (change : DlqChange now table table' entries) :
    request.Lists table' job where
  drawn := lt_of_lt_of_le lists.drawn change.origin.1
  asked := lists.asked
  kept row member same := by
    rcases change.dated member with ⟨old, oldMember, id, task, queue, -⟩ | ⟨fresh, -⟩
    · obtain ⟨task', queue'⟩ := lists.kept old oldMember (id.trans same)
      exact ⟨task.symm.trans task', queue.symm.trans queue'⟩
    · rw [same] at fresh
      exact absurd lists.drawn (fresh ▸ Int.lt_irrefl _)

/-- The rows of a page match the filter. -/
theorem Lists.of_page {job : DlqJob} (among : job ∈ request.filter.page table.rows) :
    request.Lists table job := by
  have sorted := (request.filter.arranged table).perm
  have member := sorted.mem_iff.mp (List.mem_of_mem_drop (List.mem_of_mem_take among))
  obtain ⟨member, selected⟩ := List.mem_filter.mp member
  refine ⟨table.id_lt job member, ?_, fun row there same => ?_⟩
  · simp only [DlqFilter.selects, Bool.and_eq_true, Option.all_eq_true, decide_eq_true_eq]
      at selected
    exact ⟨selected.1.1.1, selected.1.1.2⟩
  · obtain rfl := table.eq_of_id_eq there member same
    exact ⟨rfl, rfl⟩

/-- A page is far shorter than a counter is wide. -/
theorem length_page_lt (request : DlqDeletionRequest) (rows : List DlqJob) :
    (request.filter.page rows).length < 2 ^ 32 := by
  have short : (request.filter.page rows).length ≤ (request.filter.limit.getD 50).toNat :=
    List.length_take_le _ _
  have limit : request.filter.limit.getD 50 ≤ 10000 := by
    cases request with
    | batchDelete req => exact (min_le_right _ _).trans (by decide)
    | cleanup req cutoffDate => exact min_le_right _ _
  omega

/-- How far a request has come, with what it has deleted. -/
inductive Stage (request : DlqDeletionRequest) (table : DlqTable) :
    List DlqJob → Handler DlqDeletionReport → Prop
  | begins : Stage request table [] request.handler
  | listed {jobs : List DlqJob} (few : jobs.length < 2 ^ 32)
      (lists : ∀ job ∈ jobs, request.Lists table job) : Stage request table [] (request.listed jobs)
  | deleting {jobs deleted : List DlqJob} (real : request.dryRun = false)
      (few : deleted.length + jobs.length < 2 ^ 32)
      (lists : ∀ job ∈ jobs, request.Lists table job) (asked : ∀ row ∈ deleted, request.Asks row) :
      Stage request table deleted
        (deleting jobs (.ofNat deleted.length) (taskIdentifiers deleted))
  | reported {deleted : List DlqJob} {report : DlqDeletionReport}
      (accounted : DlqDeletion.Accounted ⟨request, .done report, deleted⟩)
      (asked : ∀ row ∈ deleted, request.Asks row) : Stage request table deleted (.done report)
  | failed {e : AdminError} : Stage request table [] (.fail e)

theorem Stage.change {now : Timestamp} {entries : List Entry} {deleted : List DlqJob}
    {routine : Handler DlqDeletionReport} (stage : request.Stage table deleted routine)
    (change : DlqChange now table table' entries) : request.Stage table' deleted routine := by
  cases stage with
  | begins => exact .begins
  | listed few lists => exact .listed few fun job among => (lists job among).change change
  | deleting real few lists asked =>
      exact .deleting real few (fun job among => (lists job among).change change) asked
  | reported accounted asked => exact .reported accounted asked
  | failed => exact .failed

/-- The loop that has nothing left to delete has reported. -/
theorem Stage.accounted {deleted : List DlqJob} {routine : Handler DlqDeletionReport}
    (stage : request.Stage table deleted routine) :
    DlqDeletion.Accounted ⟨request, routine, deleted⟩ ∧ ∀ row ∈ deleted, request.Asks row := by
  cases stage with
  | begins =>
      rw [handler_eq]
      exact ⟨trivial, fun row among => by cases among⟩
  | listed few lists => exact ⟨trivial, fun row among => by cases among⟩
  | @deleting jobs deleted real few lists asked =>
      refine ⟨?_, asked⟩
      cases jobs with
      | nil =>
          rw [deleting_nil]
          exact ⟨real.symm, UInt32.toNat_ofNat_of_lt' (by simpa using few), rfl⟩
      | cons job jobs =>
          rw [deleting_cons]
          trivial
  | reported accounted asked => exact ⟨accounted, asked⟩
  | failed => exact ⟨rfl, fun row among => by cases among⟩

theorem taskIdentifiers_concat (deleted : List DlqJob) (row : DlqJob) :
    taskIdentifiers (deleted ++ [row]) = insert row.taskIdentifier (taskIdentifiers deleted) := by
  simp [taskIdentifiers]

/-- One statement of a request. -/
theorem Stage.answer {deleted : List DlqJob} {op : Statement} {db : Database}
    {next : Statement.Reply op → Handler DlqDeletionReport} (now : Timestamp)
    (fault : Option ForeignError) (stage : request.Stage table deleted (.call op next))
    (present : db.dlq = .ok table) (after : (op.answer now fault db).2.dlq = .ok table') :
    request.Stage table' (deleted ++ op.deletedRows fault db)
      (next (op.answer now fault db).1) := by
  obtain ⟨left, left_eq, change⟩ := op.dlq_answer now fault present
  obtain rfl := Except.ok.inj (left_eq.symm.trans after)
  generalize called : Program.call op next = routine at stage
  cases stage with
  | begins =>
      rw [handler_eq] at called
      obtain ⟨rfl, same⟩ := Program.call.inj called
      obtain rfl := eq_of_heq same
      cases fault with
      | some error => exact .failed
      | none =>
          show request.Stage left [] _
          simp only [Statement.answer_none, Statement.exec, present]
          split
          next => exact .failed
          next jobs answered =>
            obtain rfl : request.filter.page table.rows = jobs := by
              split at answered
              · cases answered
              · split at answered
                · cases answered
                · exact Except.ok.inj answered
            exact .listed (length_page_lt request _) fun job among => (Lists.of_page among).change
              change
  | @listed jobs few lists =>
      obtain ⟨rfl, same⟩ := Program.call.inj called
      obtain rfl := eq_of_heq same
      have lists' : ∀ job ∈ jobs, request.Lists left job := fun job among =>
        (lists job among).change change
      cases fault with
      | some error => exact .failed
      | none =>
          show request.Stage left [] _
          simp only [Statement.answer_none, Statement.exec, present]
          cases dry : request.dryRun with
          | true => exact .reported ⟨dry.symm, rfl⟩ fun row among => by cases among
          | false => exact .deleting dry (by simpa using few) lists' fun row among => by cases among
  | @deleting jobs deleted real few lists asked =>
      cases jobs with
      | nil => cases called
      | cons job jobs =>
          rw [deleting_cons] at called
          obtain ⟨rfl, same⟩ := Program.call.inj called
          obtain rfl := eq_of_heq same
          rw [List.length_cons] at few
          obtain ⟨first, lists⟩ := List.forall_mem_cons.mp lists
          have lists' : ∀ job ∈ jobs, request.Lists left job := fun job among =>
            (lists job among).change change
          cases fault with
          | some error =>
              show request.Stage left (deleted ++ []) _
              rw [List.append_nil]
              exact .deleting real (by omega) lists' asked
          | none =>
              simp only [Statement.deletedRows, Database.dlqRows_ok present]
              rw [SerialTable.filter_id_eq]
              simp only [Statement.answer_none, Statement.exec, present]
              cases found : table.get? job.id with
              | none =>
                  rw [Option.toList_none, List.append_nil]
                  exact .deleting real (by omega) lists' asked
              | some row =>
                  obtain ⟨member, same⟩ := SerialTable.get?_eq_some.mp found
                  obtain ⟨task, queue⟩ := first.kept row member same
                  rw [Option.toList_some]
                  have counted : UInt32.ofNat deleted.length + 1 =
                      .ofNat (deleted ++ [row]).length := by
                    rw [List.length_append, UInt32.ofNat_add]
                    rfl
                  have tasks := taskIdentifiers_concat deleted row
                  rw [task] at tasks
                  simp only [Option.map_some]
                  rw [counted, ← tasks]
                  refine .deleting real ?_ lists' fun r among => ?_
                  · rw [List.length_append, List.length_singleton]
                    omega
                  · rcases List.mem_append.mp among with old | new
                    · exact asked r old
                    · obtain rfl := List.mem_singleton.mp new
                      exact ⟨fun t is => task.trans (first.asked.1 t is),
                        fun q is => queue.trans (first.asked.2 q is)⟩
  | reported => cases called
  | failed => cases called

end DlqDeletionRequest

namespace DlqDeletions

/-- All rows the requests have deleted. -/
def deleted (s : DlqDeletions) : List DlqJob := s.calls.flatMap DlqDeletion.deleted

/-- What every run keeps: each request has come as far as its report says, and what they have
deleted are different entries that are gone. -/
structure Accounts (s : DlqDeletions) (table : DlqTable) : Prop where
  present : s.journal.db.dlq = .ok table
  stages : ∀ c ∈ s.calls, c.request.Stage table c.deleted c.routine
  distinct : (s.deleted.map DlqJob.id).Nodup
  lost : ∀ row ∈ s.deleted, Lost table row.id

variable {tables : CharTables} {s s' : DlqDeletions} {a : DlqDeletionAction}
  {table table' : DlqTable}

theorem send_some {i : Nat} {fault : Option ForeignError} (sent : s.send i fault = some s') :
    ∃ c op next, s.calls[i]? = some c ∧ c.routine = .call op next ∧
      s' =
        { journal := { s.journal with cluster := s.journal.answered op fault }
          calls := s.calls.set i
            ⟨c.request, next (op.answer s.journal.cluster.now fault s.journal.db).1,
              c.deleted ++ op.deletedRows fault s.journal.db⟩ } := by
  unfold send at sent
  split at sent
  next request op next deleted entry =>
    obtain rfl := Option.some.inj sent
    exact ⟨_, op, next, entry, rfl, rfl⟩
  next => cases sent

/-- The rows a statement deletes are there, one for each id, and are gone when it is answered. -/
theorem deletedRows_lost {op : Statement} {now : Timestamp} {fault : Option ForeignError}
    {db : Database} (present : db.dlq = .ok table)
    (after : (op.answer now fault db).2.dlq = .ok table') :
    ((op.deletedRows fault db).map DlqJob.id).Nodup ∧
      ∀ row ∈ op.deletedRows fault db, row ∈ table.rows ∧ Lost table' row.id := by
  unfold Statement.deletedRows
  split
  next dlqId =>
    simp only [Statement.answer_none, Statement.exec, present, Except.ok.injEq] at after
    rw [Database.dlqRows_ok present, SerialTable.filter_id_eq, ← after]
    refine ⟨?_, fun row found => ?_⟩
    · cases table.get? dlqId <;> simp
    · obtain ⟨member, rfl⟩ := SerialTable.get?_eq_some.mp (Option.mem_toList.mp found)
      exact ⟨member, .of_deleted member⟩
  next => exact ⟨List.nodup_nil, fun row among => by cases among⟩

theorem Accounts.step (accounts : s.Accounts table) (taken : s.step tables a = some s') :
    ∃ table', s'.Accounts table' := by
  cases a with
  | base a =>
      obtain ⟨journal, moved, rfl⟩ := Option.map_eq_some_iff.mp taken
      obtain ⟨table', entries, marks, present', change, -, -⟩ :=
        Journal.dlq_step accounts.present moved
      exact ⟨table', present', fun c among => (accounts.stages c among).change change,
        accounts.distinct, fun row among => (accounts.lost row among).change change⟩
  | call request =>
      obtain rfl := Option.some.inj taken
      have same : deleted { s with calls := s.calls ++ [⟨request, request.handler, []⟩] } =
          s.deleted := by simp [deleted]
      refine ⟨table, accounts.present, fun c among => ?_, same ▸ accounts.distinct,
        same ▸ accounts.lost⟩
      rcases List.mem_append.mp among with old | new
      · exact accounts.stages c old
      · obtain rfl := List.mem_singleton.mp new
        exact .begins
  | send i fault =>
      obtain ⟨c, op, next, entry, calls, rfl⟩ := send_some taken
      obtain ⟨table', present', change⟩ :=
        op.dlq_answer s.journal.cluster.now fault accounts.present
      obtain ⟨different, gone⟩ := deletedRows_lost accounts.present present'
      have more := ListFacts.flatMap_set (f := DlqDeletion.deleted)
        (b := ⟨c.request, next (op.answer s.journal.cluster.now fault s.journal.db).1,
          c.deleted ++ op.deletedRows fault s.journal.db⟩) entry rfl
      refine ⟨table', present', fun c' among => ?_, ?_, fun row among => ?_⟩
      · rcases List.mem_or_eq_of_mem_set among with old | rfl
        · exact (accounts.stages c' old).change change
        · have stage := accounts.stages c (List.mem_of_getElem? entry)
          rw [calls] at stage
          exact stage.answer s.journal.cluster.now fault accounts.present present'
      · refine (more.map DlqJob.id).nodup_iff.mpr ?_
        rw [List.map_append]
        refine List.nodup_append.mpr ⟨accounts.distinct, different, ?_⟩
        intro id old id' new same
        obtain ⟨row, among, rfl⟩ := List.mem_map.mp old
        obtain ⟨row', among', rfl⟩ := List.mem_map.mp new
        exact (accounts.lost row among).2 row' (gone row' among').1 same.symm
      · rcases List.mem_append.mp (more.mem_iff.mp among) with old | new
        · exact (accounts.lost row old).change change
        · exact (gone row new).2

/-- Any number of cleanups and batch deletes run next to each other and to everything else. What
each of them reports is what it has deleted: so many rows, of these tasks, all of them of the task
and the queue it was asked for; nothing, if it is a dry run or fails. No entry is deleted by two of
them, and none is in the DLQ again. -/
theorem deletions_accounted {now : Timestamp} {db : Database} {as : List DlqDeletionAction}
    (present : db.dlq = .ok table)
    (path : Transition.Run (step tables) (fun _ _ => True) (initial now db) as s) :
    (∀ c ∈ s.calls, c.Accounted ∧ ∀ row ∈ c.deleted, c.request.Asks row) ∧
      (s.deleted.map DlqJob.id).Nodup ∧
      ∀ row ∈ s.deleted, ∀ left ∈ s.journal.db.dlqRows, left.id ≠ row.id := by
  obtain ⟨table', accounts⟩ := path.invariant (I := fun s => ∃ table, s.Accounts table)
    (fun _ _ _ ⟨_, accounts⟩ _ taken => accounts.step taken)
    ⟨table, present, fun c among => (by cases among), List.nodup_nil, fun row among => by
      cases among⟩
  refine ⟨fun c among => (accounts.stages c among).accounted, accounts.distinct,
    fun row among left there => ?_⟩
  rw [Database.dlqRows_ok accounts.present] at there
  exact (accounts.lost row among).2 left there

/-- A cleanup and a batch delete list the same entry: one of them deletes it. -/
theorem deletions_accounted_movedInvoice :
    ∃ s : DlqDeletions, s.calls.map (fun c => c.deleted.map DlqJob.id) = [[], [1]] ∧
      (∀ c ∈ s.calls, c.Accounted ∧ ∀ row ∈ c.deleted, c.request.Asks row) ∧
      (s.deleted.map DlqJob.id).Nodup ∧
      ∀ row ∈ s.deleted, ∀ left ∈ s.journal.db.dlqRows, left.id ≠ row.id := by
  have path : Transition.Run (step .ascii) (fun _ _ => True)
      (initial 0 (Session.movedInvoice "invoices").db)
      [.call (.cleanup DlqCleanup.defaultDlqCleanup 0),
        .call (.batchDelete ⟨some "send_email", none, none, none, none, none⟩), .send 0 none,
        .send 1 none, .send 0 none, .send 1 none, .send 1 none, .send 0 none] _ :=
    .of_run (by simp) rfl
  exact ⟨_, rfl, deletions_accounted rfl path⟩

end DlqDeletions

end Backfill
