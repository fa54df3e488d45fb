import Backfill.Client.RoundTrip
import Backfill.Admin.Dlq
import Backfill.Cluster.CleanupRace
import Backfill.Cluster.HiddenFailures

/-!
# What `POST /dlq/cleanup` deletes while others write (`admin.rs:838`)

The handler lists the records that have failed before its cutoff and deletes them one by one, by
their id. A capture that finds its key in the DLQ in between refreshes `failed_at` of a row whose
id the handler already has.
-/

namespace Backfill

/-- A `DlqCleanupRequest` in the course of being served. -/
structure DlqCleanup where
  journal : Journal
  handler : Handler DlqCleanupResponse
  /-- The rows it has deleted, as they were then. -/
  deleted : List DlqJob

inductive DlqCleanupAction
  /-- a step of the others -/
  | base (a : JournalAction)
  /-- the handler sends its next statement -/
  | serve (fault : Option ForeignError)

/-- The rows of the DLQ a delete by id removes. -/
def Statement.deletedRows (s : Statement) (fault : Option ForeignError) (db : Database) :
    List DlqJob :=
  match s, fault with
  | .deleteDlqJob dlqId, none => db.dlqRows.filter fun row => row.id = dlqId
  | _, _ => []

namespace DlqCleanupRequest

/-- The days of a request, in microseconds. -/
def age (req : DlqCleanupRequest) : Int := req.olderThanDays.getD 90 * 86400 * 1000000

/-- The days of the request are a `Duration`, and the time before them is a `DateTime`. -/
def InRange (req : DlqCleanupRequest) (chrono : Chrono) (requestedAt : Timestamp) : Prop :=
  (-chrono.maxDuration ≤ req.age ∧ req.age ≤ chrono.maxDuration) ∧
    chrono.minUtc ≤ requestedAt - req.age ∧ requestedAt - req.age ≤ chrono.maxUtc

instance (req : DlqCleanupRequest) (chrono : Chrono) (requestedAt : Timestamp) :
    Decidable (req.InRange chrono requestedAt) :=
  inferInstanceAs (Decidable (_ ∧ _))

/-- The cutoff of a request, unless one of the two operators panics. -/
theorem cutoffDate_eq (req : DlqCleanupRequest) (chrono : Chrono) (requestedAt : Timestamp) :
    req.cutoffDate chrono requestedAt =
      if req.InRange chrono requestedAt then some (requestedAt - req.age) else none := by
  unfold cutoffDate Chrono.days Chrono.sub InRange age
  by_cases span : -chrono.maxDuration ≤ req.olderThanDays.getD 90 * 86400 * 1000000 ∧
      req.olderThanDays.getD 90 * 86400 * 1000000 ≤ chrono.maxDuration
  · simp only [span, and_self, if_true, Option.bind_eq_bind, Option.bind_some, true_and]
  · simp only [span, if_false, Option.bind_eq_bind, Option.bind_none, false_and]

end DlqCleanupRequest

namespace Handler

/-- What the handler sends after its page. -/
def AfterPage (op : Statement) : Prop :=
  (∃ filter, op = .countDlqJobs filter) ∨ ∃ dlqId, op = .deleteDlqJob dlqId

/-- The handler may still send a delete of this row. -/
def MayDelete {α : Type} (handler : Handler α) (dlqId : Int) : Prop :=
  ¬ handler.Calls fun op => op ≠ .deleteDlqJob dlqId

/-- What is left of the cleanup once its page has been answered. -/
def cleanupListed (req : DlqCleanupRequest) (cutoffDate : Timestamp) :
    Except ForeignError (List DlqJob) → Handler DlqCleanupResponse
  | .error e => .fail ⟨500, "Failed to query DLQ: " ++ (BackfillError.sqlxError e).display,
      "QUERY_ERROR"⟩
  | .ok jobs => .call (.countDlqJobs (req.filter cutoffDate)) fun
      | .error e => .fail ⟨500, "Failed to query DLQ: " ++ (BackfillError.sqlxError e).display,
          "QUERY_ERROR"⟩
      | .ok _ =>
          if req.dryRun.getD false then
            .done ⟨.ofNat jobs.length, true, cutoffDate, taskIdentifiers jobs⟩
          else do
            let (deletedCount, affectedTasks) ← deleteJobs jobs 0 ∅
            pure ⟨deletedCount, false, cutoffDate, affectedTasks⟩

theorem cleanupDlqBefore_eq (req : DlqCleanupRequest) (cutoffDate : Timestamp) :
    cleanupDlqBefore req cutoffDate =
      .call (.listDlqJobs (req.filter cutoffDate)) (cleanupListed req cutoffDate) := by
  refine congrArg (Program.call (Statement.listDlqJobs (req.filter cutoffDate)))
    (funext fun listed => ?_)
  cases listed with
  | error e => rfl
  | ok jobs =>
      refine congrArg (Program.call (Statement.countDlqJobs (req.filter cutoffDate)))
        (funext fun counted => ?_)
      cases counted with
      | error e => rfl
      | ok total => rfl

/-- After its page the handler counts, and deletes rows of the page. -/
theorem calls_cleanupListed {I : Statement → Prop} {req : DlqCleanupRequest}
    {cutoffDate : Timestamp} {jobs : List DlqJob} (counts : ∀ filter, I (.countDlqJobs filter))
    (deletes : ∀ job ∈ jobs, I (.deleteDlqJob job.id)) :
    (cleanupListed req cutoffDate (.ok jobs)).Calls I := by
  refine ⟨counts _, fun counted => ?_⟩
  cases counted with
  | error e => trivial
  | ok total =>
      dsimp only
      split
      · trivial
      · exact (calls_deleteJobs _ _ deletes).bind fun _ => trivial

end Handler

namespace DlqCleanup

/-- The handler is called; nothing has been sent. -/
def initial (journal : Journal) (handler : Handler DlqCleanupResponse) : DlqCleanup :=
  ⟨journal, handler, []⟩

/-- The handler sends its next statement. -/
def serve (s : DlqCleanup) (fault : Option ForeignError) : Option DlqCleanup :=
  match s.handler with
  | .call op next =>
      some
        { journal := { s.journal with cluster := s.journal.answered op fault }
          handler := next (op.answer s.journal.cluster.now fault s.journal.db).1
          deleted := s.deleted ++ op.deletedRows fault s.journal.db }
  | _ => none

/-- One step; `none` when the action is not possible. -/
def step (tables : CharTables) (s : DlqCleanup) : DlqCleanupAction → Option DlqCleanup
  | .base a => (s.journal.step tables a).map fun journal => { s with journal := journal }
  | .serve fault => s.serve fault

/-- The handler has its page, and the row is one it has still to delete. -/
def Awaits (s : DlqCleanup) (dlqId : Int) : Prop :=
  (∀ filter, s.handler.next? ≠ some (.listDlqJobs filter)) ∧ s.handler.MayDelete dlqId

/-- Any step that captures nothing, later than the cutoff, under the key of a row the handler has
still to delete. -/
def SparesListed (cutoffDate : Timestamp) (s : DlqCleanup) : DlqCleanupAction → Prop
  | .base a => ∀ op key, s.journal.sends? a = some op →
      op.CapturesUnder a.fault s.journal.db key →
      ∀ row ∈ s.journal.db.dlqRows, row.jobKey = some key → s.Awaits row.id →
        s.journal.cluster.now ≤ cutoffDate
  | .serve _ => True

end DlqCleanup

/-- No statement makes the table. -/
theorem Statement.dlq_missing {s : Statement} {now : Timestamp} {db : Database}
    {missing : ForeignError} (absent : db.dlq = .error missing) :
    (s.exec now db).2.dlq = .error missing := by
  cases s with
  | moveFailedJob _ | upsertDlq _ | recordRequeue _ _ | deleteDlqJob _ | deleteDlqByJobKey _ =>
      simp only [exec, absent]
  | _ => exact (dlq_exec rfl).trans absent

/-- The id is drawn, and the row that has it, if there is one, failed before the cutoff. -/
def Database.FailedBefore (db : Database) (cutoffDate : Timestamp) (dlqId : Int) : Prop :=
  ∀ table, db.dlq = .ok table →
    dlqId < table.nextId ∧ ∀ row ∈ table.rows, row.id = dlqId → row.failedAt ≤ cutoffDate

namespace Database.FailedBefore

variable {db : Database} {cutoffDate now : Timestamp} {dlqId : Int}

/-- A capture of the others, no later than the cutoff or under another key. -/
theorem upsertInto {values : DlqInsert} {table : DlqTable}
    (before : dlqId < table.nextId ∧ ∀ row ∈ table.rows, row.id = dlqId → row.failedAt ≤ cutoffDate)
    (spares : ∀ key, storedKey values.jobKey = some key → ∀ row ∈ table.rows, row.id = dlqId →
      row.jobKey = some key → now ≤ cutoffDate) :
    dlqId < (values.upsertInto table now).nextId ∧
      ∀ row ∈ (values.upsertInto table now).rows, row.id = dlqId → row.failedAt ≤ cutoffDate := by
  obtain ⟨drawn, failed⟩ := before
  refine ⟨?_, fun row member same => ?_⟩
  · rw [DlqInsert.upsertInto, SerialTable.nextId_upsert]
    omega
  · rcases SerialTable.mem_upsert.mp member with ⟨held, old, oldMember, rfl⟩ | ⟨-, old | rfl⟩
    · split at same
      next keyed =>
        rw [if_pos keyed]
        obtain ⟨key, named⟩ := Option.ne_none_iff_exists'.mp (SerialTable.holds_iff.mp held).1
        exact spares key named old oldMember same (keyed.trans named)
      next other =>
        rw [if_neg other]
        exact failed old oldMember same
    · exact failed row old same
    · have fresh : table.nextId = dlqId := same
      omega

/-- What a delete by the id finds. -/
theorem of_deleted {fault : Option ForeignError} (before : db.FailedBefore cutoffDate dlqId)
    {row : DlqJob} (member : row ∈ (Statement.deleteDlqJob dlqId).deletedRows fault db) :
    row.failedAt ≤ cutoffDate := by
  cases fault with
  | some error => cases member
  | none =>
      obtain ⟨among, same⟩ := List.mem_filter.mp member
      cases present : db.dlq with
      | error missing => simp [dlqRows, present] at among
      | ok table =>
          exact (before table present).2 row (dlqRows_ok present ▸ among) (of_decide_eq_true same)

/-- A statement that captures nothing under the key of the row, or no later than the cutoff. -/
theorem answer {s : Statement} {fault : Option ForeignError}
    (before : db.FailedBefore cutoffDate dlqId)
    (spares : ∀ key, s.CapturesUnder fault db key → ∀ row ∈ db.dlqRows, row.id = dlqId →
      row.jobKey = some key → now ≤ cutoffDate) :
    (s.answer now fault db).2.FailedBefore cutoffDate dlqId := by
  intro table' after
  cases fault with
  | some error => exact before table' after
  | none =>
      rw [Statement.answer_none] at after
      cases present : db.dlq with
      | error missing =>
          rw [Statement.dlq_missing present] at after
          cases after
      | ok table =>
          have start := before table present
          have rows : db.dlqRows = table.rows := dlqRows_ok present
          cases s with
          | moveFailedJob values =>
              simp only [Statement.exec, moveFailedJob, present] at after
              cases found : db.jobs.get? values.originalJobId with
              | none =>
                  simp only [found] at after
                  exact before table' after
              | some row =>
                  simp only [found, moved, Except.ok.injEq] at after
                  obtain ⟨among, id⟩ := SerialTable.get?_eq_some.mp found
                  rw [← after]
                  exact upsertInto start fun key named r member => spares key
                    ⟨rfl, named, row, among, id⟩ r (rows ▸ member)
          | upsertDlq values =>
              simp only [Statement.exec, present, Except.ok.injEq] at after
              rw [← after]
              exact upsertInto start fun key named r member => spares key ⟨rfl, named⟩ r
                (rows ▸ member)
          | recordRequeue notes id =>
              simp only [Statement.exec, present, Except.ok.injEq] at after
              rw [← after]
              refine ⟨start.1, fun row member same => ?_⟩
              obtain ⟨old, oldMember, rfl⟩ := SerialTable.mem_update.mp member
              split at same <;> split <;> exact start.2 old oldMember same
          | deleteDlqJob _ | deleteDlqByJobKey _ =>
              simp only [Statement.exec, present, Except.ok.injEq] at after
              rw [← after]
              exact ⟨start.1, fun row member => start.2 row (SerialTable.mem_delete.mp member).1⟩
          | _ => exact before table' ((Statement.dlq_exec rfl).symm.trans after)

end Database.FailedBefore

namespace DlqCleanup

/-- Until the handler has its page it has sent nothing; then it goes on to delete rows that failed
before the cutoff, and others do not change that. -/
structure DeletesOld (req : DlqCleanupRequest) (cutoffDate : Timestamp) (s : DlqCleanup) :
    Prop where
  handler : s.handler = Handler.cleanupDlqBefore req cutoffDate ∨
    s.handler.Calls Handler.AfterPage ∧
      ∀ dlqId, s.handler.MayDelete dlqId → s.journal.db.FailedBefore cutoffDate dlqId
  deleted : ∀ row ∈ s.deleted, row.failedAt ≤ cutoffDate

namespace DeletesOld

variable {req : DlqCleanupRequest} {cutoffDate : Timestamp} {s s' : DlqCleanup}
  {tables : CharTables} {a : DlqCleanupAction}

theorem initial (journal : Journal) (req : DlqCleanupRequest) (cutoffDate : Timestamp) :
    DeletesOld req cutoffDate (initial journal (Handler.cleanupDlqBefore req cutoffDate)) :=
  ⟨.inl rfl, by simp [DlqCleanup.initial]⟩

/-- A step of the others. -/
theorem base {b : JournalAction} (old : DeletesOld req cutoffDate s)
    (allowed : SparesListed cutoffDate s (.base b)) (taken : s.step tables (.base b) = some s') :
    DeletesOld req cutoffDate s' := by
  obtain ⟨journal, moved, rfl⟩ := Option.map_eq_some_iff.mp taken
  refine ⟨old.handler.imp_right fun ⟨listed, before⟩ => ⟨listed, fun dlqId deletes => ?_⟩,
    old.deleted⟩
  have awaits : s.Awaits dlqId := by
    refine ⟨fun filter next => ?_, deletes⟩
    rcases listed.next next with ⟨_, other⟩ | ⟨_, other⟩ <;> cases other
  cases sends : s.journal.sends? b with
  | none =>
      have same := Journal.dlq_silent sends moved
      exact fun table present => before dlqId deletes table (same ▸ present)
  | some op =>
      rw [Journal.sends_step sends moved]
      refine (before dlqId deletes).answer fun key captures row member same keyed => ?_
      exact allowed op key sends captures row member keyed (same ▸ awaits)

/-- The page of the handler: its rows have failed before the cutoff. -/
theorem listed {now : Timestamp} {fault : Option ForeignError} {db : Database} {rows : List DlqJob}
    (answered : ((Statement.listDlqJobs (req.filter cutoffDate)).answer now fault db).1 =
      .ok rows) : ∀ row ∈ rows, db.FailedBefore cutoffDate row.id := by
  intro row among table present
  have page : rows = (req.filter cutoffDate).page table.rows := by
    cases fault with
    | some error => cases answered
    | none =>
        simp only [Statement.answer_none, Statement.exec, present] at answered
        split at answered
        · cases answered
        · split at answered
          · cases answered
          · exact (Except.ok.inj answered).symm
  have sorted := ((req.filter cutoffDate).arranged table).perm
  have member : row ∈ (req.filter cutoffDate).matching table :=
    sorted.mem_iff.mp (List.mem_of_mem_drop (List.mem_of_mem_take (page ▸ among)))
  obtain ⟨member, selected⟩ := List.mem_filter.mp member
  refine ⟨table.id_lt row member, fun other otherMember same => ?_⟩
  obtain rfl := table.eq_of_id_eq otherMember member same
  simp only [DlqFilter.selects, DlqCleanupRequest.filter, Option.all_some, Bool.and_eq_true,
    decide_eq_true_eq] at selected
  exact selected.2

/-- The page of the handler, or one of its deletes. -/
theorem serve {fault : Option ForeignError} (old : DeletesOld req cutoffDate s)
    (taken : s.step tables (.serve fault) = some s') : DeletesOld req cutoffDate s' := by
  obtain ⟨journal, handler, deleted⟩ := s
  obtain ⟨stage, before⟩ := old
  cases handler with
  | done value => cases taken
  | fail error => cases taken
  | call op next =>
      obtain rfl := Option.some.inj taken
      rcases stage with begins | ⟨calls, ripe⟩
      · rw [Handler.cleanupDlqBefore_eq] at begins
        obtain ⟨rfl, same⟩ := Program.call.inj begins
        obtain rfl := eq_of_heq same
        refine ⟨.inr ?_, by simpa [Statement.deletedRows] using before⟩
        dsimp only
        cases answered : ((Statement.listDlqJobs (req.filter cutoffDate)).answer
            journal.cluster.now fault journal.db).1 with
        | error error => exact ⟨trivial, fun dlqId deletes => absurd trivial deletes⟩
        | ok rows =>
            refine ⟨Handler.calls_cleanupListed (fun filter => .inl ⟨filter, rfl⟩)
              fun job _ => .inr ⟨job.id, rfl⟩, fun dlqId deletes => ?_⟩
            obtain ⟨row, member, rfl⟩ : ∃ row ∈ rows, row.id = dlqId := by
              by_contra none
              refine deletes (Handler.calls_cleanupListed (fun _ same => by cases same) ?_)
              exact fun job member same => none ⟨job, member, Statement.deleteDlqJob.inj same⟩
            exact (listed answered row member).answer fun key captures => by cases captures
      · obtain ⟨kind, later⟩ := calls
        refine ⟨.inr ⟨later _, fun dlqId deletes => ?_⟩, fun row member => ?_⟩
        · have may : Handler.MayDelete (.call op next) dlqId := fun calls => deletes (calls.2 _)
          refine (ripe dlqId may).answer fun key captures => ?_
          rcases kind with ⟨_, rfl⟩ | ⟨_, rfl⟩ <;> cases captures
        · rcases List.mem_append.mp member with old | new
          · exact before row old
          · rcases kind with ⟨filter, rfl⟩ | ⟨dlqId, rfl⟩
            · cases new
            · have may : Handler.MayDelete (.call (.deleteDlqJob dlqId) next) dlqId :=
                fun calls => calls.1 rfl
              exact (ripe dlqId may).of_deleted new

end DeletesOld

/-- `POST /dlq/cleanup` does not panic exactly for the ages and request times whose cutoff is in the
range of `chrono`; and in every run in which nothing is captured, later than the cutoff, under the
key of a row it has still to delete, it deletes only rows that have failed by then. -/
theorem cleanup_deletes_old (tables : CharTables) (chrono : Chrono) (requestedAt : Timestamp)
    (req : DlqCleanupRequest) :
    (Handler.cleanupDlq chrono requestedAt req ≠ none ↔ req.InRange chrono requestedAt) ∧
    ∀ handler, Handler.cleanupDlq chrono requestedAt req = some handler →
      ∀ (journal : Journal) (as : List DlqCleanupAction) (s : DlqCleanup),
        Transition.Run (step tables) (SparesListed (requestedAt - req.age))
          (initial journal handler) as s →
        ∀ row ∈ s.deleted, row.failedAt ≤ requestedAt - req.age := by
  have cutoff := req.cutoffDate_eq chrono requestedAt
  constructor
  · rw [Handler.cleanupDlq, cutoff]
    split <;> simp [*]
  · intro handler called journal as s path
    rw [Handler.cleanupDlq, cutoff] at called
    split at called
    · obtain rfl := Option.some.inj called
      refine (path.invariant (I := DeletesOld req (requestedAt - req.age)) ?_
        (.initial journal req _)).deleted
      intro s a s' old allowed taken
      cases a with
      | base b => exact old.base allowed taken
      | serve fault => exact old.serve taken
    · cases called

/-- The ranges of `chrono`: `i64::MAX` milliseconds, and the years from -262143 to 262142. -/
def chronoRanges : Chrono where
  maxDuration := 9223372036854775807 * 1000
  minUtc := -8334601228800 * 1000000
  maxUtc := 8210266876799 * 1000000 + 999999

/-- A request without a body of its own: 90 days, every task and queue, no dry run. -/
def defaultDlqCleanup : DlqCleanupRequest := ⟨none, none, none, none, none⟩

/-- An invoice that failed at time 0 is in the DLQ, 91 days later. -/
def oldRecord : Journal := .initial (91 * 86400 * 1000000) (Session.movedInvoice "invoices").db

/-- It is deleted. -/
theorem cleanup_deletes_old_oldRecord :
    ∃ handler s, Handler.cleanupDlq chronoRanges (91 * 86400 * 1000000) defaultDlqCleanup =
        some handler ∧
      Transition.Run (step .ascii) (SparesListed (91 * 86400 * 1000000 - defaultDlqCleanup.age))
        (initial oldRecord handler) [.serve none, .serve none, .serve none] s ∧
      s.deleted.length = 1 ∧
      ∀ row ∈ s.deleted, row.failedAt ≤ 91 * 86400 * 1000000 - defaultDlqCleanup.age := by
  let cutoffDate : Timestamp := 91 * 86400 * 1000000 - defaultDlqCleanup.age
  have called : Handler.cleanupDlq chronoRanges (91 * 86400 * 1000000) defaultDlqCleanup =
      some (.cleanupDlqBefore defaultDlqCleanup cutoffDate) := rfl
  have path : Transition.Run (step .ascii) (SparesListed cutoffDate)
      (initial oldRecord (.cleanupDlqBefore defaultDlqCleanup cutoffDate))
      [.serve none, .serve none, .serve none] _ :=
    .cons trivial rfl <| .cons trivial rfl <| .cons trivial rfl <| .nil _
  exact ⟨_, _, called, path, rfl,
    (cleanup_deletes_old .ascii chronoRanges _ defaultDlqCleanup).2 _ called _ _ _ path⟩

/-- The largest number of days panics; and a record that is captured again between the page and the
delete is deleted although it has just failed. -/
theorem cleanup_deletes_refreshed :
    Handler.cleanupDlq chronoRanges 0 { defaultDlqCleanup with
      olderThanDays := some 9223372036854775807 } = none ∧
    ∃ handler as s, Handler.cleanupDlq chronoRanges (91 * 86400 * 1000000) defaultDlqCleanup =
        some handler ∧
      Transition.Run (step .ascii) (fun _ _ => True) (initial oldRecord handler) as s ∧
      ∃ row ∈ s.deleted, row.failedAt = 91 * 86400 * 1000000 := by
  refine ⟨by decide, _, [.serve none, .serve none,
    .base (.base (.start (Client.addToDlqRoutine (Session.invoice 2 .null) "boom"))),
    .base (.base (.send 0 none)), .serve none], _, rfl, .of_run (by simp) rfl, _, .head _, rfl⟩

end DlqCleanup

end Backfill
