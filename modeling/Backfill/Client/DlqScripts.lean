import Backfill.Client.DlqTable
import Backfill.Client.Requeue

/-!
# The two ways of creating the DLQ

The same operations are run against a table made by `init_dlq` and against one made by the
script of the documentation. The tables differ in one index, which only the captures need;
so the runs agree exactly as long as no capture would have taken anything.
-/

namespace Backfill

/-- The operations on the DLQ. -/
inductive DlqOperation
  | addToDlq (originalJob : Job) (failureReason : String) (lastError : Option Json)
  | processFailedJobs
  | requeue (dlqId : Int) (notes : Option String)
  | list (filter : DlqFilter)
  | delete (dlqId : Int)
  | deleteByJobKey (jobKey : String)

/-- What they return. -/
inductive DlqOutcome
  | added (dlqJob : DlqJob)
  | moved (movedCount : Nat)
  | requeued (job : Job)
  | listed (page : DlqJobList)
  | deleted (found : Bool)
  | deletedByJobKey (count : Nat)

namespace DlqOperation

def routine : DlqOperation → Client DlqOutcome
  | addToDlq originalJob failureReason lastError => do
      let dlqJob ← Client.addToDlq originalJob failureReason lastError
      pure (.added dlqJob)
  | processFailedJobs => do
      let movedCount ← Client.processFailedJobs
      pure (.moved movedCount)
  | requeue dlqId notes => do
      let job ← Client.requeueDlqJob dlqId notes
      pure (.requeued job)
  | list filter => do
      let page ← Client.listDlqJobs filter
      pure (.listed page)
  | delete dlqId => do
      let found ← Client.deleteDlqJob dlqId
      pure (.deleted found)
  | deleteByJobKey jobKey => do
      let count ← Client.deleteDlqByJobKey jobKey
      pure (.deletedByJobKey count)

/-- A capture of nothing: no `add_to_dlq`, and a pass only when the columns would take none of
the jobs it scans. -/
def CapturesNothing (jsonb : Json → Bool) (db : Database) : DlqOperation → Prop
  | addToDlq _ _ _ => False
  | processFailedJobs => ∀ job ∈ db.findFailedJobs, job.fits jsonb initDlq = false
  | _ => True

end DlqOperation

/-- An operation and the clock of its statements. -/
structure DlqStep where
  clock : Nat → Timestamp
  operation : DlqOperation

/-- A session in which no statement is refused for another reason than its values. -/
def Session.ticking (clock : Nat → Timestamp) (db : Database) : Session where
  db := db
  upcoming n := { now := clock n, fault := fun _ => none }

/-- The results of the operations, one after the other, and the database they leave. -/
def history (jsonb : Json → Bool) (ddl : TableDdl) :
    List DlqStep → Database → List (Except BackfillError DlqOutcome) × Database
  | [], db => ([], db)
  | step :: steps, db =>
      let ran := (Session.ticking step.clock db).runOn jsonb ddl step.operation.routine
      let rest := history jsonb ddl steps ran.2.db
      (ran.1 :: rest.1, rest.2)

/-- A database is not changed by what it has already. -/
theorem Database.with_dlq {db : Database} {dlq : Except ForeignError DlqTable}
    (same : db.dlq = dlq) : { db with dlq := dlq } = db := by
  rw [← same]

namespace Session

variable {jsonb : Json → Bool} {ddl : TableDdl} {session : Session}

/-- What is made of the value of a routine does not touch the database. -/
theorem runOn_map {α β : Type} (p : Client α) (f : α → β) :
    session.runOn jsonb ddl (p >>= fun value => pure (f value)) =
      ((session.runOn jsonb ddl p).1.map f, (session.runOn jsonb ddl p).2) := by
  rw [runOn, Program.run_bind, runOn]
  split <;> rename_i ran <;> rw [ran] <;> rfl

variable (calm : session.Calm) (present : session.db.dlq = .ok .empty)

include calm present

/-- There is nothing to requeue in an empty DLQ. -/
theorem runOn_requeueDlqJob_empty (dlqId : Int) (notes : Option String) :
    session.runOn jsonb ddl (Client.requeueDlqJob dlqId notes) =
      (.error (.dlqJobNotFound dlqId), session.after 1 session.db) := by
  have answered : (Statement.getDlqJob dlqId).execOn jsonb ddl (session.upcoming 0).now session.db =
      (.ok none, session.db) := by
    simp only [Statement.execOn, Statement.exec, present]
    rfl
  exact runOn_query calm answered

/-- There is nothing to delete. -/
theorem runOn_deleteDlqJob_empty (dlqId : Int) :
    session.runOn jsonb ddl (Client.deleteDlqJob dlqId) =
      (.ok false, session.after 1 session.db) := by
  have answered : (Statement.deleteDlqJob dlqId).execOn jsonb ddl (session.upcoming 0).now
      session.db = (.ok none, { session.db with dlq := .ok .empty }) := by
    simp only [Statement.execOn, Statement.exec, present]
    rfl
  rw [Database.with_dlq present] at answered
  exact runOn_query calm answered

theorem runOn_deleteDlqByJobKey_empty (jobKey : String) :
    session.runOn jsonb ddl (Client.deleteDlqByJobKey jobKey) =
      (.ok 0, session.after 1 session.db) := by
  have answered : (Statement.deleteDlqByJobKey jobKey).execOn jsonb ddl (session.upcoming 0).now
      session.db = (.ok (0 : Nat), { session.db with dlq := .ok .empty }) := by
    simp only [Statement.execOn, Statement.exec, present]
    rfl
  rw [Database.with_dlq present] at answered
  exact runOn_single calm answered

/-- There is nothing to list, and a page that cannot be is refused by either table. -/
theorem runOn_listDlqJobs_empty (filter : DlqFilter) :
    ∃ result sent, ∀ ddl, session.runOn jsonb ddl (Client.listDlqJobs filter) =
      (result, session.after sent session.db) := by
  have refused : ∀ error, (∀ ddl, (Statement.listDlqJobs filter).execOn jsonb ddl
      (session.upcoming 0).now session.db = (.error error, session.db)) →
      ∃ result sent, ∀ ddl, session.runOn jsonb ddl (Client.listDlqJobs filter) =
        (result, session.after sent session.db) := fun error answered =>
    ⟨_, 1, fun ddl => runOn_query_refused calm (answered ddl)⟩
  by_cases offset : filter.offset.getD 0 < 0
  · refine refused (.database "OFFSET must not be negative") fun ddl => ?_
    simp only [Statement.execOn, Statement.exec, present, offset, if_true]
  by_cases limit : filter.limit.getD 50 < 0
  · refine refused (.database "LIMIT must not be negative") fun ddl => ?_
    simp only [Statement.execOn, Statement.exec, present, limit, offset, if_true, if_false]
  refine ⟨.ok ⟨[], 0, filter.offset.getD 0, filter.limit.getD 50⟩, 2, fun ddl => ?_⟩
  have listed : (Statement.listDlqJobs filter).execOn jsonb ddl (session.upcoming 0).now
      session.db = (.ok [], session.db) := by
    simp only [Statement.execOn, Statement.exec, present, limit, offset, if_false]
    simp [DlqFilter.page, SerialTable.empty]
  have counted : (Statement.countDlqJobs filter).execOn jsonb ddl (session.upcoming 1).now
      session.db = (.ok (0 : Nat), session.db) := by
    simp only [Statement.execOn, Statement.exec, present]
    rfl
  rw [Client.listDlqJobs, runOn_query calm listed]
  exact runOn_query (calm.after 1 _) counted

/-- Without the index, `add_to_dlq` always fails, and in the same way. -/
theorem runOn_addToDlq_unwatched (unwatched : watchesKeys ddl = false) (job : Job)
    (reason : String) (lastError : Option Json) :
    (session.runOn jsonb ddl (Client.addToDlq job reason lastError)).1 =
      .error (.sqlxError noArbiter) := by
  obtain ⟨queueName, sent, -, -, ran⟩ :=
    @runOn_addToDlq jsonb ddl session calm job reason lastError
  have later : (session.after sent session.db).db.dlq = .ok .empty := present
  rw [ran, runOn_single (calm.after sent _)
    (Statement.execOn_upsertDlq_unwatched later unwatched)]
  rfl

/-- With it, `add_to_dlq` never fails in that way. -/
theorem runOn_addToDlq_watched (watched : watchesKeys ddl = true) (job : Job) (reason : String)
    (lastError : Option Json) :
    (session.runOn jsonb ddl (Client.addToDlq job reason lastError)).1 ≠
      .error (.sqlxError noArbiter) := by
  obtain ⟨queueName, sent, -, -, ran⟩ :=
    @runOn_addToDlq jsonb ddl session calm job reason lastError
  have later : (session.after sent session.db).db.dlq = .ok .empty := present
  rw [ran]
  cases stored : (job.toInsert queueName reason lastError).stored jsonb ddl with
  | ok kept =>
      rw [runOn_single (calm.after sent _)
        (Statement.execOn_upsertDlq_stored later watched stored)]
      exact fun same => nomatch same
  | error message =>
      rw [runOn_single (calm.after sent _)
        (Statement.execOn_upsertDlq_refused later watched stored)]
      intro same
      have column := DlqInsert.failsWith_stored jsonb ddl _ message stored
      exact noArbiter_ne_database column (BackfillError.sqlxError.inj (Except.error.inj same)).symm

end Session

namespace DlqOperation

open Session

variable {jsonb : Json → Bool} {session : Session} {operation : DlqOperation}
  (calm : session.Calm) (present : session.db.dlq = .ok .empty)

include calm present

/-- An operation that captures nothing has one result on both tables, and leaves the database
as it is. -/
theorem same_of_capturesNothing (nothing : operation.CapturesNothing jsonb session.db) :
    ∃ result, ∀ ddl, ddl = initDlq ∨ ddl = dlqSchemaSql →
      (session.runOn jsonb ddl operation.routine).1 = result ∧
        (session.runOn jsonb ddl operation.routine).2.db = session.db := by
  cases operation with
  | addToDlq job reason lastError => exact nothing.elim
  | processFailedJobs =>
      have none : session.db.findFailedJobs.countP (FailedJob.fits jsonb initDlq) = 0 :=
        List.countP_eq_zero.mpr fun job among => by simp [nothing job among]
      refine ⟨.ok (.moved 0), ?_⟩
      rintro ddl (rfl | rfl)
      · obtain ⟨sent, db', ran, -, idle⟩ :=
          @runOn_processFailedJobs jsonb _ _ _ calm present watchesKeys_initDlq
        rw [routine, runOn_map, ran, none]
        exact ⟨rfl, idle none⟩
      · rw [routine, runOn_map,
          runOn_processFailedJobs_unwatched calm present watchesKeys_dlqSchemaSql]
        exact ⟨rfl, rfl⟩
  | requeue dlqId notes =>
      refine ⟨.error (.dlqJobNotFound dlqId), fun ddl _ => ?_⟩
      rw [routine, runOn_map, runOn_requeueDlqJob_empty calm present]
      exact ⟨rfl, rfl⟩
  | list filter =>
      obtain ⟨result, sent, ran⟩ := @runOn_listDlqJobs_empty jsonb _ calm present filter
      refine ⟨result.map .listed, fun ddl _ => ?_⟩
      rw [routine, runOn_map, ran ddl]
      exact ⟨rfl, rfl⟩
  | delete dlqId =>
      refine ⟨.ok (.deleted false), fun ddl _ => ?_⟩
      rw [routine, runOn_map, runOn_deleteDlqJob_empty calm present]
      exact ⟨rfl, rfl⟩
  | deleteByJobKey jobKey =>
      refine ⟨.ok (.deletedByJobKey 0), fun ddl _ => ?_⟩
      rw [routine, runOn_map, runOn_deleteDlqByJobKey_empty calm present]
      exact ⟨rfl, rfl⟩

/-- An operation that has the same result on both captures nothing. -/
theorem capturesNothing_of_same
    (same : (session.runOn jsonb initDlq operation.routine).1 =
      (session.runOn jsonb dlqSchemaSql operation.routine).1) :
    operation.CapturesNothing jsonb session.db := by
  cases operation with
  | addToDlq job reason lastError =>
      have missing := @runOn_addToDlq_unwatched jsonb _ _ calm present watchesKeys_dlqSchemaSql
        job reason lastError
      have found := @runOn_addToDlq_watched jsonb _ _ calm present watchesKeys_initDlq
        job reason lastError
      rw [routine, runOn_map, runOn_map, missing] at same
      cases added : (session.runOn jsonb initDlq (Client.addToDlq job reason lastError)).1 with
      | ok dlqJob =>
          rw [added] at same
          cases same
      | error e =>
          rw [added] at same found
          exact found (congrArg Except.error (Except.error.inj same))
  | processFailedJobs =>
      obtain ⟨sent, db', ran, -, -⟩ :=
        @runOn_processFailedJobs jsonb _ _ _ calm present watchesKeys_initDlq
      rw [routine, runOn_map, runOn_map, ran,
        runOn_processFailedJobs_unwatched calm present watchesKeys_dlqSchemaSql] at same
      have none := DlqOutcome.moved.inj (Except.ok.inj same)
      exact fun job among => Bool.eq_false_iff.mpr (List.countP_eq_zero.mp none job among)
  | requeue | list | delete | deleteByJobKey => trivial

end DlqOperation

namespace Session

variable {jsonb : Json → Bool} {db : Database}

theorem calm_ticking (clock : Nat → Timestamp) (db : Database) : (ticking clock db).Calm :=
  fun _ _ => rfl

/-- Operations that capture nothing have the same results on both tables, one after the other,
and leave the database as it is. -/
theorem history_of_capturesNothing {steps : List DlqStep} (present : db.dlq = .ok .empty)
    (nothing : ∀ step ∈ steps, step.operation.CapturesNothing jsonb db) :
    ∃ results, ∀ ddl, ddl = initDlq ∨ ddl = dlqSchemaSql →
      history jsonb ddl steps db = (results, db) := by
  induction steps with
  | nil => exact ⟨[], fun ddl _ => rfl⟩
  | cons step steps ih =>
      obtain ⟨first, later⟩ := List.forall_mem_cons.mp nothing
      obtain ⟨result, same⟩ :=
        DlqOperation.same_of_capturesNothing (calm_ticking step.clock db) present first
      obtain ⟨results, rest⟩ := ih later
      refine ⟨result :: results, fun ddl either => ?_⟩
      obtain ⟨answer, left⟩ := same ddl either
      have unchanged : (ticking step.clock db).db = db := rfl
      rw [history, answer, left, unchanged, rest ddl either]

/-- Operations that have the same results on both tables capture nothing: the first that
captured something would tell them apart. -/
theorem capturesNothing_of_history {steps : List DlqStep} (present : db.dlq = .ok .empty)
    (same : (history jsonb initDlq steps db).1 = (history jsonb dlqSchemaSql steps db).1) :
    ∀ step ∈ steps, step.operation.CapturesNothing jsonb db := by
  induction steps with
  | nil => exact fun step among => nomatch among
  | cons step steps ih =>
      obtain ⟨head, tail⟩ := List.cons.inj same
      have calm := calm_ticking step.clock db
      have first := DlqOperation.capturesNothing_of_same calm present head
      obtain ⟨result, left⟩ := DlqOperation.same_of_capturesNothing calm present first
      rw [(left initDlq (.inl rfl)).2, (left dlqSchemaSql (.inr rfl)).2] at tail
      exact List.forall_mem_cons.mpr ⟨first, ih tail⟩

/-- Operations on an empty DLQ have the same results and leave the same rows, whichever way the
table was made, exactly when they capture nothing. -/
theorem same_history_iff (jsonb : Json → Bool) (steps : List DlqStep)
    (present : db.dlq = .ok .empty) :
    (history jsonb initDlq steps db).1 = (history jsonb dlqSchemaSql steps db).1 ∧
        (history jsonb initDlq steps db).2.dlqRows =
          (history jsonb dlqSchemaSql steps db).2.dlqRows ↔
      ∀ step ∈ steps, step.operation.CapturesNothing jsonb db := by
  constructor
  · rintro ⟨same, -⟩
    exact capturesNothing_of_history present same
  · intro nothing
    obtain ⟨results, same⟩ := history_of_capturesNothing present nothing
    rw [same initDlq (.inl rfl), same dlqSchemaSql (.inr rfl)]
    exact ⟨rfl, rfl⟩

/-- Looking at an empty DLQ and scanning an empty queue. -/
def idleSteps : List DlqStep :=
  [⟨fun _ => 0, .processFailedJobs⟩, ⟨fun _ => 1, .list ⟨none, none, none, none, none, none⟩⟩]

theorem same_history_idle :
    (history (fun _ => true) initDlq idleSteps .fresh).1 =
        (history (fun _ => true) dlqSchemaSql idleSteps .fresh).1 ∧
      (history (fun _ => true) initDlq idleSteps .fresh).2.dlqRows =
        (history (fun _ => true) dlqSchemaSql idleSteps .fresh).2.dlqRows := by
  refine (@same_history_iff .fresh (fun _ => true) idleSteps rfl).mpr ?_
  intro step among
  rcases List.mem_pair.mp among with rfl | rfl
  · intro job scanned
    cases scanned
  · trivial

/-- A pass over one failed job moves it into the table of `init_dlq`, and not into that of the
script. -/
theorem pass_tells_tables_apart :
    (history (fun _ => true) initDlq [⟨fun _ => 0, .processFailedJobs⟩]
        (failedInvoice .null)).1 = [.ok (.moved 1)] ∧
      (history (fun _ => true) dlqSchemaSql [⟨fun _ => 0, .processFailedJobs⟩]
        (failedInvoice .null)).1 = [.ok (.moved 0)] ∧
      (history (fun _ => true) initDlq [⟨fun _ => 0, .processFailedJobs⟩]
        (failedInvoice .null)).2.dlqRows.length = 1 ∧
      (history (fun _ => true) dlqSchemaSql [⟨fun _ => 0, .processFailedJobs⟩]
        (failedInvoice .null)).2.dlqRows = [] := by
  exact ⟨rfl, rfl, rfl, rfl⟩

end Session

end Backfill
