import Backfill.Client.Capture
import Backfill.Misc.TableDdl
import Mathlib.Tactic.MkIffOfInductiveProp

/-!
# The table behind the DLQ (`client/dlq.rs`, `docs/dlq_schema.sql`)

`backfill_dlq` can be created by `init_dlq` or by the migration script that is shipped with
the documentation. Which of the two has been used decides what becomes of an insertion: it
needs an index to watch for conflicts, and its values have to fit the columns.
-/

namespace Backfill

/-- `BackfillClient::init_dlq` (`dlq.rs:149`). -/
def initDlq : TableDdl where
  columns :=
    [⟨"id", .bigint, true, some "nextval('backfill_dlq_id_seq')"⟩,
      ⟨"original_job_id", .bigint, false, none⟩,
      ⟨"task_identifier", .varchar 200, true, none⟩,
      ⟨"payload", .jsonb, true, none⟩,
      ⟨"queue_name", .varchar 100, true, some "'default'"⟩,
      ⟨"priority", .integer, true, some "0"⟩,
      ⟨"job_key", .varchar 200, false, none⟩,
      ⟨"max_attempts", .integer, false, none⟩,
      ⟨"failure_reason", .text, true, none⟩,
      ⟨"failure_count", .integer, true, some "1"⟩,
      ⟨"last_error", .jsonb, false, none⟩,
      ⟨"original_created_at", .timestamptz, false, none⟩,
      ⟨"original_run_at", .timestamptz, false, none⟩,
      ⟨"failed_at", .timestamptz, true, some "NOW()"⟩,
      ⟨"requeued_count", .integer, true, some "0"⟩,
      ⟨"last_requeued_at", .timestamptz, false, none⟩,
      ⟨"notes", .text, false, none⟩]
  primaryKey := "id"
  indexes :=
    [⟨"idx_backfill_dlq_task_identifier", [⟨"task_identifier", false⟩], false, none⟩,
      ⟨"idx_backfill_dlq_failed_at", [⟨"failed_at", true⟩], false, none⟩,
      ⟨"idx_backfill_dlq_queue_name", [⟨"queue_name", false⟩], false, none⟩,
      ⟨"idx_backfill_dlq_job_key", [⟨"job_key", false⟩], false, some (.isNotNull "job_key")⟩,
      ⟨"idx_backfill_dlq_job_key_unique", [⟨"job_key", false⟩], true,
        some (.isNotNull "job_key")⟩]

/-- The script of `docs/dlq_schema.sql`. -/
def dlqSchemaSql : TableDdl where
  columns :=
    [⟨"id", .bigint, true, some "nextval('backfill_dlq_id_seq')"⟩,
      ⟨"original_job_id", .bigint, false, none⟩,
      ⟨"task_identifier", .varchar 200, true, none⟩,
      ⟨"payload", .jsonb, true, none⟩,
      ⟨"queue_name", .varchar 100, true, some "'default'"⟩,
      ⟨"priority", .integer, true, some "0"⟩,
      ⟨"job_key", .varchar 200, false, none⟩,
      ⟨"max_attempts", .integer, false, none⟩,
      ⟨"failure_reason", .text, true, none⟩,
      ⟨"failure_count", .integer, true, some "1"⟩,
      ⟨"last_error", .jsonb, false, none⟩,
      ⟨"original_created_at", .timestamptz, false, none⟩,
      ⟨"original_run_at", .timestamptz, false, none⟩,
      ⟨"failed_at", .timestamptz, true, some "NOW()"⟩,
      ⟨"requeued_count", .integer, true, some "0"⟩,
      ⟨"last_requeued_at", .timestamptz, false, none⟩,
      ⟨"notes", .text, false, none⟩]
  primaryKey := "id"
  indexes :=
    [⟨"idx_backfill_dlq_task_identifier", [⟨"task_identifier", false⟩], false, none⟩,
      ⟨"idx_backfill_dlq_failed_at", [⟨"failed_at", true⟩], false, none⟩,
      ⟨"idx_backfill_dlq_queue_name", [⟨"queue_name", false⟩], false, none⟩,
      ⟨"idx_backfill_dlq_job_key", [⟨"job_key", false⟩], false, some (.isNotNull "job_key")⟩]

/-- The two scripts agree on the columns. -/
theorem columns_dlqSchemaSql : dlqSchemaSql.columns = initDlq.columns := rfl

/-- The columns both insertions list (`dlq.rs:574`, `dlq.rs:705`). -/
def dlqInsertColumns : List String :=
  ["original_job_id", "task_identifier", "payload", "queue_name", "priority", "job_key",
    "max_attempts", "failure_reason", "failure_count", "last_error", "original_created_at",
    "original_run_at"]

/-- The values an insertion stores, when the columns of the table take those that are bound. -/
def DlqInsert.stored (jsonb : Json → Bool) (ddl : TableDdl) (values : DlqInsert) :
    Except String DlqInsert := do
  let originalJobId ← ddl.assign "original_job_id" Column.castInteger values.originalJobId
  let taskIdentifier ← ddl.assign "task_identifier" Column.castText values.taskIdentifier
  let payload ← ddl.assign "payload" (Column.castJson jsonb) values.payload
  let queueName ← ddl.assign "queue_name" Column.castText values.queueName
  let priority ← ddl.assign "priority" Column.castInteger values.priority
  let jobKey ← ddl.assignNullable "job_key" Column.castText values.jobKey
  let maxAttempts ← ddl.assign "max_attempts" Column.castInteger values.maxAttempts
  let failureReason ← ddl.assign "failure_reason" Column.castText values.failureReason
  let _ ← ddl.assign "failure_count" Column.castInteger 1
  let lastError ← ddl.assignNullable "last_error" (Column.castJson jsonb) values.lastError
  let originalCreatedAt ←
    ddl.assign "original_created_at" Column.castTimestamp values.originalCreatedAt
  let originalRunAt ← ddl.assign "original_run_at" Column.castTimestamp values.originalRunAt
  ddl.fillDefaults dlqInsertColumns
  pure
    { originalJobId, taskIdentifier, payload, queueName, priority, jobKey, maxAttempts,
      failureReason, lastError, originalCreatedAt, originalRunAt }

/-- An insertion that is refused for its values is refused for one of its columns. -/
theorem DlqInsert.failsWith_stored (jsonb : Json → Bool) (ddl : TableDdl) (values : DlqInsert) :
    (values.stored jsonb ddl).FailsWith ColumnMessage := by
  have integer := @Column.failsWith_castInteger
  have text := @Column.failsWith_castText
  have json := @Column.failsWith_castJson Json
  have timestamp := @Column.failsWith_castTimestamp Timestamp
  unfold stored
  refine .bind (TableDdl.failsWith_assign @integer _) fun _ => ?_
  refine .bind (TableDdl.failsWith_assign @text _) fun _ => ?_
  refine .bind (TableDdl.failsWith_assign (@json · jsonb) _) fun _ => ?_
  refine .bind (TableDdl.failsWith_assign @text _) fun _ => ?_
  refine .bind (TableDdl.failsWith_assign @integer _) fun _ => ?_
  refine .bind (TableDdl.failsWith_assignNullable @text _) fun _ => ?_
  refine .bind (TableDdl.failsWith_assign @integer _) fun _ => ?_
  refine .bind (TableDdl.failsWith_assign @text _) fun _ => ?_
  refine .bind (TableDdl.failsWith_assign @integer _) fun _ => ?_
  refine .bind (TableDdl.failsWith_assignNullable (@json · jsonb) _) fun _ => ?_
  refine .bind (TableDdl.failsWith_assign @timestamp _) fun _ => ?_
  refine .bind (TableDdl.failsWith_assign @timestamp _) fun _ => ?_
  exact .bind (TableDdl.failsWith_fillDefaults _) fun _ => Except.failsWith_ok _

/-- `ON CONFLICT (job_key) WHERE job_key IS NOT NULL` finds its index. -/
def watchesKeys (ddl : TableDdl) : Bool :=
  ddl.infers ["job_key"] (some (.isNotNull "job_key"))

/-- The values are within the types and lengths of the columns, and none is `NULL` where none may
be. -/
@[mk_iff]
structure DlqInsert.FitsColumns (jsonb : Json → Bool) (values : DlqInsert) : Prop where
  originalJobId : -2 ^ 63 ≤ values.originalJobId ∧ values.originalJobId < 2 ^ 63
  taskIdentifier : NulFree values.taskIdentifier ∧ FitsVarchar 200 values.taskIdentifier
  payload : jsonb values.payload = true
  queueName : NulFree values.queueName ∧ FitsVarchar 100 values.queueName
  priority : -2 ^ 31 ≤ values.priority ∧ values.priority < 2 ^ 31
  jobKey : ∀ key ∈ values.jobKey, NulFree key ∧ FitsVarchar 200 key
  maxAttempts : -2 ^ 31 ≤ values.maxAttempts ∧ values.maxAttempts < 2 ^ 31
  failureReason : NulFree values.failureReason
  lastError : ∀ error ∈ values.lastError, jsonb error = true

theorem fillDefaults_initDlq : initDlq.fillDefaults dlqInsertColumns = .ok () := by rfl

/-- What fits is what `init_dlq` takes. -/
theorem DlqInsert.isOk_stored_initDlq {jsonb : Json → Bool} {values : DlqInsert} :
    (values.stored jsonb initDlq).isOk = true ↔ values.FitsColumns jsonb := by
  have jobKey : initDlq.column? "job_key" =
      some ⟨"job_key", .varchar 200, false, none⟩ := by rfl
  have lastError : initDlq.column? "last_error" =
      some ⟨"last_error", .jsonb, false, none⟩ := by rfl
  simp only [stored, Except.isOk_bind_iff, Except.isOk_pure, Except.exists_eq_ok_iff,
    fillDefaults_initDlq, exists_and_right, TableDdl.isOk_assignNullable jobKey rfl,
    TableDdl.isOk_assignNullable lastError rfl, fitsColumns_iff]
  simp [TableDdl.assign, TableDdl.column?, initDlq, List.find?]

/-- An insertion is stored under the job id it was bound with. -/
theorem DlqInsert.originalJobId_stored {jsonb : Json → Bool} {ddl : TableDdl}
    {values kept : DlqInsert} (stored : values.stored jsonb ddl = .ok kept) :
    kept.originalJobId = values.originalJobId := by
  simp only [DlqInsert.stored, Except.bind_eq_ok_iff] at stored
  obtain ⟨originalJobId, assigned, _, -, _, -, _, -, _, -, _, -, _, -, _, -, _, -, _, -, _, -, _, -,
    _, -, same⟩ := stored
  obtain rfl := Except.ok.inj same
  cases found : ddl.column? "original_job_id" with
  | none => simp [TableDdl.assign, found] at assigned
  | some column =>
      exact TableDdl.assign_ok (fun _ value => value) Column.castInteger_ok found assigned

/-- The values with the three texts that have a limit in the DLQ cut to it. -/
def DlqInsert.cut (values : DlqInsert) : DlqInsert :=
  { values with
    taskIdentifier := varchar 200 values.taskIdentifier
    queueName := varchar 100 values.queueName
    jobKey := storedKey values.jobKey }

/-- Cutting them before the insertion makes no difference to what is stored. -/
theorem DlqInsert.upsertInto_cut (values : DlqInsert) (table : DlqTable) (now : Timestamp) :
    values.cut.upsertInto table now = values.upsertInto table now ∧
      values.cut.upsertedIn table now = values.upsertedIn table now := by
  have draft : values.cut.draft now = values.draft now := by
    simp only [draft, cut, varchar_varchar, storedKey_storedKey]
  have touch : values.cut.touch now = values.touch now := rfl
  simp only [upsertInto, upsertedIn, draft, touch, and_self]

/-- What the columns of `init_dlq` store of values that they take. -/
theorem DlqInsert.stored_initDlq {jsonb : Json → Bool} {values kept : DlqInsert}
    (stored : values.stored jsonb initDlq = .ok kept) : kept = values.cut := by
  have text := fun {column : Column} {value kept : String} => @Column.castText_ok column value kept
  have integer := fun {column : Column} {value kept : Int} =>
    @Column.castInteger_ok column value kept
  have json := fun {column : Column} {value kept : Json} =>
    @Column.castJson_ok Json column jsonb value kept
  have timestamp := fun {column : Column} {value kept : Timestamp} =>
    @Column.castTimestamp_ok Timestamp column value kept
  simp only [DlqInsert.stored, Except.bind_eq_ok_iff] at stored
  obtain ⟨_, jobId, _, task, _, payload, _, queue, _, priority, _, key, _, attempts, _, reason,
    _, -, _, lastError, _, createdAt, _, runAt, _, -, same⟩ := stored
  obtain rfl := Except.ok.inj same
  obtain rfl := TableDdl.assign_ok (fun _ value => value) integer rfl jobId
  obtain rfl := TableDdl.assign_ok Column.storedText text rfl task
  obtain rfl := TableDdl.assign_ok (fun _ value => value) json rfl payload
  obtain rfl := TableDdl.assign_ok Column.storedText text rfl queue
  obtain rfl := TableDdl.assign_ok (fun _ value => value) integer rfl priority
  obtain rfl := TableDdl.assignNullable_ok Column.storedText text rfl key
  obtain rfl := TableDdl.assign_ok (fun _ value => value) integer rfl attempts
  obtain rfl := TableDdl.assign_ok Column.storedText text rfl reason
  obtain rfl := TableDdl.assignNullable_ok (fun _ value => value) json rfl lastError
  obtain rfl := TableDdl.assign_ok (fun _ value => value) timestamp rfl createdAt
  obtain rfl := TableDdl.assign_ok (fun _ value => value) timestamp rfl runAt
  simp only [Option.map_id']
  rfl

theorem watchesKeys_initDlq : watchesKeys initDlq = true := by decide

theorem watchesKeys_dlqSchemaSql : watchesKeys dlqSchemaSql = false := by decide

/-- What the database says of a conflict target that names no unique index. -/
def noArbiterMessage : String :=
  "there is no unique or exclusion constraint matching the ON CONFLICT specification"

/-- The error of such an insertion. -/
def noArbiter : ForeignError := .database noArbiterMessage

/-- No value of a column is refused with that message. -/
theorem noArbiter_ne_database {message : String} (column : ColumnMessage message) :
    noArbiter ≠ .database message := by
  intro same
  obtain ⟨c, first, other⟩ := column
  have letter : noArbiterMessage.toList.head? = some 't' := by simp [noArbiterMessage]
  have display : ("error returned from database: " ++ noArbiterMessage).toList =
      ("error returned from database: " ++ message).toList := by
    show noArbiter.display.toList = (ForeignError.database message).display.toList
    rw [same]
  rw [String.toList_append, String.toList_append] at display
  rw [← List.append_cancel_left display, letter] at first
  exact other (Option.some.inj first).symm

namespace Statement

/-- The meaning of a statement on a table made by `ddl`. Only the two insertions depend on it;
a move that finds no row to delete has nothing to insert. -/
def execOn (jsonb : Json → Bool) (ddl : TableDdl) (now : Timestamp) :
    (s : Statement) → Database → Reply s × Database
  | moveFailedJob values, db =>
      match db.dlq, db.jobs.get? values.originalJobId with
      | .error missing, _ => (.error missing, db)
      | .ok _, found =>
          if watchesKeys ddl then
            match found, values.stored jsonb ddl with
            | none, _ => (.ok 0, db)
            | some _, .ok stored => (moveFailedJob stored).exec now db
            | some _, .error message => (.error (.database message), db)
          else (.error noArbiter, db)
  | upsertDlq values, db =>
      match db.dlq with
      | .error missing => (.error missing, db)
      | .ok _ =>
          if watchesKeys ddl then
            match values.stored jsonb ddl with
            | .ok stored => (upsertDlq stored).exec now db
            | .error message => (.error (.database message), db)
          else (.error noArbiter, db)
  | s, db => s.exec now db

/-- The database may refuse a statement for other reasons as well. -/
def answerOn (jsonb : Json → Bool) (ddl : TableDdl) (s : Statement) (now : Timestamp)
    (fault : Option ForeignError) (db : Database) : Reply s × Database :=
  match fault with
  | some error => (.error error, db)
  | none => s.execOn jsonb ddl now db

end Statement

namespace Session

/-- Send one statement to a database whose DLQ has been made by `ddl`. -/
def execOn (jsonb : Json → Bool) (ddl : TableDdl) (s : Statement) (session : Session) :
    Statement.Reply s × Session :=
  let tick := session.upcoming 0
  let answer := s.answerOn jsonb ddl tick.now (tick.fault s) session.db
  (answer.1, session.after 1 answer.2)

/-- Run a routine there with no other writer. -/
def runOn {ε α : Type} (jsonb : Json → Bool) (ddl : TableDdl) (session : Session)
    (routine : Program Statement Statement.Reply ε α) : Except ε α × Session :=
  routine.run (execOn jsonb ddl) session

end Session

namespace Statement

variable {jsonb : Json → Bool} {ddl : TableDdl} {now : Timestamp} {db : Database}
  {table : DlqTable} {values kept : DlqInsert} {message : String}

/-- Without an index to watch, no move does anything. -/
theorem execOn_moveFailedJob_unwatched (present : db.dlq = .ok table)
    (unwatched : watchesKeys ddl = false) :
    (moveFailedJob values).execOn jsonb ddl now db = (.error noArbiter, db) := by
  simp only [execOn, present, unwatched]
  rfl

theorem execOn_upsertDlq_unwatched (present : db.dlq = .ok table)
    (unwatched : watchesKeys ddl = false) :
    (upsertDlq values).execOn jsonb ddl now db = (.error noArbiter, db) := by
  simp only [execOn, present, unwatched]
  rfl

section Watched

variable (present : db.dlq = .ok table) (watched : watchesKeys ddl = true)

include present watched

/-- A move of values that fit stores them. -/
theorem execOn_moveFailedJob_stored {row : JobRow}
    (found : db.jobs.get? values.originalJobId = some row)
    (stored : values.stored jsonb ddl = .ok kept) :
    (moveFailedJob values).execOn jsonb ddl now db = (.ok 1, db.moved now kept table) := by
  have same : db.jobs.get? kept.originalJobId = some row :=
    (DlqInsert.originalJobId_stored stored).symm ▸ found
  simp only [execOn, present, watched, found, stored, exec, Database.moveFailedJob, same]
  rfl

/-- A move of values that do not fit is refused, and the row it would have deleted stays. -/
theorem execOn_moveFailedJob_refused {row : JobRow}
    (found : db.jobs.get? values.originalJobId = some row)
    (refused : values.stored jsonb ddl = .error message) :
    (moveFailedJob values).execOn jsonb ddl now db = (.error (.database message), db) := by
  simp only [execOn, present, watched, found, refused]
  rfl

theorem execOn_upsertDlq_stored (stored : values.stored jsonb ddl = .ok kept) :
    (upsertDlq values).execOn jsonb ddl now db =
      (.ok (kept.upsertedIn table now), { db with dlq := .ok (kept.upsertInto table now) }) := by
  simp only [execOn, present, watched, stored, exec]
  rfl

theorem execOn_upsertDlq_refused (refused : values.stored jsonb ddl = .error message) :
    (upsertDlq values).execOn jsonb ddl now db = (.error (.database message), db) := by
  simp only [execOn, present, watched, refused]
  rfl

end Watched

/-- The insertion finds its index, and the columns take the values as they are bound. -/
def Fits (jsonb : Json → Bool) (ddl : TableDdl) : Statement → Prop
  | moveFailedJob values => watchesKeys ddl = true ∧ values.stored jsonb ddl = .ok values
  | upsertDlq values => watchesKeys ddl = true ∧ values.stored jsonb ddl = .ok values
  | _ => True

/-- On statements that fit, a table made by `ddl` is the table of `exec`. -/
theorem execOn_eq_exec {s : Statement} (fits : s.Fits jsonb ddl) :
    s.execOn jsonb ddl now db = s.exec now db := by
  cases s with
  | moveFailedJob values =>
      obtain ⟨watched, stored⟩ := fits
      cases present : db.dlq with
      | error missing => simp only [execOn, exec, present]
      | ok table =>
          cases found : db.jobs.get? values.originalJobId with
          | none =>
              simp only [execOn, exec, present, found, watched, Database.moveFailedJob]
              rfl
          | some row =>
              rw [execOn_moveFailedJob_stored present watched found stored]
              simp only [exec, present, Database.moveFailedJob, found]
  | upsertDlq values =>
      obtain ⟨watched, stored⟩ := fits
      cases present : db.dlq with
      | error missing => simp only [execOn, exec, present]
      | ok table =>
          rw [execOn_upsertDlq_stored present watched stored]
          simp only [exec, present]
  | _ => rfl

end Statement

/-- On a table made by `init_dlq` a statement is answered as `exec` does, or it is refused. -/
theorem Statement.answerOn_initDlq (jsonb : Json → Bool) (s : Statement) (now : Timestamp)
    (fault : Option ForeignError) (db : Database) :
    ∃ heeded, s.answerOn jsonb initDlq now fault db = s.answer now heeded db := by
  cases fault with
  | some error => exact ⟨some error, rfl⟩
  | none =>
      cases s with
      | moveFailedJob values =>
          cases present : db.dlq with
          | error missing => exact ⟨none, by simp only [answerOn, execOn, answer, exec, present]⟩
          | ok table =>
              cases found : db.jobs.get? values.originalJobId with
              | none =>
                  refine ⟨none, ?_⟩
                  simp only [answerOn, execOn, answer, exec, present, found, watchesKeys_initDlq,
                    Database.moveFailedJob]
                  rfl
              | some row =>
                  cases stored : values.stored jsonb initDlq with
                  | error message =>
                      exact ⟨some (.database message),
                        execOn_moveFailedJob_refused present watchesKeys_initDlq found stored⟩
                  | ok kept =>
                      obtain rfl := DlqInsert.stored_initDlq stored
                      refine ⟨none, (execOn_moveFailedJob_stored present watchesKeys_initDlq found
                        stored).trans ?_⟩
                      simp only [answer, exec, present, Database.moveFailedJob, found,
                        Database.moved, (values.upsertInto_cut table now).1]
                      rfl
      | upsertDlq values =>
          cases present : db.dlq with
          | error missing => exact ⟨none, by simp only [answerOn, execOn, answer, exec, present]⟩
          | ok table =>
              cases stored : values.stored jsonb initDlq with
              | error message =>
                  exact ⟨some (.database message),
                    execOn_upsertDlq_refused present watchesKeys_initDlq stored⟩
              | ok kept =>
                  obtain rfl := DlqInsert.stored_initDlq stored
                  refine ⟨none,
                    (execOn_upsertDlq_stored present watchesKeys_initDlq stored).trans ?_⟩
                  obtain ⟨into, returned⟩ := values.upsertInto_cut table now
                  simp only [answer, exec, present, into, returned]
      | _ => exact ⟨none, rfl⟩

/-- So a routine runs there as it does in a session with the same database and the same clock
that refuses the values which do not fit: what holds of `run` whatever is refused holds of
`runOn jsonb initDlq`. -/
theorem Session.runOn_initDlq (jsonb : Json → Bool) (session : Session) {ε α : Type}
    (routine : Program Statement Statement.Reply ε α) :
    ∃ heeded : Session, heeded.db = session.db ∧
      (∀ n, (heeded.upcoming n).now = (session.upcoming n).now) ∧
      (session.runOn jsonb initDlq routine).1 = (heeded.run routine).1 ∧
      (session.runOn jsonb initDlq routine).2.db = (heeded.run routine).2.db := by
  induction routine generalizing session with
  | done value => exact ⟨session, rfl, fun _ => rfl, rfl, rfl⟩
  | fail error => exact ⟨session, rfl, fun _ => rfl, rfl, rfl⟩
  | call s next ih =>
      obtain ⟨fault, same⟩ := s.answerOn_initDlq jsonb (session.upcoming 0).now
        ((session.upcoming 0).fault s) session.db
      rcases left : s.answer (session.upcoming 0).now fault session.db with ⟨reply, db⟩
      obtain ⟨later, atDb, clock, ended⟩ := ih reply (session.after 1 db)
      have here : session.runOn jsonb initDlq (.call s next) =
          (session.after 1 db).runOn jsonb initDlq (next reply) := by
        simp only [runOn, Program.run_call, execOn, same, left]
      -- the first statement is refused as `same` has it, the others as the induction has them
      let first : Tick := { now := (session.upcoming 0).now, fault := fun _ => fault }
      let heeded : Session := ⟨session.db, fun | 0 => first | n + 1 => later.upcoming n⟩
      have there : heeded.run (.call s next) = later.run (next reply) := by
        have same : later = ⟨db, later.upcoming⟩ := congrArg (Session.mk · later.upcoming) atDb
        rw [same]
        simp only [run, Program.run_call, exec, heeded, first, left]
      refine ⟨heeded, rfl, ?_, ?_⟩
      · rintro (_ | n)
        · rfl
        · exact clock n
      · rw [here, there]
        exact ended

/-- A routine all of whose statements fit runs on such a table as it does on that of `exec`. -/
theorem Session.runOn_eq_run {jsonb : Json → Bool} {ddl : TableDdl} {session : Session}
    {ε α : Type} {routine : Program Statement Statement.Reply ε α}
    (calls : routine.Calls (Statement.Fits jsonb ddl)) :
    session.runOn jsonb ddl routine = session.run routine := by
  refine Program.run_congr (fun s session fits => ?_) calls session
  cases fault : (session.upcoming 0).fault s with
  | some error => simp only [execOn, exec, Statement.answerOn, Statement.answer, fault, after]
  | none =>
      simp only [execOn, exec, Statement.answerOn, Statement.answer_none, fault,
        Statement.execOn_eq_exec fits, after]

namespace Session

variable {jsonb : Json → Bool} {ddl : TableDdl} {session : Session} {table : DlqTable}

theorem execOn_calm (calm : session.Calm) (s : Statement) :
    execOn jsonb ddl s session =
      ((s.execOn jsonb ddl (session.upcoming 0).now session.db).1,
        session.after 1 (s.execOn jsonb ddl (session.upcoming 0).now session.db).2) := by
  simp only [execOn, Statement.answerOn, calm 0 s]

/-- A query that is answered hands its rows on. -/
theorem runOn_query {s : Statement} {rows : s.Rows} {db : Database} {α : Type}
    {f : s.Rows → Client α} (calm : session.Calm)
    (answered : s.execOn jsonb ddl (session.upcoming 0).now session.db = (.ok rows, db)) :
    session.runOn jsonb ddl (Client.query s >>= f) =
      (session.after 1 db).runOn jsonb ddl (f rows) := by
  simp only [runOn, Client.query, Program.bind_call, Program.run_call, execOn_calm calm, answered,
    Program.bind_done]

/-- A query that is refused ends the routine. -/
theorem runOn_query_refused {s : Statement} {error : ForeignError} {db : Database} {α : Type}
    {f : s.Rows → Client α} (calm : session.Calm)
    (answered : s.execOn jsonb ddl (session.upcoming 0).now session.db = (.error error, db)) :
    session.runOn jsonb ddl (Client.query s >>= f) =
      (.error (.sqlxError error), session.after 1 db) := by
  simp only [runOn, Client.query, Program.bind_call, Program.run_call, execOn_calm calm, answered,
    Program.bind_fail, Program.run_fail]

/-- A routine that is a single query ends with what the query is answered. -/
theorem runOn_single {s : Statement} {reply : s.Reply} {db : Database} (calm : session.Calm)
    (answered : s.execOn jsonb ddl (session.upcoming 0).now session.db = (reply, db)) :
    session.runOn jsonb ddl (Client.query s) =
      (reply.mapError .sqlxError, session.after 1 db) := by
  rw [runOn, Client.query, Program.run_call, execOn_calm calm, answered]
  cases reply <;> rfl

/-- A move that is refused is passed over. -/
theorem runOn_moveFailedJobs_refused {job : FailedJob} {jobs : List FailedJob} {moved : Nat}
    {error : ForeignError} {db : Database} (calm : session.Calm)
    (answered : (Statement.moveFailedJob job.toInsert).execOn jsonb ddl
      (session.upcoming 0).now session.db = (.error error, db)) :
    session.runOn jsonb ddl (Client.moveFailedJobs (job :: jobs) moved) =
      (session.after 1 db).runOn jsonb ddl (Client.moveFailedJobs jobs moved) := by
  rw [runOn, Client.moveFailedJobs, Program.run_call, execOn_calm calm, answered]
  rfl

/-- A move that deletes its row counts. -/
theorem runOn_moveFailedJobs_moved {job : FailedJob} {jobs : List FailedJob} {moved : Nat}
    {db : Database} (calm : session.Calm)
    (answered : (Statement.moveFailedJob job.toInsert).execOn jsonb ddl
      (session.upcoming 0).now session.db = (.ok (1 : Nat), db)) :
    session.runOn jsonb ddl (Client.moveFailedJobs (job :: jobs) moved) =
      (session.after 1 db).runOn jsonb ddl (Client.moveFailedJobs jobs (moved + 1)) := by
  rw [runOn, Client.moveFailedJobs, Program.run_call, execOn_calm calm, answered]
  rfl

/-- Without an index to watch, a pass moves nothing. -/
theorem runOn_moveFailedJobs_unwatched (jobs : List FailedJob) (moved : Nat)
    (calm : session.Calm) (present : session.db.dlq = .ok table)
    (unwatched : watchesKeys ddl = false) :
    session.runOn jsonb ddl (Client.moveFailedJobs jobs moved) =
      (.ok moved, session.after jobs.length session.db) := by
  induction jobs generalizing session with
  | nil => rfl
  | cons job jobs ih =>
      rw [runOn_moveFailedJobs_refused calm
        (Statement.execOn_moveFailedJob_unwatched present unwatched)]
      exact ih (calm.after 1 _) present

end Session

/-- The columns of the table take what a pass would store of the job. -/
def FailedJob.fits (jsonb : Json → Bool) (ddl : TableDdl) (job : FailedJob) : Bool :=
  (job.toInsert.stored jsonb ddl).isOk

namespace Session

variable {jsonb : Json → Bool} {ddl : TableDdl} {session : Session} {table : DlqTable}

/-- A pass over a batch moves the jobs whose values fit, and passes over the others. -/
theorem runOn_moveFailedJobs (jobs : List FailedJob) (moved : Nat) (calm : session.Calm)
    (present : session.db.dlq = .ok table) (watched : watchesKeys ddl = true)
    (queued : InQueue session.db jobs) (apart : jobs.Pairwise FailedJob.Apart) :
    ∃ db', session.runOn jsonb ddl (Client.moveFailedJobs jobs moved) =
        (.ok (moved + jobs.countP (FailedJob.fits jsonb ddl)), session.after jobs.length db') ∧
      (∀ r, r ∈ db'.jobs.rows ↔ r ∈ session.db.jobs.rows ∧
        ∀ job ∈ jobs, job.fits jsonb ddl = true → r.id ≠ job.id) ∧
      (jobs.countP (FailedJob.fits jsonb ddl) = 0 → db' = session.db) := by
  induction jobs generalizing session table moved with
  | nil => exact ⟨session.db, rfl, by simp, fun _ => rfl⟩
  | cons job jobs ih =>
      obtain ⟨first, apart⟩ := List.pairwise_cons.mp apart
      obtain ⟨row, found⟩ : ∃ row, session.db.jobs.get? job.toInsert.originalJobId = some row := by
        obtain ⟨row, member, same⟩ := queued job (List.mem_cons_self ..)
        exact ⟨row, SerialTable.get?_eq_some.mpr ⟨member, same⟩⟩
      cases stored : job.toInsert.stored jsonb ddl with
      | error message =>
          have misfit : job.fits jsonb ddl = false := by simp [FailedJob.fits, stored]
          rw [runOn_moveFailedJobs_refused calm
            (Statement.execOn_moveFailedJob_refused present watched found stored)]
          have later : InQueue session.db jobs := fun other among =>
            queued other (List.mem_cons_of_mem _ among)
          obtain ⟨db', ran, rows, idle⟩ := ih moved (calm.after 1 session.db) present later apart
          have skipped : ¬ job.fits jsonb ddl = true := by simp [misfit]
          rw [List.countP_cons_of_neg skipped]
          refine ⟨db', ran, fun r => (rows r).trans ?_, idle⟩
          simp [Session.after, misfit]
      | ok kept =>
          have fit : job.fits jsonb ddl = true := by simp [FailedJob.fits, stored]
          have id : kept.originalJobId = job.id := DlqInsert.originalJobId_stored stored
          rw [runOn_moveFailedJobs_moved calm
            (Statement.execOn_moveFailedJob_stored present watched found stored)]
          have later : InQueue (session.db.moved (session.upcoming 0).now kept table) jobs := by
            intro other among
            obtain ⟨r, member, key⟩ := queued other (List.mem_cons_of_mem _ among)
            have differ := first other among
            exact ⟨r, by simpa [Database.moved, member, key, id] using differ.symm, key⟩
          obtain ⟨db', ran, rows, idle⟩ := ih (moved + 1) (calm.after 1 _) rfl later apart
          rw [List.countP_cons_of_pos fit]
          refine ⟨db', ?_, fun r => (rows r).trans ?_, fun none => absurd none (Nat.succ_ne_zero _)⟩
          · rw [← Nat.add_assoc, Nat.add_right_comm]
            exact ran
          · simp [Session.after, id, fit, and_assoc]

/-- `process_failed_jobs` on a table without the index: nothing happens. -/
theorem runOn_processFailedJobs_unwatched (calm : session.Calm)
    (present : session.db.dlq = .ok table) (unwatched : watchesKeys ddl = false) :
    session.runOn jsonb ddl Client.processFailedJobs =
      (.ok 0, session.after (session.db.findFailedJobs.length + 1) session.db) := by
  have answered : Statement.findFailedJobs.execOn jsonb ddl (session.upcoming 0).now session.db =
      (.ok session.db.findFailedJobs, session.db) := by
    simp only [Statement.execOn, Statement.exec, present]
  rw [Client.processFailedJobs, runOn_query calm answered]
  exact runOn_moveFailedJobs_unwatched _ 0 (calm.after 1 _) present unwatched

/-- `process_failed_jobs` on a table with it: the jobs of the batch that fit are moved. -/
theorem runOn_processFailedJobs (calm : session.Calm) (present : session.db.dlq = .ok table)
    (watched : watchesKeys ddl = true) :
    ∃ sent db', session.runOn jsonb ddl Client.processFailedJobs =
        (.ok (session.db.findFailedJobs.countP (FailedJob.fits jsonb ddl)),
          session.after sent db') ∧
      (∀ r, r ∈ db'.jobs.rows ↔ r ∈ session.db.jobs.rows ∧
        ∀ job ∈ session.db.findFailedJobs, job.fits jsonb ddl = true → r.id ≠ job.id) ∧
      (session.db.findFailedJobs.countP (FailedJob.fits jsonb ddl) = 0 → db' = session.db) := by
  have answered : Statement.findFailedJobs.execOn jsonb ddl (session.upcoming 0).now session.db =
      (.ok session.db.findFailedJobs, session.db) := by
    simp only [Statement.execOn, Statement.exec, present]
  rw [Client.processFailedJobs, runOn_query calm answered]
  obtain ⟨db', ran, rows, idle⟩ :=
    @runOn_moveFailedJobs jsonb ddl (session.after 1 session.db) table _ 0
      (calm.after 1 session.db) present watched (inQueue_findFailedJobs session.db)
      (Database.pairwise_findFailedJobs session.db)
  refine ⟨session.db.findFailedJobs.length + 1, db', ?_, rows, idle⟩
  rw [ran, Nat.zero_add]
  rfl

/-- `add_to_dlq` looks the queue up, if there is one, and inserts once. -/
theorem runOn_addToDlq (calm : session.Calm) (job : Job) (reason : String)
    (lastError : Option Json) :
    ∃ queueName sent, (job.jobQueueId = none → queueName = "") ∧
      (session.db.queueName? job.jobQueueId = some queueName ∨
        session.db.queueName? job.jobQueueId = none ∧ queueName ∈ ["", "default"]) ∧
      session.runOn jsonb ddl (Client.addToDlq job reason lastError) =
        (session.after sent session.db).runOn jsonb ddl
          (Client.query (.upsertDlq (job.toInsert queueName reason lastError))) := by
  unfold Client.addToDlq
  cases queued : job.jobQueueId with
  | none =>
      refine ⟨"", 0, fun _ => rfl, .inr ⟨rfl, by simp⟩, ?_⟩
      simp only [Client.queueNameFor, Program.pure_eq, Program.bind_done]
      rfl
  | some queueId =>
      have named : session.db.queueName? (some queueId) =
          (session.db.jobQueues.get? queueId).map JobQueueRow.queueName := rfl
      refine ⟨(session.db.queueName? (some queueId)).getD "default", 1, ?_, ?_, ?_⟩
      · exact fun parallel => absurd parallel (Option.some_ne_none queueId)
      · cases found : session.db.queueName? (some queueId) with
        | none => exact .inr ⟨rfl, by simp⟩
        | some name => exact .inl rfl
      · simp only [Client.queueNameFor, Program.bind_assoc, Program.pure_eq, Program.bind_done]
        exact runOn_query calm rfl

end Session

end Backfill
