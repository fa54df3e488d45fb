import Backfill.Client.Capture
import Backfill.Client.Requeue
import Backfill.Cluster.DlqTick
import Backfill.Cluster.Rows
import Backfill.Misc.ListFacts
import Backfill.Worker.Startup

/-!
# Exactly-once capture

Several ticks may have scanned the same row; each of them sends a move for it. A move deletes
its row and upserts the DLQ in one statement, and an id does not come back once its row is
gone. So a row is taken by one of the moves at most, the others change nothing, and what the
ticks return adds up to the rows that have been taken.
-/

namespace Backfill

namespace Client

/-- The number a routine has returned. -/
def returned : Client Nat → Nat
  | .done n => n
  | _ => 0

/-- The number a tick returns when the moves it still has to send are all refused: what it has
counted so far. -/
def movedCount : Client Nat → Nat
  | .done n => n
  | .fail _ => 0
  | .call (.moveFailedJob _) next => movedCount (next (.error ⟨"", ""⟩))
  | .call _ _ => 0

@[simp] theorem movedCount_moveFailedJobs (jobs : List FailedJob) (moved : Nat) :
    movedCount (moveFailedJobs jobs moved) = moved := by
  induction jobs generalizing moved with
  | nil => rfl
  | cons job jobs ih => exact ih moved

@[simp] theorem movedCount_processFailedJobs : movedCount processFailedJobs = 0 := rfl

/-- A routine that has ended has counted what it returns. -/
theorem movedCount_of_ended {routine : Client Nat} (ended : routine.next? = none) :
    routine.movedCount = routine.returned := by
  cases routine with
  | done n => rfl
  | fail error => rfl
  | call op next => cases ended

end Client

/-- The statement is not a move. -/
def Statement.NoMove (s : Statement) : Prop := ∀ values, s ≠ .moveFailedJob values

/-- A routine that moves nothing and counts nothing. -/
structure Bystander (routine : Client Nat) : Prop where
  calls : routine.Calls Statement.NoMove
  ends : routine.Ends fun n => n = 0

namespace Bystander

/-- Any routine without moves, as a routine of the cluster. -/
theorem of_calls {α : Type} {p : Client α} (calls : p.Calls Statement.NoMove) :
    Bystander (p.attempt >>= fun _ => pure 0) where
  calls := calls.attempt.bind fun _ => trivial
  ends := .bind _ fun _ => rfl

theorem requeueRoutine (dlqId : Int) (notes : Option String) :
    Bystander (Client.requeueRoutine dlqId notes) :=
  of_calls (Client.calls_requeueDlqJob dlqId notes nofun (fun _ _ _ => nofun) nofun)

theorem staleLockCleanupRoutine (queueLockTimeout jobLockTimeout : Duration) :
    Bystander (Client.staleLockCleanupRoutine queueLockTimeout jobLockTimeout) where
  calls := Program.Calls.bind
    ((Client.calls_query nofun).attempt.bind fun _ =>
      (Client.calls_query nofun).attempt.bind fun _ => trivial) fun _ => trivial
  ends := .bind _ fun _ => rfl

theorem startupCleanupPhase (config : WorkerConfig) :
    Bystander (Client.startupCleanupPhase config) := by
  refine of_calls ((Client.calls_query nofun).bind fun _ => (Client.calls_query nofun).bind fun _ =>
    Program.Calls.bind ((Client.calls_query nofun).bind fun deleted => ?_) fun _ => trivial)
  split
  · exact ⟨nofun, fun _ => trivial⟩
  · trivial

theorem permanentFailureHook (tables : CharTables) (ctx : JobFailContext) :
    Bystander (Client.permanentFailureHook tables ctx) := by
  unfold Client.permanentFailureHook
  dsimp only
  split
  · exact ⟨trivial, rfl⟩
  · exact ⟨⟨nofun, fun _ => trivial⟩, fun _ => rfl⟩

theorem movedCount_eq {routine : Client Nat} (idle : Bystander routine) :
    routine.movedCount = 0 := by
  cases routine with
  | done n => exact idle.ends
  | fail error => rfl
  | call op next =>
      unfold Client.movedCount
      split
      next same => cases same
      next same => cases same
      next values _ same => exact absurd (Program.call.inj same).1 (idle.calls.1 values)
      next => rfl

/-- What is left of it is a bystander, too, and it captures nothing. -/
theorem send {routine rest : Client Nat} {now : Timestamp} {fault : Option ForeignError}
    {db db' : Database} {events : List Event} (idle : Bystander routine)
    (sent : routine.send now fault db = some (rest, db', events)) :
    Bystander rest ∧ events = [] := by
  cases routine with
  | done value => cases sent
  | fail error => cases sent
  | call op next =>
      obtain ⟨rfl, rfl, rfl⟩ := Client.send_call sent
      refine ⟨⟨idle.calls.2 _, idle.ends _⟩, ?_⟩
      unfold Statement.captures
      split
      · exact absurd rfl (idle.calls.1 _)
      · rfl

end Bystander

/-- A tick counts what its move has captured. -/
theorem DlqTick.movedCount_send {routine rest : Client Nat} {now : Timestamp}
    {fault : Option ForeignError} {db db' : Database} {events : List Event}
    (tick : DlqTick routine) (sent : routine.send now fault db = some (rest, db', events)) :
    rest.movedCount = routine.movedCount + events.length := by
  cases tick with
  | scan =>
      obtain ⟨rfl, rfl, ⟨error, rfl⟩ | rfl⟩ := send_processFailedJobs sent
      · rfl
      · simp
  | failed error => cases sent
  | moving jobs moved =>
      cases jobs with
      | nil => cases sent
      | cons job jobs =>
          obtain ⟨rfl, -, rfl⟩ := Client.send_call sent
          rw [Client.movedCount_moveFailedJobs]
          cases fault with
          | some error => simp [Statement.captures]
          | none =>
              cases present : db.dlq with
              | error missing => simp [Statement.exec, Statement.captures, present]
              | ok table =>
                  cases found : db.jobs.get? job.toInsert.originalJobId <;>
                    simp [Statement.exec, Statement.captures, Database.moveFailedJob, present,
                      found]

namespace Cluster

/-- The ids of the rows that moves have taken. -/
def capturedIds (s : Cluster) : List Int :=
  s.history.filterMap fun
    | .captured row _ => some row.id
    | _ => none

/-- Any step; the routines are ticks and such as move nothing. -/
def TicksAndBystanders : Action → Prop
  | .start routine => routine = Client.processFailedJobs ∨ Bystander routine
  | _ => True

/-- What the ticks have counted is what has been taken, and what has been taken is out of
circulation. -/
structure MovesCounted (s : Cluster) : Prop where
  routines : ∀ routine ∈ s.routines, DlqTick routine ∨ Bystander routine
  sum : (s.routines.map Client.movedCount).sum = s.capturedIds.length
  gone : ∀ jobId ∈ s.capturedIds, jobId < s.db.jobs.nextId ∧ ∀ r ∈ s.db.jobs.rows, r.id ≠ jobId
  nodup : s.capturedIds.Nodup

namespace MovesCounted

variable {tables : CharTables} {s s' : Cluster} {a : Action}

theorem initial (now : Timestamp) (db : Database) : MovesCounted (initial now db) := by
  constructor <;> simp [Cluster.initial, capturedIds]

/-- A step that takes nothing and adds no routine, or one that has counted nothing yet. -/
theorem of_same (inv : MovesCounted s) (taken : s.step tables a = some s')
    (same : s'.capturedIds = s.capturedIds)
    (added : ∃ more, s'.routines = s.routines ++ more ∧
      ∀ routine ∈ more, (DlqTick routine ∨ Bystander routine) ∧ routine.movedCount = 0) :
    MovesCounted s' := by
  obtain ⟨more, extended, fresh⟩ := added
  have none : (more.map Client.movedCount).sum = 0 :=
    List.sum_eq_zero_iff_forall_eq_nat.mpr fun n among => by
      obtain ⟨routine, member, rfl⟩ := List.mem_map.mp among
      exact (fresh routine member).2
  refine ⟨fun routine member => ?_, ?_, ?_, same ▸ inv.nodup⟩
  · rw [extended] at member
    exact (List.mem_append.mp member).elim (inv.routines routine) fun new => (fresh routine new).1
  · rw [extended, List.map_append, List.sum_append, none, same]
    exact inv.sum
  · rw [same]
    exact fun jobId among =>
      absent_step taken (inv.gone jobId among).1 (inv.gone jobId among).2

/-- A statement of a tick or a bystander: nothing is taken, or one row that was in the queue. -/
theorem effect {routine rest : Client Nat} {now : Timestamp} {fault : Option ForeignError}
    {db db' : Database} {events : List Event} (stage : DlqTick routine ∨ Bystander routine)
    (sent : routine.send now fault db = some (rest, db', events)) :
    (DlqTick rest ∨ Bystander rest) ∧
      rest.movedCount = routine.movedCount + events.length ∧
      (events = [] ∨ ∃ row record, events = [.captured row record] ∧ row ∈ db.jobs.rows ∧
        ∀ r ∈ db'.jobs.rows, r ∈ db.jobs.rows ∧ r.id ≠ row.id) := by
  rcases stage with tick | idle
  · obtain ⟨next, effect⟩ := tick.send sent
    refine ⟨.inl next, tick.movedCount_send sent, ?_⟩
    cases effect with
    | scanned => exact .inl rfl
    | skipped => exact .inl rfl
    | moved values row table pending member key present =>
        exact .inr ⟨row, _, rfl, member, by simp [Database.moved, key]⟩
  · obtain ⟨next, rfl⟩ := idle.send sent
    exact ⟨.inr next, by simp [next.movedCount_eq, idle.movedCount_eq], .inl rfl⟩

theorem send {i : Nat} {fault : Option ForeignError} (inv : MovesCounted s)
    (taken : s.step tables (.send i fault) = some s') : MovesCounted s' := by
  have circulation : ∀ jobId ∈ s.capturedIds,
      jobId < s'.db.jobs.nextId ∧ ∀ r ∈ s'.db.jobs.rows, r.id ≠ jobId := fun jobId among =>
    absent_step taken (inv.gone jobId among).1 (inv.gone jobId among).2
  have drawn := nextId_step taken
  obtain ⟨routine, rest, db, events, entry, answered, rfl⟩ := send_some taken
  obtain ⟨next, counted, took⟩ :=
    effect (inv.routines routine (List.mem_of_getElem? entry)) answered
  have routines : ∀ r ∈ s.routines.set i rest, DlqTick r ∨ Bystander r := by
    intro r member
    rcases List.mem_or_eq_of_mem_set member with old | rfl
    · exact inv.routines r old
    · exact next
  have before := inv.sum
  have counts : (s.routines.map Client.movedCount)[i]? = some routine.movedCount := by
    rw [List.getElem?_map, entry]
    rfl
  have shifted := ListFacts.sum_set counts (n := rest.movedCount)
  rcases took with rfl | ⟨row, record, rfl, member, gone⟩
  · have same : capturedIds { s with
        db := db, routines := s.routines.set i rest, history := s.history ++ [] } =
          s.capturedIds := by simp [capturedIds]
    refine ⟨routines, ?_, fun jobId among => circulation jobId (same ▸ among), same ▸ inv.nodup⟩
    rw [same, List.map_set]
    simp only [List.length_nil] at counted
    omega
  · have more : capturedIds { s with
        db := db
        routines := s.routines.set i rest
        history := s.history ++ [.captured row record] } = s.capturedIds ++ [row.id] := by
      simp [capturedIds]
    have fresh : row.id ∉ s.capturedIds := fun among => (inv.gone row.id among).2 row member rfl
    refine ⟨routines, ?_, ?_, ?_⟩
    · rw [more, List.map_set, List.length_append]
      simp only [List.length_cons, List.length_nil] at counted ⊢
      omega
    · rw [more]
      intro jobId among
      rcases List.mem_append.mp among with old | new
      · exact circulation jobId old
      · rw [List.mem_singleton.mp new]
        exact ⟨lt_of_lt_of_le (s.db.jobs.id_lt row member) drawn, fun r left => (gone r left).2⟩
    · rw [more]
      exact List.nodup_append.mpr ⟨inv.nodup, List.nodup_singleton _, fun a old b new same =>
        fresh (List.mem_singleton.mp new ▸ same ▸ old)⟩

/-- Every step of ticks and bystanders. -/
theorem step (inv : MovesCounted s) (allowed : TicksAndBystanders a)
    (taken : s.step tables a = some s') : MovesCounted s' := by
  cases a with
  | send i fault => exact inv.send taken
  | start routine =>
      obtain rfl := Option.some.inj taken
      refine inv.of_same taken rfl ⟨[routine], rfl, fun r member => ?_⟩
      rw [List.mem_singleton.mp member]
      rcases allowed with rfl | idle
      · exact ⟨.inl .scan, rfl⟩
      · exact ⟨.inr idle, idle.movedCount_eq⟩
  | jobFail i =>
      obtain ⟨ctx, -, rfl⟩ := Option.map_eq_some_iff.mp taken
      refine inv.of_same taken rfl ⟨[_], rfl, fun r member => ?_⟩
      rw [List.mem_singleton.mp member]
      have idle := Bystander.permanentFailureHook tables ctx
      exact ⟨.inr idle, idle.movedCount_eq⟩
  | advance micros =>
      obtain rfl := Option.some.inj taken
      exact inv.of_same taken rfl ⟨[], by simp, by simp⟩
  | fetch worker jobId =>
      obtain ⟨_, -, _, -, -, -, -, -, rfl⟩ := fetch_some taken
      exact inv.of_same taken rfl ⟨[], by simp, by simp⟩
  | complete i =>
      obtain ⟨e, -, rfl⟩ := Option.map_eq_some_iff.mp taken
      exact inv.of_same taken (by simp [capturedIds]) ⟨[], by simp, by simp⟩
  | fail i error retryAt | crash i =>
      obtain ⟨e, -, rfl⟩ := Option.map_eq_some_iff.mp taken
      exact inv.of_same taken rfl ⟨[], by simp, by simp⟩
  | enqueue job =>
      obtain rfl := Option.some.inj taken
      exact inv.of_same taken (by simp [capturedIds, enqueue]) ⟨[], by simp [enqueue], by simp⟩

end MovesCounted

/-- Any number of ticks among enqueues, executions, requeues and cleanups, in every
interleaving: no id is taken by two moves; once all routines have ended, the numbers they have
returned add up to the rows taken; and each move takes the row it was bound to and touches one
row of the DLQ, or changes nothing, because it was refused or its row is gone. -/
theorem moves_exactly_once (tables : CharTables) {now : Timestamp} {db : Database}
    {as : List Action} {s : Cluster}
    (path : Transition.Run (step tables) (fun _ a => TicksAndBystanders a) (initial now db)
      as s) :
    s.capturedIds.Nodup ∧
    ((∀ routine ∈ s.routines, routine.next? = none) →
      (s.routines.map Client.returned).sum = s.capturedIds.length) ∧
    ∀ i fault values s', s.Sends i (.moveFailedJob values) → s.send i fault = some s' →
      (s'.db = s.db ∧ s'.capturedIds = s.capturedIds ∧
        (fault = none → s.db.dlq.isOk = true →
          ∀ row ∈ s.db.jobs.rows, row.id ≠ values.originalJobId)) ∨
      ∃ row record, s'.capturedIds = s.capturedIds ++ [row.id] ∧
        TakesOnce s.now s.db s'.db values row record := by
  have inv : MovesCounted s :=
    path.invariant (fun _ _ _ inv allowed taken => inv.step allowed taken) (.initial now db)
  refine ⟨inv.nodup, fun ended => ?_, fun i fault values s' sends sent => ?_⟩
  · rw [← inv.sum]
    exact congrArg List.sum (List.map_congr_left fun routine member =>
      (Client.movedCount_of_ended (ended routine member)).symm)
  · obtain ⟨op, next, entry, rfl⟩ := send_op sent
    obtain rfl := Option.some.inj ((sends_of_entry entry).symm.trans sends)
    rcases Statement.moveFailedJob_cases values s.now fault s.db with
      ⟨same, silent⟩ | ⟨row, member, table, key, present, left, captured⟩
    · refine .inl ⟨same, by simp [capturedIds, silent], ?_⟩
      rintro rfl available row member key
      have found := SerialTable.get?_eq_some.mpr ⟨member, key⟩
      cases present : s.db.dlq with
      | error missing =>
          rw [present] at available
          cases available
      | ok table => simp [Statement.captures, present, found] at silent
    · refine .inr ⟨row, values.upsertedIn table s.now, by simp [capturedIds, captured], ?_⟩
      rw [left]
      exact .of_moved member key present

/-- Two ticks scan the same row while its record is being requeued by hand; one of them takes
it, the other finds it gone. -/
theorem moves_exactly_once_failedInvoice :
    ∃ as s, Transition.Run (step .ascii) (fun _ a => TicksAndBystanders a)
        (initial 0 (failedInvoice .null)) as s ∧ s.capturedIds = [1] ∧
      (s.routines.map Client.returned).sum = s.capturedIds.length := by
  have path : Transition.Run (step .ascii) (fun _ a => TicksAndBystanders a)
      (initial 0 (failedInvoice .null))
      [.start Client.processFailedJobs, .start Client.processFailedJobs,
        .start (Client.requeueRoutine 1 none), .send 0 none, .send 1 none, .send 1 none,
        .send 0 none, .send 2 none, .send 2 none, .send 2 none] _ :=
    .of_run (by simp [TicksAndBystanders, Bystander.requeueRoutine]) rfl
  exact ⟨_, _, path, rfl, (moves_exactly_once .ascii path).2.1 (List.forall_mem_cons.mpr ⟨rfl,
    List.forall_mem_cons.mpr ⟨rfl, List.forall_mem_cons.mpr ⟨rfl, List.forall_mem_nil _⟩⟩⟩)⟩

/-- The move has inserted a record with count 1, or raised the count of the record with the key of
the job by one. -/
def TouchesOwnKey (before after : Database) (values : DlqInsert) (record : DlqJob) : Prop :=
  record ∈ after.dlqRows ∧
    ((∀ d ∈ before.dlqRows, d.id ≠ record.id) ∧ record.failureCount = 1 ∨
      ∃ old ∈ before.dlqRows, old.id = record.id ∧ old.jobKey = values.jobKey ∧
        record.failureCount = old.failureCount + 1)

/-- A capture under `blankedKey` finds the record of `fullKey`, and no record is its own. -/
theorem not_touchesOwnKey {before after : Database} {first second : DlqInsert}
    {now later : Timestamp}
    (presentBefore : before.dlq = .ok (first.upsertInto .empty now))
    (presentAfter : after.dlq = .ok (second.upsertInto (first.upsertInto .empty now) later))
    (firstKey : first.jobKey = some fullKey) (secondKey : second.jobKey = some blankedKey) :
    ¬ ∃ record, TouchesOwnKey before after second record := by
  have stored : storedKey second.jobKey = some fullKey :=
    (congrArg storedKey secondKey).trans storedKey_blankedKey
  have same : storedKey first.jobKey = storedKey second.jobKey :=
    (congrArg storedKey firstKey).trans (storedKey_fullKey.trans stored.symm)
  rintro ⟨record, member, touches⟩
  rw [Database.dlqRows_ok presentAfter, DlqInsert.rows_upsertInto_twice (by simp [stored]) same,
    List.mem_singleton] at member
  rw [Database.dlqRows_ok presentBefore, DlqInsert.rows_upsertInto_empty] at touches
  rcases touches with ⟨new, -⟩ | ⟨old, oldMember, -, ownKey, -⟩
  · exact new _ (.head _) (member ▸ rfl)
  · rw [List.mem_singleton.mp oldMember, secondKey] at ownKey
    have other : storedKey first.jobKey = some blankedKey := ownKey
    rw [same, stored] at other
    exact blankedKey_ne (Option.some.inj other).symm

/-- Two jobs fail whose keys are one but for a blank beyond the limit of the column. The move of the
second raises the record of the first, which has the other key. -/
theorem blanked_key_raises_other :
    ∃ as s values s', Transition.Run (step .ascii) (fun _ a => TicksAndBystanders a)
        (initial 0 Session.blankedJobs) as s ∧
      s.Sends 0 (.moveFailedJob values) ∧ values.jobKey = some blankedKey ∧
      s.send 0 none = some s' ∧ s'.capturedIds = s.capturedIds ++ [2] ∧
      ¬ ∃ record, TouchesOwnKey s.db s'.db values record := by
  have path : Transition.Run (step .ascii) (fun _ a => TicksAndBystanders a)
      (initial 0 Session.blankedJobs)
      [.start Client.processFailedJobs, .send 0 none, .send 0 none] _ :=
    .of_run (by simp [TicksAndBystanders]) rfl
  exact ⟨_, _, _, _, path, rfl, rfl, rfl, rfl, not_touchesOwnKey rfl rfl rfl rfl⟩

end Cluster

end Backfill
