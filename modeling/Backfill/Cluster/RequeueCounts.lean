import Backfill.Cluster.DlqCounters
import Backfill.Cluster.DoubleExecution
import Backfill.Cluster.RequeuedJobs
import Backfill.Misc.Ledger

/-!
# What `requeued_count` counts (`dlq.rs:339`)

A requeue puts its job into the queue and counts itself afterwards, in a statement of its own whose
failure it only logs. Its caller is told of success all the same. So the count of a record is the
number of the requeues that have succeeded, less the updates that were refused.
-/

namespace Backfill

/-- A requeue of this record has put a job into the queue. -/
def Entry.requeues (dlqId : Int) : Entry → Bool
  | requeued dlqJob _ => dlqJob.id = dlqId
  | _ => false

namespace Requeue

/-- A requeue of this record whose caller has been told that the job is in the queue. -/
def succeeded (dlqId : Int) (r : Requeue) : Bool :=
  match r.routine with
  | .done _ => r.dlqId = dlqId
  | _ => false

/-- A requeue of this record that has put its job into the queue and is to be counted. -/
def uncounted (dlqId : Int) (r : Requeue) : Bool :=
  match r.routine.next? with
  | some (.recordRequeue _ _) => r.dlqId = dlqId
  | _ => false

/-- What one statement makes of a requeue, with what it enters into the log. -/
inductive Served (db : Database) (r : Requeue) (op : Statement) : List Entry → Requeue → Prop
  | counted (notes : Option String) (job : Job) (is : op = .recordRequeue notes r.dlqId) :
      Served db r op [] { r with routine := .done job }
  | placed (notes : Option String) (job : Job) {dlqJob : DlqJob} {row : JobRow}
      (loaded : r.dlqJob = some dlqJob) (other : ¬ op.IsBookkeeping) :
      Served db r op [.requeued dlqJob row]
        { r with routine := .call (.recordRequeue notes r.dlqId) fun _ => .done job }
  | loads (notes : Option String) {table : DlqTable} {dlqJob : DlqJob}
      (present : db.dlq = .ok table) (member : dlqJob ∈ table.rows) (same : dlqJob.id = r.dlqId)
      (other : ¬ op.IsBookkeeping) :
      Served db r op []
        { r with dlqJob := some dlqJob, routine := Client.requeue r.dlqId notes (some dlqJob) }
  | fails (dlqJob : Option DlqJob) (error : BackfillError) (other : ¬ op.IsBookkeeping) :
      Served db r op [] { r with dlqJob := dlqJob, routine := .fail error }

/-- An enqueue that is refused ends the requeue. -/
theorem Served.refused {db : Database} {r : Requeue} {op : Statement}
    (other : ¬ op.IsBookkeeping) (dlqId : Int)
    (notes jobKey : Option String) (dlqJob : Option DlqJob) (e : ForeignError) :
    Served db r op [] { r with
      dlqJob := dlqJob
      routine := Client.enqueueOutcome jobKey (.error e) >>= Client.recordRequeue dlqId notes } := by
  unfold Client.enqueueOutcome
  cases jobKey with
  | none => exact .fails _ _ other
  | some key =>
      dsimp only
      split <;> exact .fails _ _ other

theorem served {r : Requeue} (stage : Journal.RequeueStage r) {op : Statement}
    {next : Statement.Reply op → Client Job} (calls : r.routine = .call op next) (now : Timestamp)
    (fault : Option ForeignError) (db : Database) :
    Served db r op (r.entries op (op.answer now fault db).1) { r with
      dlqJob := r.read op (op.answer now fault db).1
      routine := next (op.answer now fault db).1 } := by
  cases stage with
  | reading dlqId notes =>
      have sends : Program.call (.getDlqJob dlqId) _ = Program.call op next := calls
      cases sends
      cases fault with
      | some error => exact .fails _ _ id
      | none =>
          cases present : db.dlq with
          | error missing =>
              simp only [Statement.answer_none, Statement.exec, present]
              exact .fails _ _ id
          | ok table =>
              simp only [Statement.answer_none, Statement.exec, present]
              cases found : table.get? dlqId with
              | none => exact .fails _ _ id
              | some dlqJob =>
                  obtain ⟨member, same⟩ := SerialTable.get?_eq_some.mp found
                  exact .loads notes present member same id
  | adding dlqId notes dlqJob same =>
      have sends : Program.call (.addJob dlqJob.taskIdentifier dlqJob.payload
        dlqJob.toSpec.toGraphile) _ = Program.call op next := calls
      cases sends
      cases fault with
      | some error => exact .refused id dlqId notes dlqJob.jobKey _ error
      | none =>
          simp only [Statement.answer_none, Statement.exec]
          cases (db.addJob now _).1 with
          | none => exact .refused id dlqId notes dlqJob.jobKey _ rowNotFound
          | some row => exact .placed notes _ rfl id
  | recording dlqId notes dlqJob job =>
      cases calls
      exact .counted notes job rfl
  | ended dlqId dlqJob routine last =>
      rw [show routine = .call op next from calls] at last
      cases last

/-- How a statement moves a requeue on: from the queue to the count, from the count to its end. -/
theorem Served.moves {db : Database} {r r' : Requeue} {op : Statement}
    {next : Statement.Reply op → Client Job} {entries : List Entry}
    (served : Served db r op entries r') (calls : r.routine = .call op next)
    (loaded : ∀ dlqJob, r.dlqJob = some dlqJob → dlqJob.id = r.dlqId) (dlqId : Int) :
    entries.countP (Entry.requeues dlqId) + (if r.uncounted dlqId then 1 else 0) =
        (if r'.succeeded dlqId then 1 else 0) + (if r'.uncounted dlqId then 1 else 0) ∧
      (r'.succeeded dlqId = true ↔ ∃ notes, op = .recordRequeue notes dlqId) := by
  have waits : r.routine.next? = some op := by rw [calls, Program.next?]
  have idle : ¬ op.IsBookkeeping → r.uncounted dlqId = false := by
    intro other
    unfold uncounted
    rw [waits]
    split
    next is => exact absurd (Option.some.inj is ▸ trivial) other
    next => rfl
  have unsent : ¬ op.IsBookkeeping → ¬ ∃ notes, op = .recordRequeue notes dlqId := by
    rintro other ⟨notes, rfl⟩
    exact other trivial
  cases served with
  | counted notes job is =>
      subst is
      have waiting : r.uncounted dlqId = decide (r.dlqId = dlqId) := by simp [uncounted, waits]
      rw [waiting]
      refine ⟨by simp [succeeded, uncounted, Program.next?], ?_⟩
      simp [succeeded]
  | placed notes job read other =>
      have same := loaded _ read
      refine ⟨?_, iff_of_false (by simp [succeeded]) (unsent other)⟩
      rw [idle other]
      simp [succeeded, uncounted, Program.next?, Entry.requeues, same]
  | loads notes present member same other =>
      refine ⟨?_, iff_of_false Bool.false_ne_true (unsent other)⟩
      rw [idle other]
      rfl
  | fails dlqJob error other =>
      refine ⟨?_, iff_of_false Bool.false_ne_true (unsent other)⟩
      rw [idle other]
      rfl

/-- How far a requeue has come. One that is still to send a statement has read its record, if it
has read one, under an id that is drawn. -/
structure Staged (table : DlqTable) (r : Requeue) : Prop where
  stage : Journal.RequeueStage r
  loaded : r.routine.next? ≠ none → ∀ dlqJob, r.dlqJob = some dlqJob →
    dlqJob.id = r.dlqId ∧ r.dlqId < table.nextId
  placing : ∀ notes dlqId, r.routine.next? = some (.recordRequeue notes dlqId) → r.dlqJob ≠ none

theorem Staged.mono {table table' : DlqTable} {r : Requeue} (staged : r.Staged table)
    (grows : table.nextId ≤ table'.nextId) : r.Staged table' where
  stage := staged.stage
  loaded waits dlqJob read :=
    (staged.loaded waits dlqJob read).imp_right fun drawn => lt_of_lt_of_le drawn grows
  placing := staged.placing

/-- A statement is answered. -/
theorem Staged.answer {table : DlqTable} {r : Requeue} {op : Statement}
    {next : Statement.Reply op → Client Job} {db : Database} (staged : r.Staged table)
    (calls : r.routine = .call op next) (present : db.dlq = .ok table) (now : Timestamp)
    (fault : Option ForeignError) :
    Staged table { r with
      dlqJob := r.read op (op.answer now fault db).1
      routine := next (op.answer now fault db).1 } := by
  have stage := (staged.stage.answer calls now fault db).1
  have served := served staged.stage calls now fault db
  have waits : r.routine.next? ≠ none := by simp [calls, Program.next?]
  generalize r.entries op (op.answer now fault db).1 = entries at served
  generalize { r with
    dlqJob := r.read op (op.answer now fault db).1
    routine := next (op.answer now fault db).1 } = r' at stage served ⊢
  refine ⟨stage, ?_, ?_⟩
  · cases served with
    | counted notes job is => exact fun ends => absurd rfl ends
    | fails dlqJob error other => exact fun ends => absurd rfl ends
    | placed notes job loaded other => exact fun _ => staged.loaded waits
    | loads notes present' member same other =>
        obtain rfl := Except.ok.inj (present'.symm.trans present)
        rintro - dlqJob read
        obtain rfl := Option.some.inj read
        exact ⟨same, same ▸ SerialTable.id_lt _ _ member⟩
  · cases served with
    | counted notes job is => exact fun _ _ ends => by cases ends
    | fails dlqJob error other => exact fun _ _ ends => by cases ends
    | placed notes job loaded other => exact fun _ _ _ => by simp [loaded]
    | loads notes present' member same other => exact fun _ _ _ => Option.some_ne_none _

end Requeue

/-- The count that a statement enters. -/
theorem Statement.counted_entries {s : Statement} {now : Timestamp} {fault : Option ForeignError}
    {db : Database} {dlqId : Int} (among : .counted dlqId ∈ s.entries now fault db) :
    ∃ notes, s = .recordRequeue notes dlqId := by
  have upserted : ∀ (values : DlqInsert) (table : DlqTable),
      .counted dlqId ∉ values.entries table now := by
    intro values table among
    unfold DlqInsert.entries at among
    split at among <;> simp at among
  unfold entries at among
  split at among
  · split at among
    · exact absurd among (upserted _ _)
    · cases among
  · exact absurd among (upserted _ _)
  · obtain rfl := Entry.counted.inj (List.mem_singleton.mp among)
    exact ⟨_, rfl⟩
  · cases among

namespace Journal

/-- The record that the statement of an action is to count a requeue on. -/
def bookkeeping? (j : Journal) (a : JournalAction) : Option Int :=
  match j.sends? a with
  | some (.recordRequeue _ dlqId) => some dlqId
  | _ => none

/-- How often a step refuses the bookkeeping of a requeue of this record. -/
def refusals (dlqId : Int) (j : Journal) (a : JournalAction) : Nat :=
  if j.bookkeeping? a = some dlqId ∧ a.fault ≠ none then 1 else 0

/-- Requeues are counted by `requeue_dlq_job` alone. -/
def CountsInRequeues (_ : Journal) : JournalAction → Prop
  | .base (.start routine) => routine.Calls fun op => ¬ op.IsBookkeeping
  | _ => True

/-- The requeues of a record that have succeeded, and those that are to be counted. -/
def succeeded (j : Journal) (dlqId : Int) : Nat := j.requeues.countP (Requeue.succeeded dlqId)

def uncounted (j : Journal) (dlqId : Int) : Nat := j.requeues.countP (Requeue.uncounted dlqId)

/-- What every run keeps: a requeue that has read its record knows an id that is drawn, the rows
count what the log does, and the log has the requeues that have enqueued. -/
structure RequeueCounts (j : Journal) (table : DlqTable) : Prop where
  present : j.db.dlq = .ok table
  hooks : ∀ hook ∈ j.hooks, HookStage hook
  routines : ∀ routine ∈ j.cluster.routines, routine.Calls fun op => ¬ op.IsBookkeeping
  stages : ∀ r ∈ j.requeues, r.Staged table
  rows : ∀ row ∈ table.rows, row.requeuedCount = j.log.countP (Entry.countsFor row.id)
  drawn : ∀ dlqId, .counted dlqId ∈ j.log → dlqId < table.nextId
  placed : ∀ dlqId,
    j.log.countP (Entry.requeues dlqId) = j.succeeded dlqId + j.uncounted dlqId

namespace RequeueCounts

variable {tables : CharTables} {j j' : Journal} {a : JournalAction} {table table' : DlqTable}
  {log entries : List Entry} {now : Timestamp}

/-- The bookkeeping of a requeue is sent by a requeue that has read its record. -/
theorem sends_bookkeeping (kept : RequeueCounts j table) {notes : Option String} {dlqId : Int}
    (sends : j.sends? a = some (.recordRequeue notes dlqId)) :
    ∃ i fault, a = .requeueSend i fault ∧ dlqId < table.nextId := by
  cases a with
  | requeue dlqId notes => cases sends
  | hookSend i fault =>
      obtain ⟨hook, entry, next⟩ := Option.bind_eq_some_iff.mp sends
      cases routine : hook.routine with
      | call op next' =>
          rw [routine] at next
          obtain rfl := Option.some.inj next
          obtain ⟨_, -, other, -⟩ := (kept.hooks hook (List.mem_of_getElem? entry)).sends routine
          cases other
      | done value => simp [routine, Program.next?] at next
      | fail error => simp [routine, Program.next?] at next
  | requeueSend i fault =>
      obtain ⟨r, entry, next⟩ := Option.bind_eq_some_iff.mp sends
      have staged := kept.stages r (List.mem_of_getElem? entry)
      obtain ⟨dlqJob, read⟩ := Option.ne_none_iff_exists'.mp (staged.placing _ _ next)
      have drawn := (staged.loaded (by simp [next]) dlqJob read).2
      have same : dlqId = r.dlqId := by
        cases routine : r.routine with
        | call op next' =>
            rw [routine] at next
            obtain rfl := Option.some.inj next
            rcases (staged.stage.answer routine 0 none .fresh).2 with
              ⟨other, -⟩ | ⟨_, -, -, other⟩ | ⟨_, is⟩
            · cases other
            · cases other
            · exact (Statement.recordRequeue.inj is).2
        | done value => simp [routine, Program.next?] at next
        | fail error => simp [routine, Program.next?] at next
      exact ⟨i, fault, rfl, same ▸ drawn⟩
  | base b =>
      cases b with
      | send i fault =>
          obtain ⟨routine, entry, next⟩ := Option.bind_eq_some_iff.mp sends
          have calls := kept.routines routine (List.mem_of_getElem? entry)
          exact absurd trivial (calls.next next)
      | _ => cases sends

/-- What a change of the table does to the counts of its rows. -/
theorem rows_change (rows : ∀ row ∈ table.rows,
      row.requeuedCount = log.countP (Entry.countsFor row.id))
    (drawn : ∀ dlqId, .counted dlqId ∈ log → dlqId < table.nextId)
    (change : DlqChange now table table' entries) :
    ∀ row ∈ table'.rows, row.requeuedCount = (log ++ entries).countP (Entry.countsFor row.id) := by
  intro row member
  cases change with
  | kept => simpa using rows row member
  | deleted p => simpa using rows row (SerialTable.mem_delete.mp member).1
  | counted dlqId notes =>
      obtain ⟨old, oldMember, rfl⟩ := SerialTable.mem_update.mp member
      have before := rows old oldMember
      split
      next hit =>
        have same : dlqId = old.id := (of_decide_eq_true hit).symm
        have one : [Entry.counted dlqId].countP (Entry.countsFor old.id) = 1 := by
          simp [Entry.countsFor, same]
        show old.requeuedCount + 1 = ((log ++ _).countP (Entry.countsFor old.id) : Nat)
        rw [List.countP_append, one, before]
        rfl
      next miss =>
        have other : ¬ dlqId = old.id := fun same => miss (by simp [same])
        simp [Entry.countsFor, other, before]
  | upserted values =>
      have quiet : (values.entries table now).countP (Entry.countsFor row.id) = 0 := by
        unfold DlqInsert.entries
        split <;> rfl
      rw [List.countP_append, quiet, Nat.add_zero]
      rcases SerialTable.mem_upsert.mp member with ⟨-, old, oldMember, rfl⟩ | ⟨-, old | rfl⟩
      · split <;> exact rows old oldMember
      · exact rows row old
      · have fresh : log.countP (Entry.countsFor table.nextId) = 0 := by
          refine List.countP_eq_zero.mpr fun entry among counts => ?_
          cases entry with
          | counted dlqId =>
              have below := drawn dlqId among
              have same : dlqId = table.nextId := by simpa [Entry.countsFor] using counts
              omega
          | _ => cases counts
        show (0 : Int) = (log.countP (Entry.countsFor table.nextId) : Nat)
        rw [fresh]
        rfl

/-- A statement enters no requeue by itself. -/
theorem requeues_entries {op : Statement} {fault : Option ForeignError} {db : Database}
    {dlqId : Int} : (op.entries now fault db).countP (Entry.requeues dlqId) = 0 := by
  refine List.countP_eq_zero.mpr fun entry among requeues => ?_
  have counts := Statement.counts_entries entry among
  cases entry <;> first
    | cases requeues
    | cases counts

/-- A step that is not a requeue's enters none. -/
theorem requeues_log (taken : j.step tables a = some j') (other : ∀ i fault, a ≠ .requeueSend i fault)
    (dlqId : Int) :
    j'.log.countP (Entry.requeues dlqId) = j.log.countP (Entry.requeues dlqId) := by
  obtain ⟨more, log, entered⟩ := log_step taken
  have quiet : more.countP (Entry.requeues dlqId) = 0 := by
    refine List.countP_eq_zero.mpr fun entry among requeues => ?_
    cases entered entry among with
    | counted sends among => exact List.countP_eq_zero.mp requeues_entries entry among requeues
    | requeued found loaded calls reported => exact other _ _ rfl
    | _ => cases requeues
  rw [log, List.countP_append, quiet, Nat.add_zero]

/-- The routines after a step. -/
theorem routines_step (kept : RequeueCounts j table) (allowed : CountsInRequeues j a)
    (taken : j.step tables a = some j') :
    ∀ routine ∈ j'.cluster.routines, routine.Calls fun op => ¬ op.IsBookkeeping := by
  rcases cluster_step taken with ⟨b, rfl, moved⟩ | ⟨-, same⟩
  · intro routine among
    obtain ⟨k, entry⟩ := List.getElem?_of_mem among
    cases Cluster.routines_step moved entry with
    | kept entry => exact kept.routines routine (List.mem_of_getElem? entry)
    | started last => exact allowed
    | sent before reply =>
        have calls := kept.routines _ (List.mem_of_getElem? before)
        exact calls.2 reply
    | hooked last failed =>
        rw [Client.permanentFailureHook]
        split
        · trivial
        · exact ⟨id, fun _ => trivial⟩
  · rw [same]
    exact kept.routines

theorem bookkeeping_requeueSend {i : Nat} {r : Requeue} {op : Statement}
    {next : Statement.Reply op → Client Job} (entry : j.requeues[i]? = some r)
    (calls : r.routine = .call op next) (fault : Option ForeignError) (dlqId : Int) :
    j.bookkeeping? (.requeueSend i fault) = some dlqId ↔ ∃ notes, op = .recordRequeue notes dlqId := by
  have sends : j.sends? (.requeueSend i fault) = some op := by
    simp [sends?, entry, calls, Program.next?]
  rw [bookkeeping?, sends]
  cases op <;> simp

/-- What a step makes of the requeues. -/
theorem requeues_step (taken : j.step tables a = some j') :
    (∃ dlqId notes, a = .requeue dlqId notes ∧ j'.log = j.log ∧
      j'.requeues = j.requeues ++ [⟨dlqId, none, Client.requeueDlqJob dlqId notes⟩]) ∨
    (∃ i fault, a = .requeueSend i fault) ∨
    (∀ i fault, a ≠ .requeueSend i fault) ∧ j'.requeues = j.requeues := by
  cases a with
  | requeue dlqId notes =>
      obtain rfl := Option.some.inj taken
      exact .inl ⟨dlqId, notes, rfl, rfl, rfl⟩
  | requeueSend i fault => exact .inr (.inl ⟨i, fault, rfl⟩)
  | hookSend i fault =>
      obtain ⟨hook, op, next, -, -, rfl⟩ := hookSend_some taken
      exact .inr (.inr ⟨fun _ _ is => (by cases is), rfl⟩)
  | base b =>
      obtain ⟨cluster, moved, rfl⟩ := base_some taken
      exact .inr (.inr ⟨fun _ _ is => (by cases is), rfl⟩)

theorem silent (kept : RequeueCounts j table) (other : ∀ i fault, a ≠ .requeueSend i fault)
    (dlqId : Int) : j.bookkeeping? a ≠ some dlqId := by
  intro sends
  unfold bookkeeping? at sends
  split at sends
  next sends' =>
    obtain ⟨i, fault, rfl, -⟩ := kept.sends_bookkeeping sends'
    exact other i fault rfl
  next => cases sends

/-- The requeues after a step, how many of them have succeeded, and what the log has of them. -/
theorem requeue_step (kept : RequeueCounts j table) (taken : j.step tables a = some j')
    (grows : table.nextId ≤ table'.nextId) :
    (∀ r ∈ j'.requeues, r.Staged table') ∧
      ∀ dlqId, j'.log.countP (Entry.requeues dlqId) = j'.succeeded dlqId + j'.uncounted dlqId ∧
        j'.succeeded dlqId = j.succeeded dlqId + if j.bookkeeping? a = some dlqId then 1 else 0 := by
  have before : ∀ r ∈ j.requeues, r.Staged table' := fun r among => (kept.stages r among).mono grows
  rcases requeues_step taken with ⟨id, notes, rfl, log, more⟩ | ⟨i, fault, rfl⟩ | ⟨other, same⟩
  · rw [more]
    refine ⟨fun r among => ?_, fun dlqId => ⟨?_, ?_⟩⟩
    · rcases List.mem_append.mp among with old | new
      · exact before r old
      · obtain rfl := List.mem_singleton.mp new
        exact ⟨.reading id notes, fun _ _ read => (by cases read), fun _ _ next => by cases next⟩
    · rw [log, kept.placed, succeeded, succeeded, uncounted, uncounted, more, List.countP_append,
        List.countP_append]
      rfl
    · rw [succeeded, succeeded, more, List.countP_append]
      rfl
  · obtain ⟨r, op, next, entry, calls, rfl⟩ := requeueSend_some taken
    have staged := kept.stages r (List.mem_of_getElem? entry)
    have answered := staged.answer calls kept.present j.cluster.now fault
    have served := Requeue.served staged.stage calls j.cluster.now fault j.db
    have waits : r.routine.next? ≠ none := by simp [calls, Program.next?]
    refine ⟨fun r' among => ?_, fun dlqId => ?_⟩
    · rcases List.mem_or_eq_of_mem_set among with old | rfl
      · exact before r' old
      · exact answered.mono grows
    · obtain ⟨moves, succeeds⟩ := served.moves calls
        (fun dlqJob read => (staged.loaded waits dlqJob read).1) dlqId
      have sends := bookkeeping_requeueSend entry calls fault dlqId
      have held := kept.placed dlqId
      have running : r.succeeded dlqId = false := by simp [Requeue.succeeded, calls]
      simp only [succeeded, uncounted, List.countP_append] at held ⊢
      rw [requeues_entries, if_congr (sends.trans succeeds.symm) rfl rfl]
      generalize { r with
        dlqJob := r.read op (op.answer j.cluster.now fault j.db).1
        routine := next (op.answer j.cluster.now fault j.db).1 } = r' at moves ⊢
      have ended := ListFacts.countP_set (p := Requeue.succeeded dlqId) (b := r') entry
      have counting := ListFacts.countP_set (p := Requeue.uncounted dlqId) (b := r') entry
      rw [running, if_neg Bool.false_ne_true] at ended
      constructor
      · omega
      · omega
  · refine ⟨same ▸ before, fun dlqId => ?_⟩
    rw [requeues_log taken other, kept.placed, if_neg (kept.silent other dlqId), succeeded, succeeded,
      uncounted, uncounted, same]
    exact ⟨rfl, rfl⟩

theorem initial (now : Timestamp) (db : Database) :
    RequeueCounts (initial now (withEmptyDlq db)) .empty := by
  refine ⟨rfl, ?_, ?_, ?_, ?_, ?_, ?_⟩ <;>
    simp [Journal.initial, Cluster.initial, SerialTable.empty, succeeded, uncounted]

/-- Every step that counts requeues in requeues only. -/
theorem step (kept : RequeueCounts j table) (allowed : CountsInRequeues j a)
    (taken : j.step tables a = some j') : ∃ table', RequeueCounts j' table' ∧
      ∀ dlqId, j'.succeeded dlqId =
        j.succeeded dlqId + if j.bookkeeping? a = some dlqId then 1 else 0 := by
  obtain ⟨table', entries, marks, after, change, log, silent⟩ := dlq_step kept.present taken
  obtain ⟨stages, requeues⟩ := kept.requeue_step taken change.origin.1
  refine ⟨table', ⟨after, hooks_step kept.hooks taken, kept.routines_step allowed taken, stages,
    fun row member => ?_, fun dlqId among => ?_, fun dlqId => (requeues dlqId).1⟩,
    fun dlqId => (requeues dlqId).2⟩
  · have quiet : marks.countP (Entry.countsFor row.id) = 0 :=
      List.countP_eq_zero.mpr fun entry among => by
        simp [Entry.not_countsFor_of_mark (silent entry among)]
    rw [rows_change kept.rows kept.drawn change row member, log, ← List.append_assoc,
      @List.countP_append _ _ _ marks, quiet, Nat.add_zero]
  · obtain ⟨more, log, entered⟩ := log_step taken
    rw [log] at among
    rcases List.mem_append.mp among with old | new
    · exact lt_of_lt_of_le (kept.drawn dlqId old) change.origin.1
    · cases entered _ new with
      | counted sends among =>
          obtain ⟨notes, rfl⟩ := Statement.counted_entries among
          obtain ⟨_, _, -, below⟩ := kept.sends_bookkeeping sends
          exact lt_of_lt_of_le below change.origin.1

/-- A bookkeeping statement is entered, or refused. -/
theorem booked_requeueSend {i : Nat} {fault : Option ForeignError} (present : j.db.dlq = .ok table)
    (taken : j.step tables (.requeueSend i fault) = some j') (dlqId : Int) :
    j'.log.countP (Entry.countsFor dlqId) + refusals dlqId j (.requeueSend i fault) =
      j.log.countP (Entry.countsFor dlqId) +
        if j.bookkeeping? (.requeueSend i fault) = some dlqId then 1 else 0 := by
  obtain ⟨r, op, next, entry, calls, rfl⟩ := requeueSend_some taken
  have sends := bookkeeping_requeueSend entry calls fault dlqId
  have quiet : (r.entries op (op.answer j.cluster.now fault j.db).1).countP
      (Entry.countsFor dlqId) = 0 :=
    List.countP_eq_zero.mpr fun entry among => by
      simp [Entry.not_countsFor_of_mark (r.counts_entries entry among)]
  simp only [List.countP_append, quiet, refusals, Nat.add_zero, Nat.add_assoc]
  congr 1
  by_cases books : ∃ notes, op = .recordRequeue notes dlqId
  · rw [if_pos (sends.mpr books)]
    obtain ⟨notes, rfl⟩ := books
    cases fault with
    | some error => simp [sends, JournalAction.fault, Statement.entries]
    | none => simp [JournalAction.fault, Statement.entries, present, Entry.countsFor]
  · rw [if_neg (sends.not.mpr books), if_neg fun refused => books (sends.mp refused.1), Nat.add_zero]
    refine List.countP_eq_zero.mpr fun entry among counts => ?_
    cases entry with
    | counted id =>
        obtain rfl : id = dlqId := by simpa [Entry.countsFor] using counts
        exact books (Statement.counted_entries among)
    | _ => cases counts

theorem booked_step (kept : RequeueCounts j table) (taken : j.step tables a = some j')
    (dlqId : Int) :
    j'.log.countP (Entry.countsFor dlqId) + refusals dlqId j a =
      j.log.countP (Entry.countsFor dlqId) +
        if j.bookkeeping? a = some dlqId then 1 else 0 := by
  by_cases own : ∃ i fault, a = .requeueSend i fault
  · obtain ⟨i, fault, rfl⟩ := own
    exact booked_requeueSend kept.present taken dlqId
  · have silent := kept.silent (fun i fault is => own ⟨i, fault, is⟩) dlqId
    obtain ⟨more, log, entered⟩ := log_step taken
    have quiet : more.countP (Entry.countsFor dlqId) = 0 := by
      refine List.countP_eq_zero.mpr fun entry among counts => ?_
      cases entered entry among with
      | counted sends among =>
          cases entry with
          | counted id =>
              obtain ⟨notes, rfl⟩ := Statement.counted_entries among
              obtain ⟨i, fault, is, -⟩ := kept.sends_bookkeeping sends
              exact own ⟨i, fault, is⟩
          | _ => cases counts
      | _ => cases counts
    rw [log, List.countP_append, quiet, refusals, if_neg fun refused => silent refused.1,
      if_neg silent]

/-- What a run has entered and refused is what has succeeded in it. -/
theorem booked_run {as : List JournalAction} (kept : RequeueCounts j table)
    (path : Transition.Run (Journal.step tables) CountsInRequeues j as j') (dlqId : Int) :
    (∃ table', RequeueCounts j' table') ∧
      j'.log.countP (Entry.countsFor dlqId) +
          Transition.tally (Journal.step tables) (refusals dlqId) j as + j.succeeded dlqId =
        j.log.countP (Entry.countsFor dlqId) + j'.succeeded dlqId := by
  induction path generalizing table with
  | nil j => exact ⟨⟨table, kept⟩, rfl⟩
  | @cons j mid j' a as allowed taken rest ih =>
      obtain ⟨table', kept', succeeds⟩ := kept.step allowed taken
      obtain ⟨ends, later⟩ := ih kept'
      have booked := kept.booked_step taken dlqId
      have here := succeeds dlqId
      refine ⟨ends, ?_⟩
      rw [Transition.tally_cons taken]
      omega

end RequeueCounts

variable {tables : CharTables} {j : Journal} {as : List JournalAction}

/-- In every run from an empty table, for every record: its requeues have put as many jobs into the
queue as have succeeded or are still to be counted; and while it is in the DLQ its
`requeued_count`, together with the updates that were refused, is the number of those that have
succeeded. -/
theorem requeues_add_up {now : Timestamp} {db : Database}
    (path : Transition.Run (step tables) CountsInRequeues (initial now (withEmptyDlq db)) as j)
    (dlqId : Int) :
    j.log.countP (Entry.requeues dlqId) = j.succeeded dlqId + j.uncounted dlqId ∧
      ∀ row ∈ j.db.dlqRows, row.id = dlqId →
        row.requeuedCount +
            Transition.tally (step tables) (refusals dlqId) (initial now (withEmptyDlq db)) as =
          j.succeeded dlqId := by
  obtain ⟨⟨table, kept⟩, booked⟩ := (RequeueCounts.initial now db).booked_run path dlqId
  refine ⟨kept.placed dlqId, fun row member same => ?_⟩
  rw [Database.dlqRows_ok kept.present] at member
  rw [kept.rows row member, same]
  have none : (initial now (withEmptyDlq db)).succeeded dlqId = 0 := rfl
  have empty : (initial now (withEmptyDlq db)).log.countP (Entry.countsFor dlqId) = 0 := rfl
  omega

/-- A record is requeued twice, and the second bookkeeping is refused. -/
theorem requeues_add_up_failedInvoice :
    ∃ as j, Transition.Run (step .ascii) CountsInRequeues
        (initial 0 (withEmptyDlq (failedInvoice .null))) as j ∧ j.succeeded 1 = 2 ∧
      j.db.dlqRows.map DlqJob.requeuedCount = [1] ∧
      j.log.countP (Entry.requeues 1) = j.succeeded 1 + j.uncounted 1 ∧
      ∀ row ∈ j.db.dlqRows, row.id = 1 → row.requeuedCount +
        Transition.tally (step .ascii) (refusals 1)
          (initial 0 (withEmptyDlq (failedInvoice .null))) as = j.succeeded 1 := by
  have tick : Client.processFailedJobs.Calls fun op => ¬ op.IsBookkeeping :=
    (show Cluster.WorkerRoutine WorkerConfig.default.staleJobLockTimeout _ from .dlqTick).calls id
      (fun _ => id) (fun _ => id) id id id
  have path : Transition.Run (step .ascii) CountsInRequeues
      (initial 0 (withEmptyDlq (failedInvoice .null)))
      [.base (.start Client.processFailedJobs), .base (.send 0 none), .base (.send 0 none),
        .requeue 1 none, .requeueSend 0 none, .requeueSend 0 none, .requeueSend 0 none,
        .requeue 1 none, .requeueSend 1 none, .requeueSend 1 none,
        .requeueSend 1 (some ⟨"", ""⟩)] _ :=
    .cons tick rfl <| .cons trivial rfl <| .cons trivial rfl <| .cons trivial rfl <|
      .cons trivial rfl <| .cons trivial rfl <| .cons trivial rfl <| .cons trivial rfl <|
      .cons trivial rfl <| .cons trivial rfl <| .cons trivial rfl <| .nil _
  exact ⟨_, _, path, rfl, rfl, requeues_add_up path 1⟩

end Journal

end Backfill
