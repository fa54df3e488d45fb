import Backfill.Client.Capture
import Backfill.Cluster.Journal
import Backfill.Misc.ListFacts
import Backfill.Worker.Startup

/-!
# What the counters of a DLQ row count

Two upserts, an update and two kinds of delete write `backfill_dlq`. In whatever order their
statements run, `failure_count` is the number of captures under the key of the row since the
row was inserted, and `requeued_count` the number of requeues counted since then.
-/

namespace Backfill

namespace Entry

/-- A capture has inserted the row with this id. -/
def inserts (dlqId : Int) : Entry → Bool
  | inserted _ record => record.id = dlqId
  | _ => false

/-- The entry is a capture under this key: the one the job was bound with, as its column stores
it. -/
def captures (jobKey : String) (entry : Entry) : Bool :=
  entry.bound?.any fun values => storedKey values.jobKey = some jobKey

/-- A requeue has been counted on this id. -/
def countsFor (dlqId : Int) : Entry → Bool
  | counted id => id = dlqId
  | _ => false

variable {entry : Entry} {dlqId : Int} {jobKey : String}

theorem not_captures_of_mark (mark : entry.counts = false) : entry.captures jobKey = false := by
  simp [captures, bound?_of_mark mark]

theorem not_countsFor_of_mark (mark : entry.counts = false) : entry.countsFor dlqId = false := by
  cases entry <;> first
    | rfl
    | cases mark

end Entry

/-- The log since the row with this id was inserted. -/
def sinceInserted (log : List Entry) (dlqId : Int) : List Entry :=
  ListFacts.since (Entry.inserts dlqId) log

/-- The captures under the key of a row since it was inserted; without a key there is just the
one that inserted it. -/
def failuresSince (log : List Entry) (row : DlqJob) : Nat :=
  match row.jobKey with
  | some jobKey => (sinceInserted log row.id).countP (Entry.captures jobKey)
  | none => 1

/-- The requeues counted on a row since it was inserted. -/
def requeuesSince (log : List Entry) (row : DlqJob) : Nat :=
  (sinceInserted log row.id).countP (Entry.countsFor row.id)

/-- The counters of every row are what the log says. -/
structure CountersExact (log : List Entry) (table : DlqTable) : Prop where
  known : ∀ row ∈ table.rows, ∃ entry ∈ log, entry.inserts row.id = true
  drawn : ∀ values record, .inserted values record ∈ log → record.id < table.nextId
  failures : ∀ row ∈ table.rows, row.failureCount = failuresSince log row
  requeues : ∀ row ∈ table.rows, row.requeuedCount = requeuesSince log row

namespace CountersExact

variable {now : Timestamp} {log entries : List Entry} {table table' : DlqTable} {row : DlqJob}

/-- What new entries add to the count of the failures of a row. -/
theorem failuresSince_append (entries : List Entry)
    (known : ∃ entry ∈ log, entry.inserts row.id = true) :
    failuresSince (log ++ entries) row = failuresSince log row +
      match row.jobKey with
      | some jobKey => entries.countP (Entry.captures jobKey)
      | none => 0 := by
  unfold failuresSince sinceInserted
  rw [ListFacts.since_append_of_mem known]
  cases row.jobKey with
  | some jobKey => exact List.countP_append
  | none => rfl

/-- A capture under the key of a row counts. -/
theorem failuresSince_append_of_eq {entry : Entry} {values : DlqInsert}
    (bound : entry.bound? = some values) (keyed : storedKey values.jobKey ≠ none)
    (same : row.jobKey = storedKey values.jobKey)
    (known : ∃ entry ∈ log, entry.inserts row.id = true) :
    failuresSince (log ++ [entry]) row = failuresSince log row + 1 := by
  obtain ⟨jobKey, stored⟩ := Option.ne_none_iff_exists'.mp keyed
  rw [failuresSince_append _ known, same.trans stored]
  simp [Entry.captures, bound, stored]

/-- A capture under another one does not. -/
theorem failuresSince_append_of_ne {entry : Entry} {values : DlqInsert}
    (bound : entry.bound? = some values)
    (differ : storedKey values.jobKey = none ∨ row.jobKey ≠ storedKey values.jobKey)
    (known : ∃ entry ∈ log, entry.inserts row.id = true) :
    failuresSince (log ++ [entry]) row = failuresSince log row := by
  rw [failuresSince_append _ known]
  cases present : row.jobKey with
  | none => rfl
  | some jobKey =>
      have other : storedKey values.jobKey ≠ some jobKey := fun same =>
        differ.elim (fun absent => Option.some_ne_none _ (same.symm.trans absent))
          fun differ => differ (present.trans same.symm)
      simp [Entry.captures, bound, other]

/-- What new entries add to the count of the requeues of a row. -/
theorem requeuesSince_append (entries : List Entry)
    (known : ∃ entry ∈ log, entry.inserts row.id = true) :
    requeuesSince (log ++ entries) row =
      requeuesSince log row + entries.countP (Entry.countsFor row.id) := by
  unfold requeuesSince sinceInserted
  rw [ListFacts.since_append_of_mem known]
  exact List.countP_append

theorem known_append (entries : List Entry)
    (known : ∃ entry ∈ log, entry.inserts row.id = true) :
    ∃ entry ∈ log ++ entries, entry.inserts row.id = true := by
  obtain ⟨entry, member, inserts⟩ := known
  exact ⟨entry, List.mem_append_left _ member, inserts⟩

/-- Entries that remember something else change no count. -/
theorem marks (exact : CountersExact log table)
    (silent : ∀ entry ∈ entries, entry.counts = false) : CountersExact (log ++ entries) table := by
  refine ⟨fun row member => known_append _ (exact.known row member), ?_, ?_, ?_⟩
  · intro values record among
    rcases List.mem_append.mp among with old | new
    · exact exact.drawn values record old
    · cases silent _ new
  · intro row member
    have quiet : ∀ jobKey, entries.countP (Entry.captures jobKey) = 0 := fun jobKey =>
      List.countP_eq_zero.mpr fun entry among => by
        simp [Entry.not_captures_of_mark (silent entry among)]
    rw [failuresSince_append _ (exact.known row member), exact.failures row member]
    cases row.jobKey with
    | some jobKey => simp [quiet jobKey]
    | none => rfl
  · intro row member
    have quiet : entries.countP (Entry.countsFor row.id) = 0 :=
      List.countP_eq_zero.mpr fun entry among => by
        simp [Entry.not_countsFor_of_mark (silent entry among)]
    rw [requeuesSince_append _ (exact.known row member), exact.requeues row member, quiet]
    rfl

/-- A capture that finds a row with its key. -/
theorem touched {values : DlqInsert} (exact : CountersExact log table)
    (held : table.holds (storedKey values.jobKey) = true) :
    CountersExact (log ++ [.touched values (values.upsertedIn table now)])
      (values.upsertInto table now) := by
  obtain ⟨keyed, -⟩ := SerialTable.holds_iff.mp held
  have rows : ∀ row ∈ (values.upsertInto table now).rows, ∃ old ∈ table.rows,
      row = if old.jobKey = storedKey values.jobKey then (values.touch now).apply old else old := by
    intro row member
    rcases SerialTable.mem_upsert.mp member with ⟨-, edited⟩ | ⟨free, -⟩
    · exact edited
    · exact absurd held (Bool.eq_false_iff.mp free)
  have nextId : (values.upsertInto table now).nextId = table.nextId + 1 :=
    SerialTable.nextId_upsert
  refine ⟨?_, ?_, ?_, ?_⟩
  · intro row member
    obtain ⟨old, oldMember, rfl⟩ := rows row member
    have before := known_append [.touched values (values.upsertedIn table now)]
      (exact.known old oldMember)
    split <;> exact before
  · intro bound record among
    have old : .inserted bound record ∈ log := by simpa using among
    have below := exact.drawn bound record old
    omega
  · intro row member
    obtain ⟨old, oldMember, rfl⟩ := rows row member
    have counted := exact.failures old oldMember
    split
    next same =>
      have more : ((values.touch now).apply old).failureCount = old.failureCount + 1 := rfl
      have logged : failuresSince (log ++ [.touched values (values.upsertedIn table now)])
          ((values.touch now).apply old) = failuresSince log old + 1 :=
        failuresSince_append_of_eq rfl keyed same (exact.known old oldMember)
      rw [more, counted, logged]
      rfl
    next differ =>
      rw [failuresSince_append_of_ne rfl (.inr differ) (exact.known old oldMember)]
      exact counted
  · intro row member
    obtain ⟨old, oldMember, rfl⟩ := rows row member
    have counted := exact.requeues old oldMember
    split
    · have known : ∃ entry ∈ log, entry.inserts ((values.touch now).apply old).id = true :=
        exact.known old oldMember
      rw [requeuesSince_append _ known]
      exact counted
    · rw [requeuesSince_append _ (exact.known old oldMember)]
      exact counted

/-- A capture that finds none: the log of the new row starts with it. -/
theorem inserted {values : DlqInsert} (exact : CountersExact log table)
    (free : table.holds (storedKey values.jobKey) = false) :
    CountersExact (log ++ [.inserted values (values.upsertedIn table now)])
      (values.upsertInto table now) := by
  have record : values.upsertedIn table now = (values.draft now).row table.nextId := by
    rcases table.upserted_cases (values.draft now) (values.touch now) with
      ⟨_, -, -, -, held, -⟩ | ⟨-, copy⟩
    · exact absurd held (Bool.eq_false_iff.mp free)
    · exact copy
  have rows : ∀ row ∈ (values.upsertInto table now).rows,
      (row ∈ table.rows ∧
          (storedKey values.jobKey = none ∨ row.jobKey ≠ storedKey values.jobKey)) ∨
        row = values.upsertedIn table now := by
    intro row member
    rcases SerialTable.mem_upsert.mp member with ⟨held, -⟩ | ⟨-, old | new⟩
    · exact absurd held (Bool.eq_false_iff.mp free)
    · exact .inl ⟨old, SerialTable.fresh_of_not_holds (Bool.eq_false_iff.mp free) row old⟩
    · exact .inr (new.trans record.symm)
  have nextId : (values.upsertInto table now).nextId = table.nextId + 1 :=
    SerialTable.nextId_upsert
  have drawnId : (values.upsertedIn table now).id = table.nextId := by
    rw [record]
    rfl
  -- the id of the new row has not been inserted before
  have starts : sinceInserted (log ++ [.inserted values (values.upsertedIn table now)])
      (values.upsertedIn table now).id = [.inserted values (values.upsertedIn table now)] := by
    have unused : ∀ entry ∈ log, entry.inserts (values.upsertedIn table now).id = false := by
      intro entry among
      cases entry with
      | inserted bound old =>
          have below := exact.drawn bound old among
          simp only [Entry.inserts, decide_eq_false_iff_not]
          omega
      | _ => rfl
    unfold sinceInserted
    rw [ListFacts.since_append_of_not_mem unused]
    simp [ListFacts.since, Entry.inserts]
  refine ⟨?_, ?_, ?_, ?_⟩
  · intro row member
    rcases rows row member with ⟨old, -⟩ | rfl
    · exact known_append _ (exact.known row old)
    · exact ⟨_, List.mem_append_right _ (.head _), by simp [Entry.inserts]⟩
  · intro bound other among
    rcases List.mem_append.mp among with old | new
    · have below := exact.drawn bound other old
      omega
    · obtain ⟨-, rfl⟩ := Entry.inserted.inj (List.mem_singleton.mp new)
      omega
  · intro row member
    rcases rows row member with ⟨old, differ⟩ | rfl
    · rw [failuresSince_append_of_ne rfl differ (exact.known row old)]
      exact exact.failures row old
    · unfold failuresSince
      rw [starts]
      cases present : (values.upsertedIn table now).jobKey with
      | none => simp [record, DlqInsert.draft]
      | some jobKey =>
          have once : (values.upsertedIn table now).failureCount = 1 := by
            rw [record]
            rfl
          have bound := (values.jobKey_upsertedIn table now).1.symm.trans present
          simp [once, Entry.captures, Entry.bound?, bound]
  · intro row member
    rcases rows row member with ⟨old, -⟩ | rfl
    · rw [requeuesSince_append _ (exact.known row old)]
      exact exact.requeues row old
    · unfold requeuesSince
      rw [starts, record]
      rfl

/-- A requeue is counted, whether or not there is a row to count it on. -/
theorem counted {dlqId : Int} {notes : Option String} (exact : CountersExact log table) :
    CountersExact (log ++ [.counted dlqId])
      (table.update (fun row => row.id = dlqId) (DlqJob.requeued notes now)) := by
  refine ⟨?_, ?_, ?_, ?_⟩
  · intro row member
    obtain ⟨old, oldMember, rfl⟩ := SerialTable.mem_update.mp member
    have before := known_append [.counted dlqId] (exact.known old oldMember)
    split <;> exact before
  · intro bound record among
    exact exact.drawn bound record (by simpa using among)
  · intro row member
    obtain ⟨old, oldMember, rfl⟩ := SerialTable.mem_update.mp member
    have failures := exact.failures old oldMember
    have silent : failuresSince (log ++ [.counted dlqId]) old = failuresSince log old := by
      rw [failuresSince_append _ (exact.known old oldMember)]
      cases old.jobKey <;> rfl
    rw [← silent] at failures
    split <;> exact failures
  · intro row member
    obtain ⟨old, oldMember, rfl⟩ := SerialTable.mem_update.mp member
    have requeues := exact.requeues old oldMember
    have more := requeuesSince_append [.counted dlqId] (exact.known old oldMember)
    split
    next hit =>
      have same : requeuesSince (log ++ [.counted dlqId]) ((DlqJob.requeued notes now).apply old) =
          requeuesSince (log ++ [.counted dlqId]) old := rfl
      have one : [Entry.counted dlqId].countP (Entry.countsFor old.id) = 1 := by
        simpa [Entry.countsFor] using (of_decide_eq_true hit).symm
      rw [same, more, one]
      simp [DlqJob.requeued, requeues]
    next miss =>
      have zero : [Entry.counted dlqId].countP (Entry.countsFor old.id) = 0 := by
        have other : ¬ dlqId = old.id := fun same => miss (by simp [same])
        simp [Entry.countsFor, other]
      rw [more, zero]
      exact requeues

/-- Rows that are deleted are no longer counted. -/
theorem deleted {p : DlqJob → Bool} (exact : CountersExact log table) :
    CountersExact log (table.delete p) where
  known row member := exact.known row (SerialTable.mem_delete.mp member).1
  drawn := exact.drawn
  failures row member := exact.failures row (SerialTable.mem_delete.mp member).1
  requeues row member := exact.requeues row (SerialTable.mem_delete.mp member).1

/-- Every change a statement can make. -/
theorem change (exact : CountersExact log table) (change : DlqChange now table table' entries) :
    CountersExact (log ++ entries) table' := by
  cases change with
  | kept => simpa using exact
  | upserted values =>
      unfold DlqInsert.entries
      split
      next held => exact exact.touched held
      next free => exact exact.inserted (Bool.eq_false_iff.mpr free)
  | counted dlqId notes => exact exact.counted
  | deleted p => simpa using exact.deleted

end CountersExact

namespace Statement

/-- The statement captures a job, on either of the two paths. -/
def IsCapture : Statement → Prop
  | moveFailedJob _ | upsertDlq _ => True
  | _ => False

/-- The statement is the bookkeeping of a requeue. -/
def IsBookkeeping : Statement → Prop
  | recordRequeue _ _ => True
  | _ => False

variable {s : Statement} {now : Timestamp} {fault : Option ForeignError} {db : Database}
  {row : DlqJob}

/-- A capture keeps every row, with its key and what requeues have written into it. -/
theorem capture_keeps (capture : s.IsCapture) (member : row ∈ db.dlqRows) :
    ∃ row' ∈ (s.answer now fault db).2.dlqRows, row'.id = row.id ∧ row'.jobKey = row.jobKey ∧
      row'.requeuedCount = row.requeuedCount ∧ row'.lastRequeuedAt = row.lastRequeuedAt ∧
      row'.notes = row.notes := by
  cases present : db.dlq with
  | error missing => simp [Database.dlqRows, present] at member
  | ok table =>
      rw [Database.dlqRows_ok present] at member
      have upserted : ∀ values : DlqInsert, ∃ row' ∈ (values.upsertInto table now).rows,
          row'.id = row.id ∧ row'.jobKey = row.jobKey ∧ row'.requeuedCount = row.requeuedCount ∧
            row'.lastRequeuedAt = row.lastRequeuedAt ∧ row'.notes = row.notes := by
        intro values
        by_cases held : table.holds (storedKey values.jobKey) = true
        · refine ⟨_, SerialTable.mem_upsert.mpr (.inl ⟨held, row, member, rfl⟩), ?_⟩
          split <;> exact ⟨rfl, rfl, rfl, rfl, rfl⟩
        · exact ⟨row, SerialTable.mem_upsert.mpr (.inr ⟨Bool.eq_false_iff.mpr held, .inl member⟩),
            rfl, rfl, rfl, rfl, rfl⟩
      have kept : ∀ {db' : Database}, db'.dlq = .ok table → ∃ row' ∈ db'.dlqRows,
          row'.id = row.id ∧ row'.jobKey = row.jobKey ∧ row'.requeuedCount = row.requeuedCount ∧
            row'.lastRequeuedAt = row.lastRequeuedAt ∧ row'.notes = row.notes := fun same =>
        ⟨row, (Database.dlqRows_ok same).symm ▸ member, rfl, rfl, rfl, rfl, rfl⟩
      cases fault with
      | some error => exact kept present
      | none =>
          cases s with
          | moveFailedJob values =>
              rw [answer_none]
              simp only [exec, present, Database.moveFailedJob]
              cases db.jobs.get? values.originalJobId with
              | none => exact kept present
              | some found => exact upserted values
          | upsertDlq values =>
              rw [answer_none]
              simp only [exec, present]
              exact upserted values
          | _ => exact capture.elim

/-- The bookkeeping of a requeue keeps every row, with what captures have counted. -/
theorem bookkeeping_keeps (bookkeeping : s.IsBookkeeping) (member : row ∈ db.dlqRows) :
    ∃ row' ∈ (s.answer now fault db).2.dlqRows, row'.id = row.id ∧
      row'.failureCount = row.failureCount ∧ row'.failedAt = row.failedAt := by
  cases s with
  | recordRequeue notes dlqId =>
      cases fault with
      | some error => exact ⟨row, member, rfl, rfl, rfl⟩
      | none =>
          cases present : db.dlq with
          | error missing => simp [Database.dlqRows, present] at member
          | ok table =>
              rw [Database.dlqRows_ok present] at member
              simp only [answer_none, exec, present]
              refine ⟨_, SerialTable.mem_update.mpr ⟨row, member, rfl⟩, ?_⟩
              split <;> exact ⟨rfl, rfl, rfl⟩
  | _ => exact bookkeeping.elim

end Statement

namespace Journal

/-- The schema right after `init_dlq` has created an empty table. -/
def withEmptyDlq (db : Database) : Database := { db with dlq := .ok .empty }

/-- The DLQ is there and its counters are what the log says. -/
def CountersKept (j : Journal) : Prop :=
  ∃ table, j.db.dlq = .ok table ∧ CountersExact j.log table

theorem CountersKept.initial (now : Timestamp) (db : Database) :
    CountersKept (initial now (withEmptyDlq db)) :=
  ⟨.empty, rfl, by constructor <;> simp [SerialTable.empty, Journal.initial]⟩

theorem CountersKept.step {tables : CharTables} {j j' : Journal} {a : JournalAction}
    (kept : CountersKept j) (taken : j.step tables a = some j') : CountersKept j' := by
  obtain ⟨table, present, exact⟩ := kept
  obtain ⟨table', entries, marks, after, change, log, silent⟩ := dlq_step present taken
  refine ⟨table', after, ?_⟩
  rw [log, ← List.append_assoc]
  exact (exact.change change).marks silent

/-- In every run from an empty table, whatever the routines, hooks and requeues: no two rows
share a key; the counters of every row are what has happened to it since it was inserted; a
capture changes nothing a requeue has written, and the bookkeeping of a requeue nothing a
capture has. -/
theorem dlq_counters (tables : CharTables) {now : Timestamp} {db : Database}
    {as : List JournalAction} {j : Journal}
    (path : Transition.Run (step tables) (fun _ _ => True) (initial now (withEmptyDlq db)) as j) :
    (j.db.dlqRows.Pairwise fun a b => a.jobKey = none ∨ a.jobKey ≠ b.jobKey) ∧
    (∀ row ∈ j.db.dlqRows, row.failureCount = failuresSince j.log row ∧
      row.requeuedCount = requeuesSince j.log row) ∧
    ∀ a op j', j.sends? a = some op → j.step tables a = some j' → ∀ row ∈ j.db.dlqRows,
      (op.IsCapture → ∃ row' ∈ j'.db.dlqRows, row'.id = row.id ∧ row'.jobKey = row.jobKey ∧
        row'.requeuedCount = row.requeuedCount ∧ row'.lastRequeuedAt = row.lastRequeuedAt ∧
        row'.notes = row.notes) ∧
      (op.IsBookkeeping → ∃ row' ∈ j'.db.dlqRows, row'.id = row.id ∧
        row'.failureCount = row.failureCount ∧ row'.failedAt = row.failedAt) := by
  have kept : CountersKept j :=
    path.invariant (fun _ _ _ kept _ taken => kept.step taken) (.initial now db)
  obtain ⟨table, present, exact⟩ := kept
  rw [Database.dlqRows_ok present]
  refine ⟨table.apart.imp fun {a b} apart => ?_, fun row member => ?_, ?_⟩
  · by_cases keyless : a.jobKey = none
    · exact .inl keyless
    · exact .inr fun same => apart (.inr ⟨keyless, same⟩)
  · exact ⟨exact.failures row member, exact.requeues row member⟩
  · intro a op j' sends taken row member
    rw [← Database.dlqRows_ok present] at member
    rw [sends_step sends taken]
    exact ⟨fun capture => Statement.capture_keeps capture member,
      fun bookkeeping => Statement.bookkeeping_keeps bookkeeping member⟩

/-- A job is captured, requeued, and captured again: its row counts two failures and one
requeue. -/
theorem dlq_counters_failedInvoice :
    ∃ as j, Transition.Run (step .ascii) (fun _ _ => True)
        (initial 0 (withEmptyDlq (failedInvoice .null))) as j ∧
      j.db.dlqRows.map (fun row => (row.failureCount, row.requeuedCount)) = [(2, 1)] ∧
      ∀ row ∈ j.db.dlqRows, row.failureCount = failuresSince j.log row ∧
        row.requeuedCount = requeuesSince j.log row := by
  have path : Transition.Run (step .ascii) (fun _ _ => True)
      (initial 0 (withEmptyDlq (failedInvoice .null)))
      [.base (.start Client.processFailedJobs), .base (.send 0 none), .base (.send 0 none),
        .requeue 1 none, .requeueSend 0 none, .requeueSend 0 none, .requeueSend 0 none,
        .base (.fetch "worker" 2), .base (.fail 0 "boom" 0),
        .base (.start Client.processFailedJobs), .base (.send 1 none), .base (.send 1 none)] _ :=
    .of_run (by simp) rfl
  exact ⟨_, _, path, rfl, (dlq_counters .ascii path).2.1⟩

/-- A move that finds its row records it, and the log has what it did. -/
theorem exists_move (tables : CharTables) {j : Journal} {i : Nat} {values : DlqInsert}
    {table : DlqTable} (sends : j.sends? (.base (.send i none)) = some (.moveFailedJob values))
    (present : j.db.dlq = .ok table)
    (found : (j.db.jobs.get? values.originalJobId).isSome = true) :
    ∃ j', j.step tables (.base (.send i none)) = some j' ∧
      j'.db.dlq = .ok (values.upsertInto table j.cluster.now) ∧
      j'.log = j.log ++ values.entries table j.cluster.now := by
  obtain ⟨row, member⟩ := Option.isSome_iff_exists.mp found
  obtain ⟨routine, entry, next⟩ := Option.bind_eq_some_iff.mp sends
  cases routine with
  | done value => cases next
  | fail error => cases next
  | call op next' =>
      obtain rfl : op = .moveFailedJob values := Option.some.inj next
      obtain ⟨j', taken⟩ : ∃ j', j.step tables (.base (.send i none)) = some j' := by
        simp only [step, base, Cluster.step, Cluster.send, entry]
        exact ⟨_, rfl⟩
      refine ⟨j', taken, ?_, ?_⟩
      · rw [sends_step sends taken]
        simp only [JournalAction.fault, Statement.answer_none, Statement.exec, present,
          Database.moveFailedJob, member]
        rfl
      · obtain ⟨cluster, moved, rfl⟩ := base_some taken
        simp [entriesOf, entry, Program.next?, Statement.entries, Statement.written, present,
          member]

/-- Two jobs fail whose keys are one but for a blank beyond the limit of the column. Their record
counts two failures, one of them under another key. -/
theorem blanked_key_counts_twice :
    ∃ as j, Transition.Run (step .ascii) (fun _ _ => True)
        (initial 0 (withEmptyDlq Session.blankedJobs)) as j ∧
      ∃ row ∈ j.db.dlqRows, row.jobKey = some fullKey ∧ row.failureCount ≠
        (sinceInserted j.log row.id).countP fun entry =>
          entry.bound?.any fun values => values.jobKey = some fullKey := by
  obtain ⟨j, first, second, path, present, log, sends, found, firstKey, secondKey⟩ :
      ∃ j first second, Transition.Run (step .ascii) (fun _ _ => True)
          (initial 0 (withEmptyDlq Session.blankedJobs))
          [.base (.start Client.processFailedJobs), .base (.send 0 none), .base (.send 0 none)] j ∧
        j.db.dlq = .ok (first.upsertInto .empty 0) ∧
        j.log = [.inserted first ((first.draft 0).row 1)] ∧
        j.sends? (.base (.send 0 none)) = some (.moveFailedJob second) ∧
        (j.db.jobs.get? second.originalJobId).isSome = true ∧
        first.jobKey = some fullKey ∧ second.jobKey = some blankedKey :=
    ⟨_, _, _, .of_run (by simp) rfl, rfl, rfl, rfl, rfl, rfl, rfl⟩
  obtain ⟨j', taken, present', log'⟩ := exists_move .ascii sends present found
  have stored : storedKey second.jobKey = some fullKey :=
    (congrArg storedKey secondKey).trans storedKey_blankedKey
  have same : storedKey first.jobKey = storedKey second.jobKey :=
    (congrArg storedKey firstKey).trans (storedKey_fullKey.trans stored.symm)
  have keyed : storedKey second.jobKey ≠ none := stored ▸ Option.some_ne_none _
  refine ⟨_, j', path.append (.cons trivial taken (.nil _)),
    (second.touch j.cluster.now).apply ((first.draft 0).row 1), ?_, same.trans stored, ?_⟩
  · rw [Database.dlqRows_ok present', DlqInsert.rows_upsertInto_twice keyed same]
    exact .head _
  · rw [log', log, DlqInsert.entries, if_pos (DlqInsert.holds_upsertInto_empty keyed same)]
    have other : blankedKey ≠ fullKey := blankedKey_ne
    simp [sinceInserted, ListFacts.since, Entry.inserts, Entry.bound?, firstKey, secondKey,
      other, DlqInsert.touch, DlqInsert.draft]

end Journal

end Backfill
