import Mathlib.Algebra.BigOperators.Group.Multiset.Basic
import Mathlib.Algebra.Ring.Int.Defs
import Mathlib.Data.Nat.Cast.Basic
import Backfill.Cluster.JobFates

/-!
# What becomes of a failure

A failed job that is captured becomes one more failure on a record of the DLQ, a new one or the one
that has its key. Nothing but a delete takes failures away. So the failures on the records that are
there and on those that deletes have discarded are together the captures there have been, for each
key by itself; and these are the jobs that left the queue for the DLQ and the calls of `add_to_dlq`.
-/

namespace Backfill

/-- What a record counts for the keys that `p` selects. -/
def DlqJob.failuresOn (p : Option String → Bool) (record : DlqJob) : Int :=
  if p record.jobKey then record.failureCount else 0

/-- The failures on these records, for the keys that `p` selects. -/
def failures (p : Option String → Bool) (records : Multiset DlqJob) : Int :=
  (records.map (DlqJob.failuresOn p)).sum

@[simp] theorem failures_zero (p : Option String → Bool) : failures p 0 = 0 := rfl

/-- The failures on the records of a table. -/
theorem failures_rows (p : Option String → Bool) (table : DlqTable) :
    failures p table.rows = table.weigh (DlqJob.failuresOn p) := by
  simp [failures, SerialTable.weigh]

/-- The records a statement deletes from the DLQ, as they stood. -/
def Statement.discards (s : Statement) (fault : Option ForeignError) (db : Database) :
    List DlqJob :=
  match s, fault, db.dlq with
  | .deleteDlqJob dlqId, none, .ok table => table.rows.filter fun row => row.id = dlqId
  | .deleteDlqByJobKey jobKey, none, .ok table =>
      table.rows.filter fun row => row.jobKey = some jobKey
  | _, _, _ => []

namespace Entry

/-- The entry is a capture under one of these keys: the one the job was bound with, as its column
stores it. -/
def capturesOn (p : Option String → Bool) (entry : Entry) : Bool :=
  entry.bound?.any fun values => p (storedKey values.jobKey)

/-- The id of the record a capture has inserted. -/
def insertedId? : Entry → Option Int
  | inserted _ record => some record.id
  | _ => none

end Entry

/-- The change of the table and what was entered and discarded with it balance: in failures, for
each choice of keys, and in records. -/
structure Booked (table : DlqTable) (entries : List Entry) (discarded : List DlqJob)
    (table' : DlqTable) : Prop where
  failures : ∀ p, failures p table'.rows + failures p discarded =
    failures p table.rows + entries.countP (Entry.capturesOn p)
  records : table'.keys + (discarded.map DlqJob.id : List Int) =
    table.keys + (entries.filterMap Entry.insertedId? : List Int)
  drawn : table.nextId ≤ table'.nextId ∧
    (entries.filterMap Entry.insertedId? = [] ∨
      entries.filterMap Entry.insertedId? = [table.nextId] ∧ table.nextId < table'.nextId)

namespace Booked

variable {now : Timestamp} {table : DlqTable}

theorem refl (table : DlqTable) : Booked table [] [] table where
  failures p := by simp
  records := by simp
  drawn := ⟨le_refl _, .inl rfl⟩

theorem upserted (values : DlqInsert) (table : DlqTable) (now : Timestamp) :
    Booked table (values.entries table now) [] (values.upsertInto table now) := by
  have advances : table.nextId < (values.upsertInto table now).nextId :=
    (Int.lt_succ _).trans_eq SerialTable.nextId_upsert.symm
  have ids : (values.entries table now).filterMap Entry.insertedId? =
      if table.holds (storedKey values.jobKey) then [] else [table.nextId] := by
    unfold DlqInsert.entries
    rcases table.upserted_cases (values.draft now) (values.touch now) with
      ⟨_, -, -, -, held, -⟩ | ⟨free, copy⟩
    · have held : table.holds (storedKey values.jobKey) = true := held
      simp [held, Entry.insertedId?]
    · have free : table.holds (storedKey values.jobKey) = false := free
      have new : (values.upsertedIn table now).id = table.nextId := by
        rw [DlqInsert.upsertedIn, copy]
        rfl
      simp [free, Entry.insertedId?, new]
  refine ⟨fun p => ?_, ?_, advances.le, ?_⟩
  · have one : ((values.entries table now).countP (Entry.capturesOn p) : Int) =
        if p (storedKey values.jobKey) then 1 else 0 := by
      unfold DlqInsert.entries
      split <;> cases hit : p (storedKey values.jobKey) <;>
        simp [Entry.capturesOn, Entry.bound?, hit]
    have sum : (values.upsertInto table now).weigh (DlqJob.failuresOn p) =
        table.weigh (DlqJob.failuresOn p) + if p (storedKey values.jobKey) then 1 else 0 := by
      refine SerialTable.weigh_upsert (fun record same => ?_) rfl
      have same : record.jobKey = storedKey values.jobKey := same
      have kept : ((values.touch now).apply record).jobKey = record.jobKey := rfl
      have more : ((values.touch now).apply record).failureCount = record.failureCount + 1 := rfl
      unfold DlqJob.failuresOn
      rw [kept, more, same]
      split
      · rfl
      · rfl
    simpa [one, failures_rows] using sum
  · have keys : (values.upsertInto table now).keys =
        table.keys + if table.holds (storedKey values.jobKey) then 0 else {table.nextId} :=
      SerialTable.keys_upsert (values.draft now) (values.touch now)
    rw [keys, ids]
    split <;> simp
  · rw [ids]
    split
    · exact .inl rfl
    · exact .inr ⟨rfl, advances⟩

theorem counted (table : DlqTable) (now : Timestamp) (dlqId : Int) (notes : Option String) :
    Booked table [.counted dlqId] []
      (table.update (fun row => row.id = dlqId) (DlqJob.requeued notes now)) := by
  refine ⟨fun p => ?_, ?_, le_refl _, .inl rfl⟩
  · have sum : (table.update (fun row => row.id = dlqId) (DlqJob.requeued notes now)).weigh
        (DlqJob.failuresOn p) = table.weigh (DlqJob.failuresOn p) :=
      SerialTable.weigh_update fun _ => rfl
    simpa [failures_rows, Entry.capturesOn, Entry.bound?] using sum
  · simp [SerialTable.keys_update, Entry.insertedId?]

theorem deleted (table : DlqTable) (p : DlqJob → Bool) :
    Booked table [] (table.rows.filter p) (table.delete p) where
  failures q := by
    have sum := SerialTable.weigh_delete (w := DlqJob.failuresOn q) (t := table) p
    rw [failures_rows, failures_rows]
    simpa [Backfill.failures] using sum
  records := by simpa using SerialTable.keys_delete (t := table) p
  drawn := ⟨le_refl _, .inl rfl⟩

end Booked

namespace Statement

variable {s : Statement} {fault : Option ForeignError} {db : Database} {table : DlqTable}

/-- A statement that leaves the DLQ as it is. -/
theorem discards_of_leaves (leaves : s.LeavesDlq = true) : s.discards fault db = [] := by
  cases s <;> first
    | exact absurd leaves Bool.false_ne_true
    | rfl

/-- Every statement balances what it does to the DLQ. -/
theorem booked_answer (s : Statement) (now : Timestamp) (fault : Option ForeignError)
    (present : db.dlq = .ok table) :
    ∃ table', (s.answer now fault db).2.dlq = .ok table' ∧
      Booked table (s.entries now fault db) (s.discards fault db) table' := by
  cases fault with
  | some error =>
      refine ⟨table, present, ?_⟩
      cases s <;> exact .refl table
  | none =>
      rw [answer_none]
      cases s with
      | moveFailedJob values =>
          simp only [exec, entries, discards, Database.moveFailedJob, present]
          cases db.jobs.get? values.originalJobId with
          | none => exact ⟨_, present, .refl table⟩
          | some row => exact ⟨_, rfl, .upserted values table now⟩
      | upsertDlq values =>
          simp only [exec, entries, discards, present]
          exact ⟨_, rfl, .upserted values table now⟩
      | recordRequeue notes dlqId =>
          simp only [exec, entries, discards, present]
          exact ⟨_, rfl, .counted table now dlqId notes⟩
      | deleteDlqJob dlqId =>
          simp only [exec, entries, discards, present]
          exact ⟨_, rfl, .deleted table _⟩
      | deleteDlqByJobKey jobKey =>
          simp only [exec, entries, discards, present]
          exact ⟨_, rfl, .deleted table _⟩
      | _ =>
          rw [entries_of_leaves rfl, discards_of_leaves rfl]
          exact ⟨table, (dlq_exec rfl).trans present, .refl table⟩

/-- The statement is the insert of `add_to_dlq`, and the database takes it. -/
def files (s : Statement) (fault : Option ForeignError) (db : Database) : Bool :=
  match s, fault, db.dlq with
  | .upsertDlq _, none, .ok _ => true
  | _, _, _ => false

/-- A capture takes one job out of the queue, or it is one of `add_to_dlq`. -/
theorem countP_moved (s : Statement) (now : Timestamp) (fault : Option ForeignError)
    (db : Database) :
    (s.takes fault db).countP (fun left => left.2 = .moved) + (if s.files fault db then 1 else 0) =
      (s.entries now fault db).countP (Entry.capturesOn fun _ => true) := by
  have one : ∀ (values : DlqInsert) (table : DlqTable),
      (values.entries table now).countP (Entry.capturesOn fun _ => true) = 1 := by
    intro values table
    unfold DlqInsert.entries
    split <;> rfl
  cases fault with
  | some error => cases s <;> rfl
  | none =>
      cases s with
      | moveFailedJob values =>
          cases present : db.dlq with
          | error missing => simp [takes, files, entries, present]
          | ok table =>
              simp only [takes, files, entries, present, SerialTable.filter_id_eq]
              cases db.jobs.get? values.originalJobId with
              | none => rfl
              | some row => exact (one values table).symm
      | upsertDlq values =>
          cases present : db.dlq with
          | error missing => simp [takes, files, entries, present]
          | ok table => simpa [takes, files, entries, present] using (one values table).symm
      | recordRequeue notes dlqId =>
          cases present : db.dlq with
          | error missing => simp [takes, files, entries, present]
          | ok table => simp [takes, files, entries, present, Entry.capturesOn, Entry.bound?]
      | deleteFailedJobs => simp [takes, files, entries, Function.comp_def]
      | _ => rfl

end Statement

namespace Journal

/-- What a step enters about the DLQ. -/
def dlqEntries (j : Journal) (a : JournalAction) : List Entry :=
  (j.sends? a).toList.flatMap fun op => op.entries j.cluster.now a.fault j.db

/-- The records a step discards. -/
def discards (j : Journal) (a : JournalAction) : List DlqJob :=
  (j.sends? a).toList.flatMap fun op => op.discards a.fault j.db

/-- Whether a step is the insert of `add_to_dlq`. -/
def files (j : Journal) (a : JournalAction) : Nat :=
  if (j.sends? a).any fun op => op.files a.fault j.db then 1 else 0

/-- What a run has entered about the DLQ. -/
def dlqLog (tables : CharTables) (j : Journal) (as : List JournalAction) : Multiset Entry :=
  Transition.tally (step tables) (fun j a => (j.dlqEntries a : Multiset Entry)) j as

/-- The records that a run has discarded, as they stood. -/
def discarded (tables : CharTables) (j : Journal) (as : List JournalAction) : Multiset DlqJob :=
  Transition.tally (step tables) (fun j a => (j.discards a : Multiset DlqJob)) j as

/-- How often a run has inserted for `add_to_dlq`. -/
def filed (tables : CharTables) (j : Journal) (as : List JournalAction) : Nat :=
  Transition.tally (step tables) files j as

variable {tables : CharTables} {j j' : Journal} {a : JournalAction} {as : List JournalAction}
  {table : DlqTable}

/-- A step balances what it does to the DLQ. -/
theorem booked_step (present : j.db.dlq = .ok table) (taken : j.step tables a = some j') :
    ∃ table', j'.db.dlq = .ok table' ∧ Booked table (j.dlqEntries a) (j.discards a) table' := by
  unfold dlqEntries discards
  cases sends : j.sends? a with
  | none => exact ⟨table, (dlq_silent sends taken).trans present, .refl table⟩
  | some op =>
      rw [sends_step sends taken]
      simpa using op.booked_answer j.cluster.now a.fault present

/-- A value read off the table of the DLQ, `0` without one. -/
def ofDlq {M : Type} [Zero M] (f : DlqTable → M) (j : Journal) : M :=
  (j.db.dlq.toOption.map f).getD 0

theorem ofDlq_eq {M : Type} [Zero M] {f : DlqTable → M} (present : j.db.dlq = .ok table) :
    j.ofDlq f = f table := by
  rw [ofDlq, present]
  rfl

/-- A run balances what its steps do. -/
theorem booked_run {M : Type} [AddCommMonoid M] {ok : Journal → JournalAction → Prop}
    (f : DlqTable → M) (g : Multiset DlqJob →+ M) (h : Multiset Entry →+ M)
    (each : ∀ {table table' entries discarded}, Booked table entries discarded table' →
      f table' + g discarded = f table + h entries)
    (present : j.db.dlq = .ok table) (path : Transition.Run (step tables) ok j as j') :
    ∃ table', j'.db.dlq = .ok table' ∧
      f table' + g (discarded tables j as) = f table + h (dlqLog tables j as) := by
  have sum : j'.ofDlq f + g (discarded tables j as) = j.ofDlq f + h (dlqLog tables j as) := by
    rw [discarded, dlqLog, Transition.map_tally g, Transition.map_tally h]
    refine path.balanced (I := fun j => ∃ table, j.db.dlq = .ok table) ⟨table, present⟩ ?_ ?_
    · rintro j a j' ⟨table, present⟩ - taken
      obtain ⟨table', after, -⟩ := booked_step present taken
      exact ⟨table', after⟩
    · rintro j a j' ⟨table, present⟩ - taken
      obtain ⟨table', after, booked⟩ := booked_step present taken
      rw [ofDlq_eq present, ofDlq_eq after]
      exact each booked
  obtain ⟨table', after⟩ : ∃ table', j'.db.dlq = .ok table' :=
    path.invariant (I := fun j => ∃ table, j.db.dlq = .ok table)
      (fun _ _ _ there _ taken => by
        obtain ⟨table, present⟩ := there
        obtain ⟨table', after, -⟩ := booked_step present taken
        exact ⟨table', after⟩) ⟨table, present⟩
  rw [ofDlq_eq present, ofDlq_eq after] at sum
  exact ⟨table', after, sum⟩

/-- What leaves the queue for the DLQ with a step is captured by it. -/
theorem moved_step (j : Journal) (a : JournalAction) :
    (j.departures a).countP (fun left => left.2 = .moved) + j.files a =
      (j.dlqEntries a).countP (Entry.capturesOn fun _ => true) := by
  unfold dlqEntries files
  cases sends : j.sends? a with
  | none =>
      unfold departures
      split
      next i => simp [List.countP_flatMap, Function.comp_def]
      next => simp [sends]
  | some op =>
      rw [departures_sends sends]
      simpa using op.countP_moved j.cluster.now a.fault j.db

/-- A run inserts each record under an id of its own. -/
theorem nodup_insertedIds {ok : Journal → JournalAction → Prop} (present : j.db.dlq = .ok table)
    (path : Transition.Run (step tables) ok j as j') :
    ((dlqLog tables j as).filterMap Entry.insertedId?).Nodup ∧
      ∀ id ∈ (dlqLog tables j as).filterMap Entry.insertedId?, table.nextId ≤ id := by
  have ids : (dlqLog tables j as).filterMap Entry.insertedId? =
      Transition.tally (step tables) (fun j a =>
        ((j.dlqEntries a).filterMap Entry.insertedId? : Multiset Int)) j as :=
    Transition.map_tally (f := fun (j : Journal) a => (j.dlqEntries a : Multiset Entry))
      ⟨⟨Multiset.filterMap Entry.insertedId?, rfl⟩, Multiset.filterMap_add _⟩ j as
  rw [ids, ← ofDlq_eq (f := SerialTable.nextId) present]
  refine path.nodup_tally (I := fun j => ∃ table, j.db.dlq = .ok table) ⟨table, present⟩ ?_ ?_
  · rintro j a j' ⟨table, present⟩ taken
    obtain ⟨table', after, booked⟩ := booked_step present taken
    refine ⟨⟨table', after⟩, ?_⟩
    rw [ofDlq_eq present, ofDlq_eq after]
    exact booked.drawn.1
  · rintro j a j' ⟨table, present⟩ taken
    obtain ⟨table', after, booked⟩ := booked_step present taken
    rw [ofDlq_eq present, ofDlq_eq after]
    rcases booked.drawn.2 with none | ⟨one, advances⟩
    · exact .inl (by rw [none]; rfl)
    · exact .inr ⟨by rw [one]; rfl, advances⟩

/-- In every run the failures that the records of the DLQ count and those that the discarded ones
counted are those there were at the beginning and the captures since, for each choice of keys; the
captures are the jobs that have left the queue for the DLQ and the inserts of `add_to_dlq`; and the
records that are there and the discarded ones are, without repetition, those there were and those
that captures have inserted. -/
theorem failures_conserved {now : Timestamp} {db : Database} (present : db.dlq = .ok table)
    (path : Transition.Run (step tables) (fun _ _ => True) (initial now db) as j) :
    (∀ p, failures p j.db.dlqRows + failures p (discarded tables (initial now db) as) =
      failures p table.rows +
        (dlqLog tables (initial now db) as).countP fun entry => entry.capturesOn p) ∧
    (gone tables (initial now db) as).countP (fun left => left.2 = .moved) +
        filed tables (initial now db) as =
      (dlqLog tables (initial now db) as).countP (fun entry => entry.capturesOn fun _ => true) ∧
    (j.db.dlqRows.map DlqJob.id : Multiset Int) +
        (discarded tables (initial now db) as).map DlqJob.id =
      table.keys + (dlqLog tables (initial now db) as).filterMap Entry.insertedId? ∧
    (table.keys + (dlqLog tables (initial now db) as).filterMap Entry.insertedId?).Nodup := by
  refine ⟨fun p => ?_, ?_, ?_, ?_⟩
  · let lost : Multiset DlqJob →+ Int := ⟨⟨failures p, rfl⟩, fun a b => by simp [failures]⟩
    let captured : Multiset Entry →+ Int :=
      (Nat.castAddMonoidHom Int).comp (Multiset.countPAddMonoidHom (Entry.capturesOn p · = true))
    have counts : ∀ entries : List Entry,
        captured entries = (entries.countP (Entry.capturesOn p) : Int) := fun entries => by
      show (((entries : Multiset Entry).countP (Entry.capturesOn p · = true) : Nat) : Int) = _
      simp
    obtain ⟨table', after, sum⟩ := booked_run (fun table => failures p table.rows) lost captured
      (fun {_ _ entries _} booked => (booked.failures p).trans (by rw [counts entries]))
      present path
    rw [Database.dlqRows_ok after]
    exact sum
  · have moved : (gone tables (initial now db) as).countP (fun left => left.2 = .moved) =
        Transition.tally (step tables) (fun j a =>
          (j.departures a).countP fun left => left.2 = .moved) (initial now db) as :=
      Transition.map_tally
        (f := fun (j : Journal) a => (j.departures a : Multiset (JobRow × Exit)))
        (Multiset.countPAddMonoidHom fun left => left.2 = .moved) _ _
    have captured : (dlqLog tables (initial now db) as).countP
          (fun entry => entry.capturesOn fun _ => true) =
        Transition.tally (step tables) (fun j a =>
          (j.dlqEntries a : Multiset Entry).countP fun entry => entry.capturesOn fun _ => true)
          (initial now db) as :=
      Transition.map_tally (f := fun (j : Journal) a => (j.dlqEntries a : Multiset Entry))
        (Multiset.countPAddMonoidHom fun entry => entry.capturesOn (fun _ => true) = true) _ _
    rw [moved, captured, filed, ← Transition.tally_add]
    exact congrArg (Transition.tally (step tables) · _ _)
      (funext₂ fun j a => (moved_step j a).trans (by simp))
  · obtain ⟨table', after, sum⟩ := booked_run SerialTable.keys
      (Multiset.mapAddMonoidHom DlqJob.id)
      ⟨⟨Multiset.filterMap Entry.insertedId?, rfl⟩, Multiset.filterMap_add _⟩
      (fun booked => booked.records) present path
    rw [Database.dlqRows_ok after]
    exact sum
  · obtain ⟨once, new⟩ := nodup_insertedIds present path
    refine Multiset.nodup_add.mpr ⟨table.nodup_keys, once, ?_⟩
    refine Multiset.disjoint_left.mpr fun {id} there inserted => ?_
    obtain ⟨row, member, rfl⟩ := SerialTable.mem_keys.mp there
    exact absurd (table.id_lt row member) (not_lt.mpr (new _ inserted))

/-- A job is captured, requeued, captured again, requeued again and completed: the hook discards its
record with both failures. -/
theorem failures_conserved_failedInvoice :
    ∃ as j, Transition.Run (step .ascii) (fun _ _ => True) (initial 0 (failedInvoice .null)) as j ∧
      (discarded .ascii (initial 0 (failedInvoice .null)) as).map DlqJob.failureCount = {2} ∧
      ∀ p, failures p j.db.dlqRows +
          failures p (discarded .ascii (initial 0 (failedInvoice .null)) as) =
        failures p (SerialTable.empty : DlqTable).rows +
          (dlqLog .ascii (initial 0 (failedInvoice .null)) as).countP
            fun entry => entry.capturesOn p := by
  have path : Transition.Run (step .ascii) (fun _ _ => True) (initial 0 (failedInvoice .null))
      [.base (.start Client.processFailedJobs), .base (.send 0 none), .base (.send 0 none),
        .requeue 1 none, .requeueSend 0 none, .requeueSend 0 none, .requeueSend 0 none,
        .base (.fetch "worker" 2), .base (.fail 0 "boom" 0),
        .base (.start Client.processFailedJobs), .base (.send 1 none), .base (.send 1 none),
        .requeue 1 none, .requeueSend 1 none, .requeueSend 1 none, .requeueSend 1 none,
        .base (.fetch "worker" 3), .base (.complete 0), .hookSend 0 none] _ :=
    .of_run (by simp) rfl
  exact ⟨_, _, path, rfl, (failures_conserved rfl path).1⟩

end Journal

end Backfill
