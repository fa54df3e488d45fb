import Backfill.Cluster.DlqTick
import Backfill.Client.Capture

/-!
# Moves that were bound to an earlier state

A tick reads a row once and moves it later, by id and with the values it has read. An
enqueue under the same key can rewrite the row in between. As long as no enqueue rewrites a
bound row, and no move meets a record of its key with another payload, every move deletes
the row it was bound to and records it.
-/

namespace Backfill

namespace Cluster

/-- DLQ ticks and enqueues. -/
def TicksAndEnqueues : Action → Prop
  | .advance _ | .enqueue _ | .send _ _ => True
  | .start routine => routine = Client.processFailedJobs
  | .fetch _ _ | .complete _ | .fail _ _ _ | .crash _ | .jobFail _ => False

/-- The rows some tick has scanned and not yet moved. -/
def boundIds (s : Cluster) : List Int :=
  s.routines.flatMap fun routine => routine.pendingMoves.map DlqInsert.originalJobId

/-- A step that leaves bound rows alone and records what it moves. -/
def KeepsBindings (s : Cluster) : Action → Prop
  -- the unlocked row an enqueue rewrites in place is not bound
  | .enqueue job => job.mode ≠ .unsafeDedupe → job.key ≠ none → ∀ row ∈ s.db.jobs.rows,
      row.lockedAt = none → row.key = job.key → row.id ∉ s.boundIds
  -- a record that already has the key of a moved row has its payload, too
  | .send i _ => ∀ values, s.Sends i (.moveFailedJob values) →
      (∃ row ∈ s.db.jobs.rows, row.id = values.originalJobId) → ∀ record ∈ s.db.dlqRows,
        record.jobKey ≠ none → record.jobKey = storedKey values.jobKey →
          record.payload = values.payload
  | _ => True

/-- Ticks and enqueues under which bindings stay current. -/
def CurrentBindings (s : Cluster) (a : Action) : Prop := TicksAndEnqueues a ∧ KeepsBindings s a

/-- What ticks and enqueues keep as long as bindings stay current. -/
structure BindingsCurrent (s : Cluster) : Prop where
  ticks : ∀ routine ∈ s.routines, DlqTick routine
  /-- a bound row that is still there is the row that was read -/
  bound : ∀ routine ∈ s.routines, ∀ values ∈ routine.pendingMoves,
    values.originalJobId < s.db.jobs.nextId ∧ ∀ row ∈ s.db.jobs.rows,
      row.id = values.originalJobId → row.failed = true ∧ row.payload = values.payload
  /-- an enqueued row is waiting for its first attempt -/
  enqueued : ∀ written, .enqueued written ∈ s.history → written.id < s.db.jobs.nextId ∧
    ∀ row ∈ s.db.jobs.rows, row.id = written.id → row.attempts = 0 ∧ row.lockedAt = none
  captured : ∀ row record, .captured row record ∈ s.history → row.failed = true ∧
    record.payload = row.payload ∧ row.id < s.db.jobs.nextId ∧ ∀ r ∈ s.db.jobs.rows, r.id ≠ row.id
  apart : ∀ row record written, .captured row record ∈ s.history →
    .enqueued written ∈ s.history → row.id ≠ written.id

namespace BindingsCurrent

variable {s s' : Cluster}

theorem initial (now : Timestamp) (db : Database) : BindingsCurrent (initial now db) := by
  constructor <;> simp [Cluster.initial]

/-- The record a move leaves has the payload it was bound with, if the one it takes over
had. -/
theorem payload_upsertedIn {values : DlqInsert} {table : DlqTable} {now : Timestamp}
    (same : ∀ record ∈ table.rows, record.jobKey ≠ none → record.jobKey = storedKey values.jobKey →
      record.payload = values.payload) :
    (values.upsertedIn table now).payload = values.payload := by
  rcases table.upserted_cases (values.draft now) (values.touch now) with
    ⟨old, member, keyed, sameKey, -, copy⟩ | ⟨-, copy⟩
  · rw [DlqInsert.upsertedIn, copy]
    exact same old member (fun absent => keyed (sameKey.symm.trans absent)) sameKey
  · rw [DlqInsert.upsertedIn, copy]
    rfl

theorem enqueue {job : NewJob} (inv : BindingsCurrent s) (keeps : KeepsBindings s (.enqueue job)) :
    BindingsCurrent (s.enqueue job) := by
  have grows := Database.nextId_addJob s.db s.now job
  -- no row takes the id of a captured one
  have absent : ∀ row record, .captured row record ∈ s.history →
      ∀ r ∈ (s.db.addJob s.now job).2.jobs.rows, r.id ≠ row.id := by
    intro row record remembered r newMember
    obtain ⟨-, -, below, gone⟩ := inv.captured row record remembered
    rcases Database.of_mem_addJob newMember with
      old | ⟨old, member, -, rfl⟩ | ⟨old, member, -, -, -, -, _, _, rfl⟩ | ⟨_, _, rfl⟩
    · exact gone r old
    · exact gone old member
    · rw [(job.overwrite _ _ _).id_eq]
      exact gone old member
    · exact below.ne'
  have remembers : ∀ row record, .captured row record ∈ (s.enqueue job).history →
      .captured row record ∈ s.history := by
    intro row record remembered
    simpa [Cluster.enqueue] using remembered
  refine ⟨inv.ticks, ?_, ?_, ?_, ?_⟩
  · intro routine started values pending
    obtain ⟨below, current⟩ := inv.bound routine started values pending
    refine ⟨by simp only [Cluster.enqueue]; omega, fun r newMember same => ?_⟩
    rcases Database.of_mem_addJob newMember with
      old | ⟨old, member, held, rfl⟩ | ⟨old, member, unlocked, keyed, sameKey, mode, _, _, rfl⟩ |
        ⟨_, _, rfl⟩
    · exact current r old same
    · obtain ⟨failed, payload⟩ := current old member same
      exact ⟨JobRow.failed_iff.mpr ⟨le_refl _, (JobRow.failed_iff.mp failed).2⟩, payload⟩
    · rw [(job.overwrite _ _ _).id_eq] at same
      refine absurd ?_ (keeps mode keyed old member unlocked sameKey)
      exact List.mem_flatMap.mpr ⟨routine, started, List.mem_map.mpr ⟨values, pending, same.symm⟩⟩
    · have drawn : s.db.jobs.nextId = values.originalJobId := same
      omega
  · intro written remembered
    rcases List.mem_append.mp remembered with before | new
    · obtain ⟨below, waiting⟩ := inv.enqueued written before
      refine ⟨by simp only [Cluster.enqueue]; omega, fun r newMember same => ?_⟩
      rcases Database.of_mem_addJob newMember with
        old | ⟨old, member, held, rfl⟩ | ⟨old, member, unlocked, -, -, mode, _, _, rfl⟩ |
          ⟨_, _, rfl⟩
      · exact waiting r old same
      · exact absurd (waiting old member same).2 held
      · simpa [NewJob.overwrite, mode] using unlocked
      · exact ⟨rfl, rfl⟩
    · obtain ⟨row, reported, same⟩ := List.mem_map.mp new
      obtain rfl := Event.enqueued.inj same
      obtain ⟨member, attempts, unlocked⟩ := Database.addJob_written (Option.mem_toList.mp reported)
      refine ⟨(s.db.addJob s.now job).2.jobs.id_lt _ member, fun r newMember sameId => ?_⟩
      rw [(s.db.addJob s.now job).2.jobs.eq_of_id_eq newMember member sameId]
      exact ⟨attempts, unlocked⟩
  · intro row record remembered
    obtain ⟨failed, payload, below, -⟩ := inv.captured row record (remembers row record remembered)
    exact ⟨failed, payload, by simp only [Cluster.enqueue]; omega,
      absent row record (remembers row record remembered)⟩
  · intro row record written capture remembered
    have before := remembers row record capture
    rcases List.mem_append.mp remembered with earlier | new
    · exact inv.apart row record written before earlier
    · obtain ⟨_, reported, same⟩ := List.mem_map.mp new
      obtain rfl := Event.enqueued.inj same
      have member := (Database.addJob_written (Option.mem_toList.mp reported)).1
      exact (absent row record before _ member).symm

theorem send {i : Nat} {fault : Option ForeignError} (inv : BindingsCurrent s)
    (keeps : KeepsBindings s (.send i fault)) (sent : s.send i fault = some s') :
    BindingsCurrent s' := by
  obtain ⟨routine, rest, db, events, entry, answered, rfl⟩ := send_some sent
  have started := List.mem_of_getElem? entry
  obtain ⟨tick, effect⟩ := (inv.ticks routine started).send answered
  have ticks : ∀ r ∈ s.routines.set i rest, DlqTick r := by
    intro r member
    rcases List.mem_or_eq_of_mem_set member with old | rfl
    · exact inv.ticks r old
    · exact tick
  cases effect with
  | scanned sends bound =>
      refine ⟨ticks, ?_, by simpa using inv.enqueued, by simpa using inv.captured,
        by simpa using inv.apart⟩
      intro r member values pending
      rcases List.mem_or_eq_of_mem_set member with old | rfl
      · exact inv.bound r old values pending
      · rw [bound] at pending
        obtain ⟨job, scanned, rfl⟩ := List.mem_map.mp pending
        obtain ⟨found, foundMember, failed, -, joined⟩ := Database.of_mem_findFailedJobs scanned
        have key : job.id = found.id := Database.failedJob?_id joined
        have below : job.id < s.db.jobs.nextId := key ▸ s.db.jobs.id_lt found foundMember
        refine ⟨below, fun row rowMember same => ?_⟩
        obtain rfl := s.db.jobs.eq_of_id_eq rowMember foundMember (same.trans key)
        refine ⟨failed, ?_⟩
        obtain ⟨_, _, rfl⟩ := Option.map_eq_some_iff.mp joined
        rfl
  | skipped left =>
      refine ⟨ticks, ?_, by simpa using inv.enqueued, by simpa using inv.captured,
        by simpa using inv.apart⟩
      intro r member values pending
      rcases List.mem_or_eq_of_mem_set member with old | rfl
      · exact inv.bound r old values pending
      · exact inv.bound routine started values (left pending)
  | moved values row table next member key present =>
      have remaining : ∀ r, r ∈ (s.db.moved s.now values table).jobs.rows ↔
          r ∈ s.db.jobs.rows ∧ r.id ≠ row.id := by
        simp [Database.moved, key]
      obtain ⟨-, current⟩ := inv.bound routine started values (by simp [next])
      obtain ⟨failed, payload⟩ := current row member key
      have recorded : (values.upsertedIn table s.now).payload = row.payload := by
        rw [payload]
        refine payload_upsertedIn fun record among keyed sameKey => ?_
        have sends : s.Sends i (.moveFailedJob values) := by
          simp [Sends, entry, Client.next?_of_pendingMoves next]
        exact keeps values sends ⟨row, member, key⟩ record (Database.dlqRows_ok present ▸ among)
          keyed sameKey
      refine ⟨ticks, ?_, ?_, ?_, ?_⟩
      · intro r rMember values' pending
        have before := inv.bound
        have bound' : values'.originalJobId < s.db.jobs.nextId ∧ ∀ row ∈ s.db.jobs.rows,
            row.id = values'.originalJobId → row.failed = true ∧ row.payload = values'.payload := by
          rcases List.mem_or_eq_of_mem_set rMember with old | rfl
          · exact inv.bound r old values' pending
          · exact inv.bound routine started values' (by simp [next, pending])
        exact ⟨bound'.1, fun r rMember => bound'.2 r ((remaining r).mp rMember).1⟩
      · intro written remembered
        obtain ⟨below, waiting⟩ := inv.enqueued written (by simpa using remembered)
        exact ⟨below, fun r rMember => waiting r ((remaining r).mp rMember).1⟩
      · intro row' record remembered
        rcases List.mem_append.mp remembered with before | new
        · obtain ⟨failed', payload', below, gone⟩ := inv.captured row' record before
          exact ⟨failed', payload', below, fun r rMember => gone r ((remaining r).mp rMember).1⟩
        · obtain ⟨rfl, rfl⟩ : row' = row ∧ record = values.upsertedIn table s.now := by
            simpa using new
          exact ⟨failed, recorded, s.db.jobs.id_lt row' member,
            fun r rMember => ((remaining r).mp rMember).2⟩
      · intro row' record written capture remembered
        have before : Event.enqueued written ∈ s.history := by simpa using remembered
        rcases List.mem_append.mp capture with earlier | new
        · exact inv.apart row' record written earlier before
        · obtain ⟨rfl, rfl⟩ : row' = row ∧ record = values.upsertedIn table s.now := by
            simpa using new
          intro same
          -- a row waiting for its first attempt is not exhausted
          have waiting := ((inv.enqueued written before).2 row' member same).1
          obtain ⟨spent, permitted⟩ := JobRow.failed_iff.mp failed
          omega

/-- Every step of ticks and enqueues under which bindings stay current. -/
theorem step {tables : CharTables} {a : Action} (inv : BindingsCurrent s)
    (allowed : CurrentBindings s a) (taken : s.step tables a = some s') : BindingsCurrent s' := by
  obtain ⟨among, keeps⟩ := allowed
  cases a with
  | advance micros =>
      obtain rfl := Option.some.inj taken
      exact ⟨inv.ticks, inv.bound, inv.enqueued, inv.captured, inv.apart⟩
  | enqueue job =>
      obtain rfl := Option.some.inj taken
      exact inv.enqueue keeps
  | start routine =>
      obtain rfl := Option.some.inj taken
      obtain rfl : routine = Client.processFailedJobs := among
      refine ⟨?_, ?_, inv.enqueued, inv.captured, inv.apart⟩
      · intro r member
        rcases List.mem_append.mp member with old | new
        · exact inv.ticks r old
        · exact List.mem_singleton.mp new ▸ .scan
      · intro r member values pending
        rcases List.mem_append.mp member with old | new
        · exact inv.bound r old values pending
        · rw [List.mem_singleton.mp new] at pending
          cases pending
  | send i fault => exact inv.send keeps taken
  | fetch worker jobId => exact among.elim
  | complete i => exact among.elim
  | fail i error retryAt => exact among.elim
  | crash i => exact among.elim
  | jobFail i => exact among.elim

end BindingsCurrent

/-- In every run of ticks and enqueues under which bindings stay current: a move deletes
only exhausted rows, its record has the payload the row had at that moment, and it never
takes a row that was enqueued or rewritten in the run. -/
theorem captured_as_bound (tables : CharTables) {now : Timestamp} {db : Database}
    {as : List Action} {s : Cluster}
    (path : Transition.Run (Cluster.step tables) CurrentBindings (initial now db) as s) :
    (∀ row record, .captured row record ∈ s.history →
      row.failed = true ∧ record.payload = row.payload) ∧
    ∀ row record written, .captured row record ∈ s.history → .enqueued written ∈ s.history →
      row.id ≠ written.id := by
  have inv : BindingsCurrent s :=
    path.invariant (fun _ _ _ inv allowed taken => inv.step allowed taken) (.initial now db)
  refine ⟨fun row record remembered => ?_, inv.apart⟩
  obtain ⟨failed, payload, -, -⟩ := inv.captured row record remembered
  exact ⟨failed, payload⟩

/-- An enqueue under another key does not disturb the tick. -/
theorem captured_as_bound_failedInvoice :
    ∃ as s row record, Transition.Run (Cluster.step .ascii) CurrentBindings
        (initial 0 (failedInvoice (.string "first"))) as s ∧
      .captured row record ∈ s.history ∧ row.failed = true ∧ record.payload = row.payload := by
  have path : Transition.Run (Cluster.step .ascii) CurrentBindings
      (initial 0 (failedInvoice (.string "first")))
      [.start Client.processFailedJobs, .send 0 none, .enqueue singleAttempt, .send 0 none] _ :=
    .cons ⟨rfl, trivial⟩ rfl <| .cons ⟨trivial, fun _ sends => by cases sends⟩ rfl <|
      .cons ⟨trivial, fun _ keyed => absurd rfl keyed⟩ rfl <|
        .cons ⟨trivial, fun _ _ _ _ among => by cases among⟩ rfl <| .nil _
  exact ⟨_, _, _, _, path, .tail _ (.head _),
    (captured_as_bound .ascii path).1 _ _ (.tail _ (.head _))⟩

/-- An enqueue between the scan and the move rewrites the bound row: the move deletes the new
job before its first attempt and records the old payload. -/
theorem replaced_job_captured :
    ∃ as s, Transition.Run (Cluster.step .ascii) (fun _ a => TicksAndEnqueues a)
        (initial 0 (failedInvoice (.string "first"))) as s ∧
      ∃ row record written, .captured row record ∈ s.history ∧
        .enqueued written ∈ s.history ∧ row.id = written.id ∧ row.failed = false ∧
        record.payload ≠ row.payload := by
  refine ⟨[.start Client.processFailedJobs, .send 0 none,
    .enqueue (invoiceJob (.string "second")), .send 0 none], _, .of_run ?_ rfl, _, _, _,
    .tail _ (.head _), .head _, rfl, rfl, fun same => ?_⟩
  · simp [TicksAndEnqueues]
  · exact absurd (Json.string.inj same) (by decide)

end Cluster

end Backfill
