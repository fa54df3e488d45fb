import Backfill.Client.Dlq

/-!
# What a sequential pass of `process_failed_jobs` leaves

The batch of a scan names no job twice, so its moves take one row of the queue each. In the DLQ
they may meet: two keys of the queue that differ only beyond what `backfill_dlq` stores of a key are
one key there. Each row of the DLQ after a pass is one that was there before and met no conflict, or
the record of the last of the jobs that were moved under its key. All results about a pass without
concurrent writers go through `Session.run_moveFailedJobs_taken`.
-/

namespace Backfill

/-- What a move of `values` has done when it took `row` at `now` and left `record`: the row has gone
from the queue, and the record is the only row of the DLQ that is new or has changed. -/
structure TakesOnce (now : Timestamp) (before after : Database) (values : DlqInsert) (row : JobRow)
    (record : DlqJob) : Prop where
  bound : row.id = values.originalJobId
  taken : row ∈ before.jobs.rows
  removed : ∀ r, r ∈ after.jobs.rows ↔ r ∈ before.jobs.rows ∧ r.id ≠ row.id
  recorded : record ∈ after.dlqRows ∧ record.originalJobId = some row.id ∧
    record.jobKey = storedKey values.jobKey
  failed : record.failedAt = now ∧ record.failureReason = values.failureReason ∧
    record.lastError = values.lastError
  only : ∀ d ∈ after.dlqRows, d.id = record.id → d = record
  others : ∀ d, d.id ≠ record.id → (d ∈ after.dlqRows ↔ d ∈ before.dlqRows)
  counted :
    ((∀ d ∈ before.dlqRows, d.id ≠ record.id ∧
        (storedKey values.jobKey = none ∨ d.jobKey ≠ storedKey values.jobKey)) ∧
      record.failureCount = 1) ∨
    ∃ old ∈ before.dlqRows, old.id = record.id ∧ storedKey values.jobKey ≠ none ∧
      old.jobKey = storedKey values.jobKey ∧ record.failureCount = old.failureCount + 1

theorem TakesOnce.of_moved {db : Database} {now : Timestamp} {values : DlqInsert} {row : JobRow}
    {table : DlqTable} (member : row ∈ db.jobs.rows) (bound : row.id = values.originalJobId)
    (present : db.dlq = .ok table) :
    TakesOnce now db (db.moved now values table) values row (values.upsertedIn table now) := by
  have before := Database.dlqRows_ok present
  have after : (db.moved now values table).dlqRows = (values.upsertInto table now).rows := rfl
  have among : values.upsertedIn table now ∈ (values.upsertInto table now).rows :=
    SerialTable.upserted_mem
  obtain ⟨key, origin⟩ := values.jobKey_upsertedIn table now
  refine ⟨bound, member, by simp [Database.moved, bound], ⟨after ▸ among, bound ▸ origin, key⟩,
    ?_, ?_, ?_, ?_⟩
  · unfold DlqInsert.upsertedIn SerialTable.upserted
    split <;> exact ⟨rfl, rfl, rfl⟩
  · intro d member same
    exact SerialTable.eq_of_id_eq _ (after ▸ member) among same
  · intro d other
    rw [after, before]
    exact SerialTable.mem_upsert_of_id_ne other
  · rw [before]
    rcases table.upserted_cases (values.draft now) (values.touch now) with
      ⟨old, oldMember, keyed, same, -, copy⟩ | ⟨free, copy⟩ <;> rw [DlqInsert.upsertedIn, copy]
    · exact .inr ⟨old, oldMember, rfl, keyed, same, rfl⟩
    · refine .inl ⟨fun d member => ⟨(table.id_lt d member).ne, ?_⟩, rfl⟩
      exact SerialTable.fresh_of_not_holds (Bool.eq_false_iff.mp free) d member

/-- Two scanned rows that are different jobs. -/
def FailedJob.Apart (a b : FailedJob) : Prop := a.id ≠ b.id

instance : Std.Symm FailedJob.Apart where
  symm _ _ apart := Ne.symm apart

namespace Database

/-- A batch names no job twice. -/
theorem pairwise_findFailedJobs (db : Database) : db.findFailedJobs.Pairwise FailedJob.Apart := by
  have joined : ((db.jobs.rows.filter fun row =>
      row.failed && !decide (db.Recorded row.id)).filterMap
        db.failedJob?).Pairwise FailedJob.Apart := by
    rw [List.pairwise_filterMap]
    refine (db.jobs.apart.filter _).imp fun {row row'} apart job found job' found' same => ?_
    rw [failedJob?_id found, failedJob?_id found'] at same
    exact apart (.inl same)
  have sorted := ((List.perm_insertionSort (fun a b : FailedJob => a.updatedAt ≤ b.updatedAt)
    _).pairwise_iff (fun apart => Std.Symm.symm _ _ apart)).mpr joined
  exact sorted.sublist (List.take_sublist ..)

/-- With no more failed rows than a batch holds, the scan returns every failed row that is
not recorded and whose task has a row. -/
theorem exists_mem_findFailedJobs {db : Database} {row : JobRow} {identifier : String}
    (few : (db.jobs.rows.filter JobRow.failed).length ≤ 100) (member : row ∈ db.jobs.rows)
    (failed : row.failed = true) (unrecorded : ¬ db.Recorded row.id)
    (named : db.taskIdentifier? row.taskId = some identifier) :
    ∃ job ∈ db.findFailedJobs, job.id = row.id := by
  obtain ⟨job, joined⟩ : ∃ job, db.failedJob? row = some job := by
    simp [failedJob?, named]
  refine ⟨job, ?_, failedJob?_id joined⟩
  set eligible := db.jobs.rows.filter fun row => row.failed && !decide (db.Recorded row.id)
  have fewer : eligible.length ≤ (db.jobs.rows.filter JobRow.failed).length := by
    simp only [eligible, ← List.countP_eq_length_filter]
    refine List.countP_mono_left fun r _ condition => ?_
    simp only [Bool.and_eq_true] at condition
    exact condition.1
  have short : ((eligible.filterMap db.failedJob?).insertionSort
      fun a b => a.updatedAt ≤ b.updatedAt).length ≤ 100 := by
    rw [List.length_insertionSort]
    exact (List.length_filterMap_le _ _).trans (fewer.trans few)
  rw [findFailedJobs, List.take_of_length_le short, List.mem_insertionSort, List.mem_filterMap]
  exact ⟨row, List.mem_filter.mpr ⟨member, by simp [failed, unrecorded]⟩, joined⟩

end Database

/-- What a record says of the job it was inserted for. A capture that finds the key keeps it. -/
def DlqJob.description (record : DlqJob) : String × Json × String × Int × Option Int :=
  (record.taskIdentifier, record.payload, record.queueName, record.priority, record.maxAttempts)

namespace FailedJob

/-- The jobs of a pass that have been recorded in one row with `job`. -/
def mates (done : List FailedJob) (job : FailedJob) : List FailedJob :=
  if job.jobKey = none then [job]
  else done.filter fun other => decide (storedKey other.jobKey = storedKey job.jobKey)

variable {done : List FailedJob} {job other : FailedJob}

theorem mates_of_keyless (done : List FailedJob) (keyless : job.jobKey = none) :
    mates done job = [job] := if_pos keyless

theorem mates_of_keyed (keyed : job.jobKey ≠ none) :
    mates done job = done.filter fun other =>
      decide (storedKey other.jobKey = storedKey job.jobKey) := if_neg keyed

/-- Jobs under one key have the same mates. -/
theorem mates_congr (keyed : job.jobKey ≠ none)
    (same : storedKey other.jobKey = storedKey job.jobKey) : mates done other = mates done job := by
  have keyed' : other.jobKey ≠ none := fun keyless => keyed (by
    rwa [← storedKey_eq_none_iff, ← same, storedKey_eq_none_iff])
  rw [mates_of_keyed keyed, mates_of_keyed keyed', same]

/-- A further job under another key. -/
theorem mates_append_of_ne
    (differ : job.jobKey = none ∨ storedKey other.jobKey ≠ storedKey job.jobKey) :
    mates (done ++ [other]) job = mates done job := by
  by_cases keyless : job.jobKey = none
  · rw [mates_of_keyless _ keyless, mates_of_keyless _ keyless]
  · rw [mates_of_keyed keyless, mates_of_keyed keyless, List.filter_append]
    simp [differ.resolve_left keyless]

/-- A further job under the same key. -/
theorem mates_append_of_eq (done : List FailedJob) (keyed : job.jobKey ≠ none)
    (same : storedKey other.jobKey = storedKey job.jobKey) :
    mates (done ++ [other]) job = mates done job ++ [other] := by
  rw [mates_of_keyed keyed, mates_of_keyed keyed, List.filter_append]
  simp [same]

/-- What has been moved under the key of a job. -/
theorem mem_mates (keyed : job.jobKey ≠ none) :
    other ∈ mates done job ↔ other ∈ done ∧ storedKey other.jobKey = storedKey job.jobKey := by
  rw [mates_of_keyed keyed, List.mem_filter, decide_eq_true_eq]

/-- No later job of the pass is recorded under the key of this one. -/
def LastIn (done : List FailedJob) (job : FailedJob) : Prop :=
  ∃ earlier later, done = earlier ++ job :: later ∧
    ∀ other ∈ later, job.jobKey = none ∨ storedKey other.jobKey ≠ storedKey job.jobKey

/-- A job without a key is the last of its key. -/
theorem lastIn_of_keyless (among : job ∈ done) (keyless : job.jobKey = none) : job.LastIn done :=
  let ⟨earlier, later, split⟩ := List.mem_iff_append.mp among
  ⟨earlier, later, split, fun _ _ => .inl keyless⟩

theorem getLast?_mates_iff (among : job ∈ done) :
    (mates done job).getLast? = some job ↔ job.LastIn done := by
  by_cases keyless : job.jobKey = none
  · rw [mates_of_keyless _ keyless]
    exact iff_of_true rfl (lastIn_of_keyless among keyless)
  · rw [mates_of_keyed keyless, List.getLast?_eq_some_iff]
    constructor
    · rintro ⟨before, ends⟩
      obtain ⟨earlier, rest, rfl, -, ends⟩ := List.filter_eq_append_iff.mp ends
      obtain ⟨between, later, rfl, -, -, none⟩ := List.filter_eq_cons_iff.mp ends
      refine ⟨earlier ++ between, later, by rw [List.append_assoc], fun other after => .inr ?_⟩
      simpa using List.filter_eq_nil_iff.mp none other after
    · rintro ⟨earlier, later, rfl, apart⟩
      refine ⟨mates earlier job, ?_⟩
      have none : later.filter (fun other =>
          decide (storedKey other.jobKey = storedKey job.jobKey)) = [] :=
        List.filter_eq_nil_iff.mpr fun other after => by
          simpa using (apart other after).resolve_left keyless
      rw [mates_of_keyed keyless, List.filter_append, List.filter_cons_of_pos (by simp), none]

/-- A job whose key no other job of the pass is stored under. -/
theorem mates_eq_singleton (apart : done.Pairwise Apart) (among : job ∈ done)
    (lone : ∀ other ∈ done, other.id ≠ job.id →
      job.jobKey = none ∨ storedKey other.jobKey ≠ storedKey job.jobKey) :
    mates done job = [job] := by
  by_cases keyless : job.jobKey = none
  · exact mates_of_keyless _ keyless
  · obtain ⟨earlier, later, rfl⟩ := List.mem_iff_append.mp among
    obtain ⟨-, tail, across⟩ := List.pairwise_append.mp apart
    have before : earlier.filter (fun other =>
        decide (storedKey other.jobKey = storedKey job.jobKey)) = [] :=
      List.filter_eq_nil_iff.mpr fun other there => by
        simpa using (lone other (List.mem_append_left _ there)
          (across other there job (List.mem_cons_self ..))).resolve_left keyless
    have after : later.filter (fun other =>
        decide (storedKey other.jobKey = storedKey job.jobKey)) = [] :=
      List.filter_eq_nil_iff.mpr fun other there => by
        simpa using (lone other (List.mem_append_right _ (List.mem_cons_of_mem _ there))
          ((List.pairwise_cons.mp tail).1 other there).symm).resolve_left keyless
    rw [mates_of_keyed keyless, List.filter_append, List.filter_cons_of_pos (by simp), before,
      after]
    rfl

/-- `record` is what a pass that moved the jobs `done` leaves for `job` in a DLQ that was `table`
before: no later one has taken the record over, and it has counted each of its mates. It says what
the row with its key said before the pass or, where there was none, what the first of them was. -/
structure CapturedAs (table : DlqTable) (done : List FailedJob) (job : FailedJob)
    (record : DlqJob) : Prop where
  originalJobId : record.originalJobId = some job.id
  jobKey : record.jobKey = storedKey job.jobKey
  last : (mates done job).getLast? = some job
  origin :
    (∃ old ∈ table.rows, job.jobKey ≠ none ∧ old.jobKey = storedKey job.jobKey ∧
      record.id = old.id ∧ record.description = old.description ∧
      record.failureCount = old.failureCount + (mates done job).length) ∨
    (∀ old ∈ table.rows, job.jobKey = none ∨ old.jobKey ≠ storedKey job.jobKey) ∧
      (∃ first, (mates done job).head? = some first ∧
        record.description = ((first.toInsert.draft 0).row 0).description) ∧
      record.failureCount = (mates done job).length

namespace CapturedAs

variable {table : DlqTable} {record : DlqJob}

/-- A further job under another key changes nothing. -/
theorem append (captured : job.CapturedAs table done record)
    (differ : job.jobKey = none ∨ storedKey other.jobKey ≠ storedKey job.jobKey) :
    job.CapturedAs table (done ++ [other]) record := by
  obtain ⟨originalJobId, jobKey, last, origin⟩ := captured
  rw [← mates_append_of_ne differ] at last origin
  exact ⟨originalJobId, jobKey, last, origin⟩

end CapturedAs

end FailedJob

namespace DlqInsert

variable {values : DlqInsert} {table : DlqTable} {now : Timestamp}

/-- A row of the DLQ after an insertion: an old row with another key, or the new record. -/
theorem mem_upsertInto {record : DlqJob} (member : record ∈ (values.upsertInto table now).rows) :
    (record ∈ table.rows ∧ (record.jobKey = none ∨ record.jobKey ≠ storedKey values.jobKey)) ∨
    (∃ id, record = (values.draft now).row id ∧
      ∀ old ∈ table.rows, storedKey values.jobKey = none ∨ old.jobKey ≠ storedKey values.jobKey) ∨
    ∃ old ∈ table.rows, storedKey values.jobKey ≠ none ∧ old.jobKey = storedKey values.jobKey ∧
      record = (values.touch now).apply old := by
  rcases SerialTable.mem_upsert.mp member with ⟨held, old, oldMember, rfl⟩ | ⟨free, old | new⟩
  · by_cases same : old.jobKey = storedKey values.jobKey
    · exact .inr (.inr ⟨old, oldMember, (SerialTable.holds_iff.mp held).1, same, if_pos same⟩)
    · have kept : (if old.jobKey = (values.draft now).indexValue
          then (values.touch now).apply old else old) = old := if_neg same
      rw [kept]
      exact .inl ⟨oldMember, .inr same⟩
  · have fresh := SerialTable.fresh_of_not_holds (Bool.eq_false_iff.mp free)
    refine .inl ⟨old, ?_⟩
    rcases fresh record old with absent | differ
    · by_cases none : record.jobKey = none
      · exact .inl none
      · exact .inr fun same => none (same.trans absent)
    · exact .inr differ
  · exact .inr (.inl ⟨_, new, SerialTable.fresh_of_not_holds (Bool.eq_false_iff.mp free)⟩)

/-- A row with another key is still there after an insertion. -/
theorem mem_upsertInto_of_ne {record : DlqJob} (member : record ∈ table.rows)
    (differ : record.jobKey = none ∨ record.jobKey ≠ storedKey values.jobKey) :
    record ∈ (values.upsertInto table now).rows := by
  refine SerialTable.mem_upsert_of_ne member ?_
  rcases differ with absent | differ
  · by_cases none : storedKey values.jobKey = none
    · exact .inl none
    · exact .inr fun same => none (same.symm.trans absent)
  · exact .inr differ

theorem holds_upsertInto_empty {first : DlqInsert} {key : Option String} {now : Timestamp}
    (keyed : storedKey key ≠ none) (same : storedKey first.jobKey = storedKey key) :
    (first.upsertInto .empty now).holds (storedKey key) = true :=
  SerialTable.holds_iff.mpr ⟨keyed, _, SerialTable.upserted_mem,
    (first.jobKey_upsertedIn .empty now).1.trans same⟩

theorem rows_upsertInto_empty (first : DlqInsert) (now : Timestamp) :
    (first.upsertInto .empty now).rows = [(first.draft now).row 1] := by
  have free : ¬ SerialTable.holds (.empty : DlqTable) (first.draft now).indexValue := by
    simp [SerialTable.holds, SerialTable.empty]
  rw [upsertInto, SerialTable.upsert, dif_neg free]
  rfl

/-- Two captures under keys that the column stores as one leave one record, which counts both. -/
theorem rows_upsertInto_twice {first second : DlqInsert} {now later : Timestamp}
    (keyed : storedKey second.jobKey ≠ none)
    (same : storedKey first.jobKey = storedKey second.jobKey) :
    (second.upsertInto (first.upsertInto .empty now) later).rows =
      [(second.touch later).apply ((first.draft now).row 1)] := by
  have held : (first.upsertInto .empty now).holds (second.draft later).indexValue = true :=
    holds_upsertInto_empty keyed same
  rw [upsertInto, SerialTable.upsert, dif_pos held]
  change (first.upsertInto .empty now).rows.map _ = _
  rw [rows_upsertInto_empty, List.map_singleton]
  exact congrArg (fun row => [row]) (if_pos (decide_eq_true same))

/-- After an insertion there is a row for its job. -/
theorem exists_recorded (values : DlqInsert) (table : DlqTable) (now : Timestamp) :
    ∃ record ∈ (values.upsertInto table now).rows,
      record.originalJobId = some values.originalJobId :=
  ⟨_, SerialTable.upserted_mem, (values.jobKey_upsertedIn table now).2⟩

end DlqInsert

/-- A DLQ into which the jobs of some moves have been recorded, one after another. -/
def recordedAll (table : DlqTable) (moves : List (Timestamp × FailedJob)) : DlqTable :=
  moves.foldl (fun table move => move.2.toInsert.upsertInto table move.1) table

namespace Database

/-- The database after some moves. -/
def movedAll (db : Database) (table : DlqTable) (moves : List (Timestamp × FailedJob)) :
    Database :=
  { db with
    jobs := db.jobs.delete fun row => moves.any fun move => row.id = move.2.id
    dlq := .ok (recordedAll table moves) }

theorem movedAll_nil {db : Database} {table : DlqTable} (present : db.dlq = .ok table) :
    db.movedAll table [] = db := by
  cases db
  simp only [movedAll, mk.injEq, true_and]
  exact ⟨SerialTable.delete_of_unmet fun _ _ => rfl, present.symm⟩

theorem movedAll_cons (db : Database) (table : DlqTable) (move : Timestamp × FailedJob)
    (moves : List (Timestamp × FailedJob)) :
    db.movedAll table (move :: moves) = (db.moved move.1 move.2.toInsert table).movedAll
      (move.2.toInsert.upsertInto table move.1) moves := by
  simp only [movedAll, moved, SerialTable.delete_delete]
  rfl

theorem movedAll_concat (db : Database) (table : DlqTable) (move : Timestamp × FailedJob)
    (moves : List (Timestamp × FailedJob)) :
    db.movedAll table (moves ++ [move]) = (db.movedAll table moves).moved move.1 move.2.toInsert
      (recordedAll table moves) := by
  have rows : (fun row : JobRow => (moves ++ [move]).any fun move => decide (row.id = move.2.id)) =
      fun row => (moves.any fun move => decide (row.id = move.2.id)) ||
        decide (row.id = move.2.id) := by
    funext row
    rw [List.any_append, List.any_cons, List.any_nil, Bool.or_false]
  have table' : recordedAll table (moves ++ [move]) =
      move.2.toInsert.upsertInto (recordedAll table moves) move.1 := List.foldl_concat ..
  simp only [movedAll, moved, SerialTable.delete_delete, rows, table']
  rfl

end Database

namespace Session

/-- What a pass that moved exactly the jobs `done` of a batch leaves. -/
structure Passed (db : Database) (table : DlqTable) (done : List FailedJob) (db' : Database)
    (table' : DlqTable) : Prop where
  present : db'.dlq = .ok table'
  jobs_iff : ∀ r, r ∈ db'.jobs.rows ↔ r ∈ db.jobs.rows ∧ ∀ job ∈ done, r.id ≠ job.id
  untouched : ∀ record ∈ table.rows,
    (∀ job ∈ done, record.jobKey = none ∨ record.jobKey ≠ storedKey job.jobKey) →
      record ∈ table'.rows
  captured : ∀ job ∈ done, job.LastIn done →
    ∃ record ∈ table'.rows, job.CapturedAs table done record
  origin : ∀ record ∈ table'.rows,
    (record ∈ table.rows ∧
      ∀ job ∈ done, record.jobKey = none ∨ record.jobKey ≠ storedKey job.jobKey) ∨
      ∃ job ∈ done, job.CapturedAs table done record

namespace Passed

variable {db db₁ db₂ : Database} {table table₁ table₂ : DlqTable} {done : List FailedJob}
  {job : FailedJob} {now : Timestamp}

theorem nil (present : db.dlq = .ok table) : Passed db table [] db table where
  present := present
  jobs_iff := by simp
  untouched _ member _ := member
  captured := by simp
  origin _ member := .inl ⟨member, by simp⟩

/-- A key that the DLQ has had, or under which a job has been moved, is in the DLQ. -/
theorem held (passed : Passed db table done db₁ table₁) (keyed : job.jobKey ≠ none)
    (met : (∃ old ∈ table.rows, old.jobKey = storedKey job.jobKey) ∨
      FailedJob.mates done job ≠ []) :
    ∃ record ∈ table₁.rows, record.jobKey = storedKey job.jobKey := by
  by_cases none : FailedJob.mates done job = []
  · obtain ⟨old, member, same⟩ := met.resolve_right (not_not.mpr none)
    refine ⟨old, passed.untouched old member fun other among => .inr fun equal => ?_, same⟩
    have mate := (FailedJob.mem_mates keyed).mpr ⟨among, equal.symm.trans same⟩
    exact absurd mate (none ▸ List.not_mem_nil)
  · obtain ⟨last, ends⟩ := Option.isSome_iff_exists.mp (List.getLast?_isSome.mpr none)
    obtain ⟨among, same⟩ := (FailedJob.mem_mates keyed).mp (List.mem_of_getLast? ends)
    have isLast : last.LastIn done := (FailedJob.getLast?_mates_iff among).mp
      ((FailedJob.mates_congr keyed same).symm ▸ ends)
    obtain ⟨record, member, captured⟩ := passed.captured last among isLast
    exact ⟨record, member, captured.jobKey.trans same⟩

/-- The record of a further move that finds its key. -/
theorem capturedAs_touched (passed : Passed db table done db₁ table₁) {old : DlqJob}
    (member : old ∈ table₁.rows) (keyed : job.jobKey ≠ none)
    (same : old.jobKey = storedKey job.jobKey) :
    job.CapturedAs table (done ++ [job]) ((job.toInsert.touch now).apply old) := by
  have mates := FailedJob.mates_append_of_eq done keyed rfl
  refine ⟨rfl, same, by rw [mates, List.getLast?_concat], ?_⟩
  rw [mates, List.length_append]
  rcases passed.origin old member with ⟨before, apart⟩ | ⟨other, among, captured⟩
  · -- no job has been moved under this key
    have none : FailedJob.mates done job = [] := by
      refine List.eq_nil_iff_forall_not_mem.mpr fun other mate => ?_
      obtain ⟨among, sameKey⟩ := (FailedJob.mem_mates keyed).mp mate
      rcases apart other among with keyless | differ
      · exact keyed (storedKey_eq_none_iff.mp (same.symm.trans keyless))
      · exact differ (same.trans sameKey.symm)
    rw [none]
    exact .inl ⟨old, before, keyed, same, rfl, rfl, rfl⟩
  · have sameKey : storedKey other.jobKey = storedKey job.jobKey := captured.jobKey.symm.trans same
    have keyed' : other.jobKey ≠ Option.none := fun keyless => keyed (by
      rwa [← storedKey_eq_none_iff, ← sameKey, storedKey_eq_none_iff])
    have origin := captured.origin
    rw [FailedJob.mates_congr keyed sameKey, sameKey] at origin
    rcases origin with ⟨older, before, -, sameOld, id, description, count⟩ |
      ⟨fresh, ⟨first, head, description⟩, count⟩
    · refine .inl ⟨older, before, keyed, sameOld, id, description, ?_⟩
      rw [List.length_singleton, Int.natCast_succ, ← Int.add_assoc, ← count]
      rfl
    · refine .inr ⟨fun old member => (fresh old member).imp_left fun none => absurd none keyed', ?_⟩
      refine ⟨⟨first, ?_, description⟩, congrArg (· + 1) count⟩
      rw [List.head?_append, head]
      rfl

/-- The record of a further move that does not. -/
theorem capturedAs_inserted (passed : Passed db table done db₁ table₁) {id : Int}
    (fresh : ∀ old ∈ table₁.rows, job.jobKey = none ∨ old.jobKey ≠ storedKey job.jobKey) :
    job.CapturedAs table (done ++ [job]) ((job.toInsert.draft now).row id) := by
  by_cases keyless : job.jobKey = none
  · have mates := FailedJob.mates_of_keyless (done ++ [job]) keyless
    refine ⟨rfl, rfl, by rw [mates]; rfl, .inr ⟨fun _ _ => .inl keyless, ?_⟩⟩
    rw [mates]
    exact ⟨⟨job, rfl, rfl⟩, rfl⟩
  · have unmet : ¬ ((∃ old ∈ table.rows, old.jobKey = storedKey job.jobKey) ∨
        FailedJob.mates done job ≠ []) := fun met =>
      let ⟨old, member, same⟩ := passed.held keyless met
      (fresh old member).resolve_left keyless same
    obtain ⟨before, none⟩ := not_or.mp unmet
    have mates := FailedJob.mates_append_of_eq done keyless rfl
    rw [not_not.mp none] at mates
    refine ⟨rfl, rfl, by rw [mates]; rfl, .inr ⟨fun old member => .inr fun same =>
      before ⟨old, member, same⟩, ?_⟩⟩
    rw [mates]
    exact ⟨⟨job, rfl, rfl⟩, rfl⟩

/-- One more move at the end of a pass. -/
theorem concat (passed : Passed db table done db₁ table₁)
    (apart : ∀ other ∈ done, other.id ≠ job.id) :
    Passed db table (done ++ [job]) (db₁.moved now job.toInsert table₁)
      (job.toInsert.upsertInto table₁ now) := by
  refine ⟨rfl, fun r => ?_, fun record member differ => ?_, fun other among ends => ?_,
    fun record member => ?_⟩
  · simp [Database.moved, FailedJob.toInsert, passed.jobs_iff, or_imp, forall_and, and_assoc]
  · have kept := passed.untouched record member fun other among =>
      differ other (List.mem_append_left _ among)
    exact DlqInsert.mem_upsertInto_of_ne kept (differ job (by simp))
  · rcases List.mem_append.mp among with before | new
    · have differ : other.jobKey = none ∨ storedKey job.jobKey ≠ storedKey other.jobKey := by
        by_contra same
        obtain ⟨keyed, same⟩ := not_or.mp same
        rw [← FailedJob.getLast?_mates_iff among,
          FailedJob.mates_append_of_eq _ keyed (not_not.mp same), List.getLast?_concat] at ends
        exact apart other before (congrArg FailedJob.id (Option.some.inj ends).symm)
      rw [← FailedJob.getLast?_mates_iff among, FailedJob.mates_append_of_ne differ,
        FailedJob.getLast?_mates_iff before] at ends
      obtain ⟨record, member, captured⟩ := passed.captured other before ends
      refine ⟨record, DlqInsert.mem_upsertInto_of_ne member ?_, captured.append differ⟩
      rw [captured.jobKey]
      exact differ.imp storedKey_eq_none_iff.mpr Ne.symm
    · obtain rfl := List.mem_singleton.mp new
      cases held : table₁.holds (storedKey other.jobKey) with
      | true =>
          obtain ⟨keyed, old, member, same⟩ := SerialTable.holds_iff.mp held
          refine ⟨_, SerialTable.mem_upsert.mpr (.inl ⟨held, old, member, (if_pos same).symm⟩), ?_⟩
          exact passed.capturedAs_touched member (mt storedKey_eq_none_iff.mpr keyed) same
      | false =>
          refine ⟨_, SerialTable.mem_upsert.mpr (.inr ⟨held, .inr rfl⟩),
            passed.capturedAs_inserted fun old member => ?_⟩
          exact (SerialTable.fresh_of_not_holds (Bool.eq_false_iff.mp held) old member).imp_left
            storedKey_eq_none_iff.mp
  · rcases DlqInsert.mem_upsertInto member with
      ⟨kept, differ⟩ | ⟨id, rfl, fresh⟩ | ⟨old, oldMember, keyed, same, rfl⟩
    · rcases passed.origin record kept with ⟨before, unmet⟩ | ⟨other, among, captured⟩
      · refine .inl ⟨before, fun other among => ?_⟩
        rcases List.mem_append.mp among with earlier | new
        · exact unmet other earlier
        · exact List.mem_singleton.mp new ▸ differ
      · refine .inr ⟨other, List.mem_append_left _ among, captured.append ?_⟩
        rw [captured.jobKey] at differ
        exact differ.imp storedKey_eq_none_iff.mp Ne.symm
    · refine .inr ⟨job, by simp, passed.capturedAs_inserted fun old member => ?_⟩
      exact (fresh old member).imp_left storedKey_eq_none_iff.mp
    · exact .inr ⟨job, by simp, passed.capturedAs_touched oldMember
        (mt storedKey_eq_none_iff.mpr keyed) same⟩

/-- The record that names a job of the pass is its own. -/
theorem capturedAs_of_names (present : db.dlq = .ok table)
    (passed : Passed db table done db₁ table₁) (apart : done.Pairwise FailedJob.Apart)
    (among : job ∈ done) (unrecorded : ¬ db.Recorded job.id) {record : DlqJob}
    (member : record ∈ table₁.rows) (names : record.originalJobId = some job.id) :
    job.CapturedAs table done record := by
  rcases passed.origin record member with ⟨old, -⟩ | ⟨other, otherAmong, captured⟩
  · exact absurd ⟨record, (Database.dlqRows_ok present).symm ▸ old, names⟩ unrecorded
  · have same : other.id = job.id := Option.some.inj (captured.originalJobId.symm.trans names)
    obtain rfl : other = job := by
      by_contra differ
      exact apart.forall otherAmong among differ same
    exact captured

/-- A job of the pass is recorded after it exactly when no later one has taken its record over. -/
theorem recorded_iff_lastIn (present : db.dlq = .ok table)
    (passed : Passed db table done db₁ table₁) (apart : done.Pairwise FailedJob.Apart)
    (among : job ∈ done) (unrecorded : ¬ db.Recorded job.id) :
    db₁.Recorded job.id ↔ job.LastIn done := by
  rw [Database.Recorded, Database.dlqRows_ok passed.present]
  constructor
  · rintro ⟨record, member, names⟩
    exact (FailedJob.getLast?_mates_iff among).mp
      (passed.capturedAs_of_names present apart among unrecorded member names).last
  · intro last
    obtain ⟨record, member, captured⟩ := passed.captured job among last
    exact ⟨record, member, captured.originalJobId⟩

/-- Another job is recorded after the pass exactly when it was before and no job of the pass took
its record over. -/
theorem recorded_iff (present : db.dlq = .ok table) (passed : Passed db table done db₁ table₁)
    {jobId : Int} (outside : ∀ job ∈ done, job.id ≠ jobId) :
    db₁.Recorded jobId ↔ ∃ record ∈ db.dlqRows, record.originalJobId = some jobId ∧
      ∀ job ∈ done, record.jobKey = none ∨ record.jobKey ≠ storedKey job.jobKey := by
  rw [Database.Recorded, Database.dlqRows_ok passed.present, Database.dlqRows_ok present]
  constructor
  · rintro ⟨record, member, origin⟩
    rcases passed.origin record member with ⟨old, differ⟩ | ⟨job, among, captured⟩
    · exact ⟨record, old, origin, differ⟩
    · have same := captured.originalJobId.symm.trans origin
      exact absurd (Option.some.inj same) (outside job among)
  · rintro ⟨record, old, origin, differ⟩
    exact ⟨record, passed.untouched record old differ, origin⟩

/-- So a pass records no job but its own. -/
theorem recorded_of_outside (present : db.dlq = .ok table)
    (passed : Passed db table done db₁ table₁) {jobId : Int}
    (outside : ∀ job ∈ done, job.id ≠ jobId) (recorded : db₁.Recorded jobId) :
    db.Recorded jobId := by
  obtain ⟨record, member, names, -⟩ := (passed.recorded_iff present outside).mp recorded
  exact ⟨record, member, names⟩

/-- What some moves of jobs that are apart leave. -/
theorem movedAll {moves : List (Timestamp × FailedJob)} (present : db.dlq = .ok table)
    (apart : (moves.map Prod.snd).Pairwise FailedJob.Apart) :
    Passed db table (moves.map Prod.snd) (db.movedAll table moves) (recordedAll table moves) := by
  induction moves using List.reverseRecOn with
  | nil =>
      rw [Database.movedAll_nil present]
      exact .nil present
  | append_singleton moves move ih =>
      rw [List.map_append] at apart ⊢
      obtain ⟨earlier, -, differ⟩ := List.pairwise_append.mp apart
      rw [Database.movedAll_concat, show recordedAll table (moves ++ [move]) =
        move.2.toInsert.upsertInto (recordedAll table moves) move.1 from List.foldl_concat ..]
      exact (ih earlier).concat fun other among => differ other among move.2 (by simp)

end Passed

/-- The jobs of a batch that are still in the queue. -/
def InQueue (db : Database) (jobs : List FailedJob) : Prop :=
  ∀ job ∈ jobs, ∃ row ∈ db.jobs.rows, row.id = job.id

/-- The moves of a batch that are not refused and find their row, each with its time. -/
def taken : Session → List FailedJob → List (Timestamp × FailedJob)
  | _, [] => []
  | session, job :: jobs =>
      let rest := (session.after 1 session.db).taken jobs
      if (session.upcoming 0).fault (.moveFailedJob job.toInsert) = none ∧
          (session.db.jobs.get? job.id).isSome then
        ((session.upcoming 0).now, job) :: rest
      else rest

/-- Only whether the jobs of the batch have their rows matters for which moves are made. -/
theorem taken_congr {session : Session} {db : Database} {jobs : List FailedJob}
    (same : ∀ job ∈ jobs, (db.jobs.get? job.id).isSome = (session.db.jobs.get? job.id).isSome) :
    (session.after 0 db).taken jobs = session.taken jobs := by
  induction jobs generalizing session with
  | nil => rfl
  | cons job jobs ih =>
      obtain ⟨first, later⟩ := List.forall_mem_cons.mp same
      have rest : ((session.after 0 db).after 1 db).taken jobs =
          (session.after 1 session.db).taken jobs := @ih (session.after 1 session.db) later
      have head : ((session.after 0 db).db.jobs.get? job.id).isSome =
          (session.db.jobs.get? job.id).isSome := first
      simp only [taken, head]
      rw [show ((session.after 0 db).after 1 (session.after 0 db).db) =
        (session.after 0 db).after 1 db from rfl, rest]
      rfl

theorem taken_sublist (session : Session) (jobs : List FailedJob) :
    ((session.taken jobs).map Prod.snd).Sublist jobs := by
  induction jobs generalizing session with
  | nil => exact List.Sublist.refl _
  | cons job jobs ih =>
      simp only [taken]
      split
      · exact (ih _).cons_cons _
      · exact (ih _).cons _

/-- When nothing is refused, every job of the batch that is there is moved. -/
theorem taken_calm {session : Session} {jobs : List FailedJob} (calm : session.Calm)
    (inQueue : InQueue session.db jobs) : (session.taken jobs).map Prod.snd = jobs := by
  induction jobs generalizing session with
  | nil => rfl
  | cons job jobs ih =>
      obtain ⟨⟨row, member, key⟩, later⟩ := List.forall_mem_cons.mp inQueue
      have found : (session.db.jobs.get? job.id).isSome = true := by
        rw [SerialTable.get?_eq_some.mpr ⟨member, key⟩]
        rfl
      simp only [taken, calm 0, found, and_self, if_true, List.map_cons]
      rw [@ih (session.after 1 session.db) (calm.after 1 _) later]

/-- A move that is refused is passed over. -/
theorem run_moveFailedJobs_refused {session : Session} {db : Database} {job : FailedJob}
    {jobs : List FailedJob} {moved : Nat} {error : ForeignError}
    (answered : exec (.moveFailedJob job.toInsert) session = (.error error, session.after 1 db)) :
    session.run (Client.moveFailedJobs (job :: jobs) moved) =
      (session.after 1 db).run (Client.moveFailedJobs jobs moved) := by
  rw [run, Client.moveFailedJobs, Program.run_call, answered]
  rfl

/-- A move that is answered counts when it has affected a row. -/
theorem run_moveFailedJobs_answered {session : Session} {db : Database} {job : FailedJob}
    {jobs : List FailedJob} {moved affected : Nat}
    (answered : exec (.moveFailedJob job.toInsert) session = (.ok affected, session.after 1 db)) :
    session.run (Client.moveFailedJobs (job :: jobs) moved) =
      (session.after 1 db).run
        (Client.moveFailedJobs jobs (if affected > 0 then moved + 1 else moved)) := by
  rw [run, Client.moveFailedJobs, Program.run_call, answered]
  rfl

/-- A pass over a batch makes the moves that are neither refused nor too late, in their order. -/
theorem run_moveFailedJobs_taken {session : Session} {table : DlqTable} (jobs : List FailedJob)
    (moved : Nat) (present : session.db.dlq = .ok table)
    (apart : jobs.Pairwise FailedJob.Apart) :
    session.run (Client.moveFailedJobs jobs moved) =
      (.ok (moved + (session.taken jobs).length),
        session.after jobs.length (session.db.movedAll table (session.taken jobs))) := by
  induction jobs generalizing session table moved with
  | nil =>
      rw [taken, Database.movedAll_nil present]
      rfl
  | cons job jobs ih =>
      obtain ⟨first, apart⟩ := List.pairwise_cons.mp apart
      have later : (session.after 1 session.db).db.dlq = .ok table := present
      cases fault : (session.upcoming 0).fault (.moveFailedJob job.toInsert) with
      | some error =>
          rw [run_moveFailedJobs_refused (exec_refused fault), ih moved later apart]
          simp only [taken, fault, reduceCtorEq, false_and, if_false]
          rfl
      | none =>
          have answered := exec_accepted fault
          simp only [Statement.exec, present, Database.moveFailedJob] at answered
          cases found : session.db.jobs.get? job.toInsert.originalJobId with
          | none =>
              have gone : session.db.jobs.get? job.id = none := found
              simp only [found] at answered
              rw [run_moveFailedJobs_answered answered, ih _ later apart]
              simp only [taken, gone, Option.isSome_none, Bool.false_eq_true, and_false, if_false]
              rfl
          | some row =>
              have here : (session.db.jobs.get? job.id).isSome = true := by
                rw [show session.db.jobs.get? job.id = some row from found]
                rfl
              simp only [found] at answered
              have upserted : (session.after 1 (session.db.moved (session.upcoming 0).now
                  job.toInsert table)).db.dlq = .ok _ := rfl
              have others : ((session.after 1 session.db).after 0 (session.db.moved
                  (session.upcoming 0).now job.toInsert table)).taken jobs =
                    (session.after 1 session.db).taken jobs := by
                refine taken_congr fun other among => ?_
                rw [Bool.eq_iff_iff, Option.isSome_iff_exists, Option.isSome_iff_exists]
                refine exists_congr fun row => ?_
                rw [SerialTable.get?_eq_some, SerialTable.get?_eq_some]
                have differ := first other among
                constructor
                · rintro ⟨member, key⟩
                  exact ⟨(SerialTable.mem_delete.mp member).1, key⟩
                · rintro ⟨member, key⟩
                  exact ⟨SerialTable.mem_delete.mpr ⟨member, by
                    simpa [FailedJob.toInsert, key] using differ.symm⟩, key⟩
              rw [run_moveFailedJobs_answered answered, ih _ upserted apart]
              simp only [taken, fault, here, and_self, if_true]
              rw [show (session.after 1 (session.db.moved (session.upcoming 0).now job.toInsert
                table)).taken jobs = (session.after 1 session.db).taken jobs from others,
                Database.movedAll_cons, List.length_cons, if_pos Nat.one_pos, Nat.add_assoc,
                Nat.add_comm 1]
              rfl

/-- Every job of a batch is in the queue it was scanned from. -/
theorem inQueue_findFailedJobs (db : Database) : InQueue db db.findFailedJobs := by
  intro job scanned
  obtain ⟨row, member, -, -, joined⟩ := Database.of_mem_findFailedJobs scanned
  exact ⟨row, member, (Database.failedJob?_id joined).symm⟩

end Session

end Backfill
