import Backfill.Client.JobRows

/-!
# What a statement does to the rows of the DLQ

The counterpart of `Statement.RowChange` for `backfill_dlq`: a record is kept, touched by a
capture that finds its key, or counted by the bookkeeping of a requeue; and a capture may insert
one under the next id.
-/

namespace Backfill

namespace Statement

/-- The values a capture binds. -/
def binds? : Statement → Option DlqInsert
  | moveFailedJob values | upsertDlq values => some values
  | _ => none

/-- What a statement can make of a record it leaves in the DLQ. -/
inductive RecordChange (now : Timestamp) : Statement → DlqJob → DlqJob → Prop
  | kept {s : Statement} {record : DlqJob} : RecordChange now s record record
  | touched {s : Statement} {values : DlqInsert} {record : DlqJob}
      (binds : s.binds? = some values) (keyed : storedKey values.jobKey ≠ none)
      (same : record.jobKey = storedKey values.jobKey) :
      RecordChange now s record ((values.touch now).apply record)
  | counted {notes : Option String} {record : DlqJob} :
      RecordChange now (.recordRequeue notes record.id) record
        ((DlqJob.requeued notes now).apply record)

/-- The record a statement adds to the DLQ of `db`. -/
def AddsRecord (now : Timestamp) (s : Statement) (db : Database) (record : DlqJob) : Prop :=
  ∃ values table, s.binds? = some values ∧ db.dlq = .ok table ∧
    record = (values.draft now).row table.nextId

variable {s : Statement} {now : Timestamp} {fault : Option ForeignError} {db : Database}
  {record old : DlqJob}

/-- The rows of the DLQ after an insertion of bound values. -/
theorem mem_upsertInto {values : DlqInsert} {table : DlqTable}
    (member : record ∈ (values.upsertInto table now).rows) :
    record ∈ table.rows ∨
    (∃ old ∈ table.rows, storedKey values.jobKey ≠ none ∧ old.jobKey = storedKey values.jobKey ∧
      record = (values.touch now).apply old) ∨
    record = (values.draft now).row table.nextId := by
  rcases SerialTable.mem_upsert.mp member with ⟨held, old, oldMember, rfl⟩ | ⟨-, old | new⟩
  · split
    next same =>
      exact .inr (.inl ⟨old, oldMember, (SerialTable.holds_iff.mp held).1, same, rfl⟩)
    next => exact .inl oldMember
  · exact .inl old
  · exact .inr (.inr new)

/-- The records after a statement: what it made of one that was there, or the one it adds. -/
theorem record_answer (member : record ∈ (s.answer now fault db).2.dlqRows) :
    (∃ old ∈ db.dlqRows, s.RecordChange now old record) ∨ s.AddsRecord now db record := by
  have kept : (s.answer now fault db).2.dlq = db.dlq →
      (∃ old ∈ db.dlqRows, s.RecordChange now old record) ∨ s.AddsRecord now db record := by
    intro same
    rw [Database.dlqRows, same] at member
    exact .inl ⟨record, member, .kept⟩
  have captured : ∀ values table, s.binds? = some values → db.dlq = .ok table →
      (s.answer now fault db).2.dlq = .ok (values.upsertInto table now) →
      (∃ old ∈ db.dlqRows, s.RecordChange now old record) ∨ s.AddsRecord now db record := by
    intro values table binds present after
    rw [Database.dlqRows_ok after] at member
    rw [Database.dlqRows_ok present]
    rcases mem_upsertInto member with before | ⟨old, oldMember, keyed, same, rfl⟩ | new
    · exact .inl ⟨record, before, .kept⟩
    · exact .inl ⟨old, oldMember, .touched binds keyed same⟩
    · exact .inr ⟨values, table, binds, present, new⟩
  cases fault with
  | some error => exact kept rfl
  | none =>
      cases present : db.dlq with
      | error missing =>
          refine kept ?_
          cases s <;> first
            | exact @dlq_exec _ now _ rfl
            | simp only [answer_none, exec, present]
      | ok table =>
          cases s with
          | moveFailedJob values =>
              cases found : db.jobs.get? values.originalJobId with
              | none =>
                  refine kept ?_
                  simp only [answer_none, exec, present, Database.moveFailedJob, found]
              | some row =>
                  refine captured values table rfl present ?_
                  simp only [answer_none, exec, present, Database.moveFailedJob, found]
                  rfl
          | upsertDlq values =>
              refine captured values table rfl present ?_
              simp only [answer_none, exec, present]
          | recordRequeue notes dlqId =>
              simp only [answer_none, exec, present, Database.dlqRows] at member
              obtain ⟨old, oldMember, rfl⟩ := SerialTable.mem_update.mp member
              rw [Database.dlqRows_ok present]
              refine .inl ⟨old, oldMember, ?_⟩
              split
              next same =>
                obtain rfl : old.id = dlqId := by simpa using same
                exact .counted
              next => exact .kept
          | deleteDlqJob dlqId =>
              simp only [answer_none, exec, present, Database.dlqRows] at member
              rw [Database.dlqRows_ok present]
              exact .inl ⟨record, (SerialTable.mem_delete.mp member).1, .kept⟩
          | deleteDlqByJobKey jobKey =>
              simp only [answer_none, exec, present, Database.dlqRows] at member
              rw [Database.dlqRows_ok present]
              exact .inl ⟨record, (SerialTable.mem_delete.mp member).1, .kept⟩
          | _ => exact kept (@dlq_exec _ now _ rfl)

end Statement

end Backfill
