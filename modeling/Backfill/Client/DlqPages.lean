import Backfill.Client.Requeue
import Backfill.Misc.Paging
import Backfill.Worker.Startup

/-!
# Walking the pages of `list_dlq_jobs` (`dlq.rs:223`)

The pages are sorted by `failed_at` alone, so rows that failed at the same time may come in one
order for one page and in another for the next. `DlqFilter.page` takes one such order; here a
query may take any.
-/

namespace Backfill

open Paging

namespace DlqFilter

/-- The rows a filter is about. -/
def matching (filter : DlqFilter) (table : DlqTable) : List DlqJob :=
  table.rows.filter filter.selects

/-- The filter for page `k`. -/
def window (filter : DlqFilter) (limit k : Nat) : DlqFilter :=
  { filter with limit := some limit, offset := some ↑(k * limit) }

end DlqFilter

/-- The meaning of a statement when the rows of a page are taken from this order. -/
def Statement.execIn (order : List DlqJob) (now : Timestamp) :
    (s : Statement) → Database → Reply s × Database
  | listDlqJobs filter, db =>
      match (listDlqJobs filter).exec now db with
      | (.ok _, after) =>
          (.ok ((order.drop (filter.offset.getD 0).toNat).take (filter.limit.getD 50).toNat),
            after)
      | refused => refused
  | s, db => s.exec now db

/-- `list_dlq_jobs` may return this page: the rows that match come in some order in which they are
sorted by `failed_at`, the latest first. -/
def Database.MayList (db : Database) (filter : DlqFilter) (page : DlqJobList) : Prop :=
  ∃ table order now, db.dlq = .ok table ∧
    Arranged DlqJob.failedAt (filter.matching table) order ∧
    ((Client.listDlqJobs filter).run (Statement.execIn order now) db).1 = .ok page

variable {db : Database} {table : DlqTable} {filter : DlqFilter} {page : DlqJobList}
  {limit k m : Nat}

/-- The order `DlqFilter.page` takes is one of them. -/
theorem DlqFilter.arranged (filter : DlqFilter) (table : DlqTable) :
    Arranged DlqJob.failedAt (filter.matching table)
      ((filter.matching table).insertionSort fun a b => b.failedAt ≤ a.failedAt) := by
  have total : Std.Total fun a b : DlqJob => b.failedAt ≤ a.failedAt :=
    ⟨fun a b => Int.le_total b.failedAt a.failedAt⟩
  have trans : IsTrans DlqJob fun a b => b.failedAt ≤ a.failedAt :=
    ⟨fun _ _ _ first second => Int.le_trans second first⟩
  exact ⟨List.perm_insertionSort .., List.pairwise_insertionSort ..⟩

/-- Rows taken from that order are the rows `DlqFilter.page` takes. -/
theorem Statement.execIn_insertionSort (present : db.dlq = .ok table) (now : Timestamp) :
    Statement.execIn ((filter.matching table).insertionSort fun a b => b.failedAt ≤ a.failedAt) now
      (.listDlqJobs filter) db = (Statement.listDlqJobs filter).exec now db := by
  by_cases start : filter.offset.getD 0 < 0
  · simp only [Statement.execIn, Statement.exec, present, if_pos start]
  · by_cases rows : filter.limit.getD 50 < 0
    · simp only [Statement.execIn, Statement.exec, present, if_neg start, if_pos rows]
    · simp only [Statement.execIn, Statement.exec, present, if_neg start, if_neg rows]
      rfl

/-- A page that is listed in a session may be listed. -/
theorem Session.mayList {session : Session} (calm : session.Calm)
    (ran : (session.run (Client.listDlqJobs filter)).1 = .ok page) :
    session.db.MayList filter page := by
  cases present : session.db.dlq with
  | error error =>
      have failed : (Statement.listDlqJobs filter).exec (session.upcoming 0).now session.db =
          (.error error, session.db) := by simp only [Statement.exec, present]
      unfold Client.listDlqJobs at ran
      rw [run_query_failed (calm 0 _) failed] at ran
      cases ran
  | ok table =>
      refine ⟨table, _, (session.upcoming 0).now, present, filter.arranged table, ?_⟩
      rw [← ran]
      have unchanged : ((Statement.listDlqJobs filter).exec (session.upcoming 0).now
          session.db).2 = session.db := by
        simp only [Statement.exec, present]
        split
        · rfl
        · split <;> rfl
      have counted : ∀ order now, Statement.execIn order now (.countDlqJobs filter) session.db =
          (.ok (filter.matching table).length, session.db) := by
        intro order now
        simp only [Statement.execIn, Statement.exec, present]
        rfl
      have counted' : exec (.countDlqJobs filter) (session.after 1 session.db) =
          (.ok (filter.matching table).length, session.after 2 session.db) := by
        rw [exec_accepted (calm.after 1 _ 0 _)]
        simp only [Statement.exec, after, present]
        rfl
      simp only [run, Client.listDlqJobs, Client.query, Program.bind_call, Program.run_call,
        exec_accepted (calm 0 _), Statement.execIn_insertionSort present, unchanged]
      cases ((Statement.listDlqJobs filter).exec (session.upcoming 0).now session.db).1 with
      | error error => rfl
      | ok rows =>
          simp only [Program.bind_done, Program.run_call, counted, counted']
          rfl

/-- What a page of a walk may be. -/
theorem mayList_window_iff (present : db.dlq = .ok table) :
    db.MayList (filter.window limit k) page ↔
      ∃ order, Arranged DlqJob.failedAt (filter.matching table) order ∧
        page = ⟨Paging.page limit k order, (filter.matching table).length % 2 ^ 32,
          ↑(k * limit), limit⟩ := by
  have listed : ∀ order now, Statement.execIn order now (.listDlqJobs (filter.window limit k)) db =
      (.ok (Paging.page limit k order), db) := by
    intro order now
    have rows : ¬ (filter.window limit k).limit.getD 50 < 0 :=
      Int.not_lt.mpr (Int.natCast_nonneg limit)
    have start : ¬ (filter.window limit k).offset.getD 0 < 0 :=
      Int.not_lt.mpr (Int.natCast_nonneg (k * limit))
    have answered : (Statement.listDlqJobs (filter.window limit k)).exec now db =
        (.ok ((filter.window limit k).page table.rows), db) := by
      simp only [Statement.exec, present, if_neg rows, if_neg start]
    simp only [Statement.execIn, answered]
    rfl
  have counted : ∀ order now, Statement.execIn order now (.countDlqJobs (filter.window limit k))
      db = (.ok (filter.matching table).length, db) := by
    intro order now
    simp only [Statement.execIn, Statement.exec, present]
    rfl
  have ran : ∀ order now, ((Client.listDlqJobs (filter.window limit k)).run
      (Statement.execIn order now) db).1 = .ok ⟨Paging.page limit k order,
        (filter.matching table).length % 2 ^ 32, ↑(k * limit), limit⟩ := by
    intro order now
    simp only [Client.listDlqJobs, Client.query, Program.bind_call, Program.run_call, listed,
      counted, Program.bind_done]
    rfl
  constructor
  · rintro ⟨table', order, now, present', arranged, listed⟩
    obtain rfl : table = table' := Except.ok.inj (present.symm.trans present')
    rw [ran] at listed
    exact ⟨order, arranged, (Except.ok.inj listed).symm⟩
  · rintro ⟨order, arranged, rfl⟩
    exact ⟨table, order, 0, present, arranged, ran order 0⟩

/-- A walk over all pages of at most `limit` rows returns every row that matches the filter exactly
once, and every page the right total, whatever order the rows of each page come in, exactly
when no page begins between two rows that failed at the same time. -/
theorem walk_partitions_iff (present : db.dlq = .ok table) (filter : DlqFilter)
    (few : (filter.matching table).length < 2 ^ 31)
    (enough : (filter.matching table).length ≤ m * limit) :
    (∀ pages : Nat → DlqJobList, (∀ k < m, db.MayList (filter.window limit k) (pages k)) →
      ((List.range m).flatMap fun k => (pages k).jobs).Perm (filter.matching table) ∧
        ∀ k < m, (pages k).total = (filter.matching table).length) ↔
      ∀ k, k * limit < (filter.matching table).length →
        Unsplit DlqJob.failedAt (filter.matching table) (k * limit) := by
  have total : (filter.matching table).length % 2 ^ 32 = (filter.matching table).length :=
    Nat.mod_eq_of_lt (by omega)
  have distinct : (filter.matching table).Nodup := table.nodup.filter _
  rw [← walk_perm_iff distinct (filter.arranged table) enough]
  constructor
  · intro partitions orders arranged
    have listed : ∀ k < m, db.MayList (filter.window limit k) ⟨Paging.page limit k (orders k),
        (filter.matching table).length % 2 ^ 32, ↑(k * limit), limit⟩ := fun k among =>
      (mayList_window_iff present).mpr ⟨orders k, arranged k among, rfl⟩
    exact (partitions _ listed).1
  · intro partitions pages listed
    have order : ∀ k, ∃ order, k < m → Arranged DlqJob.failedAt (filter.matching table) order ∧
        (pages k).jobs = Paging.page limit k order ∧
        (pages k).total = (filter.matching table).length := by
      intro k
      by_cases among : k < m
      · obtain ⟨order, arranged, page⟩ := (mayList_window_iff present).mp (listed k among)
        exact ⟨order, fun _ => ⟨arranged, by rw [page], by rw [page, total]⟩⟩
      · exact ⟨[], fun among' => absurd among' among⟩
    choose orders each using order
    refine ⟨?_, fun k among => (each k among).2.2⟩
    have walked := partitions orders fun k among => (each k among).1
    have jobs : ((List.range m).flatMap fun k => (pages k).jobs) =
        (List.range m).flatMap fun k => Paging.page limit k (orders k) :=
      List.flatMap_congr fun k among => (each k (List.mem_range.mp among)).2.1
    rw [jobs]
    exact walked

/-- Two records of a pass: they have failed at the same time. -/
def twinRecords : DlqTable :=
  (Session.exhaustedJobs 2).findFailedJobs.foldl
    (fun table job => job.toInsert.upsertInto table 0) .empty

/-- The filter that every row matches. -/
def everyRecord : DlqFilter := ⟨none, none, none, none, none, none⟩

/-- The database with them. -/
def twinsRecorded : Database := { Session.exhaustedJobs 2 with dlq := .ok twinRecords }

/-- One page of two rows holds them both. -/
theorem walk_partitions_twins :
    (everyRecord.matching twinRecords).length = 2 ∧
      ∀ pages : Nat → DlqJobList,
        (∀ k < 1, twinsRecorded.MayList (everyRecord.window 2 k) (pages k)) →
        ((List.range 1).flatMap fun k => (pages k).jobs).Perm (everyRecord.matching twinRecords) ∧
          ∀ k < 1, (pages k).total = (everyRecord.matching twinRecords).length := by
  have present : twinsRecorded.dlq = .ok twinRecords := rfl
  have few : (everyRecord.matching twinRecords).length < 2 ^ 31 := by decide
  have enough : (everyRecord.matching twinRecords).length ≤ 1 * 2 := by decide
  refine ⟨by decide, (walk_partitions_iff present everyRecord few enough).mpr fun k inside => ?_⟩
  have first : k = 0 := by
    have two : (everyRecord.matching twinRecords).length = 2 := by decide
    omega
  exact .inr ⟨0, by rw [first]; decide⟩

/-- Two pages of one row may both be the same row. -/
theorem walk_repeats :
    ¬ ∀ (db : Database) (table : DlqTable) (filter : DlqFilter) (limit m : Nat)
      (pages : Nat → DlqJobList), db.dlq = .ok table → 0 < limit →
      (filter.matching table).length < 2 ^ 31 → (filter.matching table).length ≤ m * limit →
      (∀ k < m, db.MayList (filter.window limit k) (pages k)) →
      ((List.range m).flatMap fun k => (pages k).jobs).Perm (filter.matching table) ∧
        ∀ k < m, (pages k).total = (filter.matching table).length := by
  intro partitions
  have first : Arranged DlqJob.failedAt (everyRecord.matching twinRecords) twinRecords.rows :=
    ⟨.refl _, by decide⟩
  have second : Arranged DlqJob.failedAt (everyRecord.matching twinRecords)
      twinRecords.rows.reverse := ⟨List.reverse_perm _, by decide⟩
  have walked := partitions twinsRecorded twinRecords everyRecord 1 2
    (fun k =>
      ⟨Paging.page 1 k (if k = 0 then twinRecords.rows else twinRecords.rows.reverse),
        (everyRecord.matching twinRecords).length % 2 ^ 32, ↑(k * 1), ↑1⟩)
    rfl (by decide) (by decide) (by decide)
    fun k _ => (mayList_window_iff rfl).mpr ⟨_, ?_, rfl⟩
  · exact absurd (walked.1.map DlqJob.id) (by decide)
  · split
    · exact first
    · exact second

end Backfill
