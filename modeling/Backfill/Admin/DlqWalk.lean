import Backfill.Admin.Dlq
import Backfill.Cluster.HiddenFailures

/-!
# Walking the pages of `GET /dlq` while others write (`admin.rs:660`)

A caller asks for page after page until one tells that there are no more. Captures put records in
front of the ones the caller has still to see and so push these back, onto later pages. A record is
missed only when a newer one is deleted meanwhile.
-/

namespace Backfill

open Paging

/-- The request for page `k` of a walk in steps of `limit`. -/
def DlqQueryParams.pageAt (params : DlqQueryParams) (limit k : Nat) : DlqQueryParams :=
  { params with limit := some ↑limit, offset := some ↑(k * limit) }

/-- The reply to a statement that only reads, when the rows of a page are taken from this order. -/
def Statement.answerIn (order : List DlqJob) (now : Timestamp) (fault : Option ForeignError)
    (s : Statement) (db : Database) : Reply s :=
  match fault with
  | some error => .error error
  | none => (s.execIn order now db).1

/-- A caller in the course of a walk. -/
structure DlqWalk where
  journal : Journal
  handler : Handler DlqPageResponse
  /-- The pages it has been given. -/
  pages : List (List DlqJob)
  /-- The last of them has told that there are no more. -/
  finished : Bool

inductive DlqWalkAction
  /-- a step of the others -/
  | base (a : JournalAction)
  /-- the handler sends its next statement; rows that failed at one time come in this order -/
  | serve (order : List DlqJob) (fault : Option ForeignError)
  /-- the caller takes its page and asks for the next one, or asks once more -/
  | turn

namespace DlqWalk

/-- A request for a page. -/
def ask (params : DlqQueryParams) (limit k : Nat) : Handler DlqPageResponse :=
  Handler.listDlqJobs (params.pageAt limit k)

/-- The caller has asked for the first page. -/
def initial (journal : Journal) (params : DlqQueryParams) (limit : Nat) : DlqWalk :=
  ⟨journal, ask params limit 0, [], false⟩

/-- The caller goes on. An offset is an `i32`. -/
def goOn (params : DlqQueryParams) (limit : Nat) (s : DlqWalk) : Option DlqWalk :=
  match s.finished, s.handler with
  | false, .done response =>
      if response.hasMore then
        if (s.pages.length + 1) * limit < 2 ^ 31 then
          some { s with
            handler := ask params limit (s.pages.length + 1)
            pages := s.pages ++ [response.jobs] }
        else none
      else some { s with pages := s.pages ++ [response.jobs], finished := true }
  | false, .fail _ => some { s with handler := ask params limit s.pages.length }
  | _, _ => none

/-- One step; `none` when the action is not possible. -/
def step (tables : CharTables) (params : DlqQueryParams) (limit : Nat) (s : DlqWalk) :
    DlqWalkAction → Option DlqWalk
  | .base a => (s.journal.step tables a).map fun journal => { s with journal := journal }
  | .serve order fault =>
      match s.handler with
      | .call op next => some { s with
          handler := next (op.answerIn order s.journal.cluster.now fault s.journal.db) }
      | _ => none
  | .turn => s.goOn params limit

/-- The records of the DLQ that match and have failed after this one. -/
def newer (params : DlqQueryParams) (record : DlqJob) (table : DlqTable) : List DlqJob :=
  (params.filter.matching table).filter fun row => record.failedAt < row.failedAt

/-- The others delete no matching record that is newer than this one; a page comes in an order that
is sorted by `failed_at`, from a table of fewer than `2 ^ 31` rows. -/
def Undeleted (tables : CharTables) (params : DlqQueryParams) (record : DlqJob) (s : DlqWalk) :
    DlqWalkAction → Prop
  | .base a => ∀ journal table table', s.journal.step tables a = some journal →
      s.journal.db.dlq = .ok table → journal.db.dlq = .ok table' →
        ∀ row ∈ newer params record table, ∃ row' ∈ table'.rows, row'.id = row.id
  | .serve order _ => ∀ table, s.journal.db.dlq = .ok table →
      table.rows.length < 2 ^ 31 ∧
        ∀ filter, s.handler.next? = some (.listDlqJobs filter) →
          Arranged DlqJob.failedAt (filter.matching table) order
  | .turn => True

end DlqWalk

namespace DlqWalk

variable {params : DlqQueryParams} {limit : Nat} {record : DlqJob} {table table' : DlqTable}
  {tables : CharTables} {s s' : DlqWalk}

/-- A filter of `GET /dlq` asks for the task and the queue only. -/
theorem selects_congr {row old : DlqJob} (task : old.taskIdentifier = row.taskIdentifier)
    (queue : old.queueName = row.queueName) :
    params.filter.selects row = params.filter.selects old := by
  simp only [DlqFilter.selects, DlqQueryParams.filter, task, queue, Option.all_none]

theorem mem_newer {row : DlqJob} :
    row ∈ newer params record table ↔
      row ∈ params.filter.matching table ∧ record.failedAt < row.failedAt := by
  simp [newer]

/-- The record, or what has become of it, is on one of these pages. -/
def Seen (record : DlqJob) (pages : List (List DlqJob)) : Prop :=
  ∃ page ∈ pages, ∃ row ∈ page, row.id = record.id

theorem Seen.append {pages : List (List DlqJob)} (seen : Seen record pages) (page : List DlqJob) :
    Seen record (pages ++ [page]) := by
  obtain ⟨other, among, row⟩ := seen
  exact ⟨other, List.mem_append_left _ among, row⟩

/-- The second half of a request: the count. -/
def countPage (params : DlqQueryParams) (limit k : Nat) (rows : List DlqJob) :
    Handler DlqPageResponse :=
  .call (.countDlqJobs (params.pageAt limit k).filter) fun
    | .ok total =>
        let page : DlqJobList := ⟨rows, total % 2 ^ 32, ↑(k * limit), ↑limit⟩
        .done ⟨rows, page.total, page.hasMore⟩
    | .error e => .fail ⟨500, (BackfillError.sqlxError e).display, "DLQ_LIST_FAILED"⟩

theorem ask_eq (params : DlqQueryParams) (limit k : Nat) :
    ask params limit k = .call (.listDlqJobs (params.pageAt limit k).filter) fun
      | .ok rows => countPage params limit k rows
      | .error e => .fail ⟨500, (BackfillError.sqlxError e).display, "DLQ_LIST_FAILED"⟩ := by
  refine congrArg (Program.call (Statement.listDlqJobs (params.pageAt limit k).filter))
    (funext fun listed => ?_)
  cases listed with
  | error e => rfl
  | ok rows =>
      refine congrArg (Program.call (Statement.countDlqJobs (params.pageAt limit k).filter))
        (funext fun counted => ?_)
      cases counted <;> rfl

/-- The record is on a page that the caller has or is about to take, or so many newer ones are
there that it is on a later page; then the response tells that there are more. -/
inductive Underway (params : DlqQueryParams) (limit : Nat) (record : DlqJob)
    (pages : List (List DlqJob)) (newer : Nat) : Handler DlqPageResponse → Prop
  | asking (seen : Seen record pages ∨ pages.length * limit ≤ newer) :
      Underway params limit record pages newer (ask params limit pages.length)
  | counting {rows : List DlqJob} (before : Seen record pages ∨ pages.length * limit ≤ newer)
      (seen : Seen record (pages ++ [rows]) ∨ (pages.length + 1) * limit ≤ newer) :
      Underway params limit record pages newer (countPage params limit pages.length rows)
  | answered {response : DlqPageResponse}
      (seen : Seen record (pages ++ [response.jobs]) ∨
        (pages.length + 1) * limit ≤ newer ∧ response.hasMore = true) :
      Underway params limit record pages newer (.done response)
  | failed {e : AdminError} (seen : Seen record pages ∨ pages.length * limit ≤ newer) :
      Underway params limit record pages newer (.fail e)

/-- More newer records do no harm. -/
theorem Underway.mono {pages : List (List DlqJob)} {newer newer' : Nat}
    {handler : Handler DlqPageResponse} (underway : Underway params limit record pages newer handler)
    (grows : newer ≤ newer') : Underway params limit record pages newer' handler := by
  cases underway with
  | asking seen => exact .asking (seen.imp_right fun behind => behind.trans grows)
  | counting before seen =>
      exact .counting (before.imp_right fun behind => behind.trans grows)
        (seen.imp_right fun behind => behind.trans grows)
  | answered seen =>
      exact .answered (seen.imp_right fun behind => ⟨behind.1.trans grows, behind.2⟩)
  | failed seen => exact .failed (seen.imp_right fun behind => behind.trans grows)

/-- The record has failed again since, or it has been deleted. -/
def Lost (record : DlqJob) (table : DlqTable) : Prop :=
  ∀ row ∈ table.rows, row.id = record.id → record.failedAt < row.failedAt

/-- The record is still there, and no other one that matches has failed at its time. -/
structure There (params : DlqQueryParams) (record : DlqJob) (table : DlqTable) (row : DlqJob) :
    Prop where
  member : row ∈ params.filter.matching table
  same : row.id = record.id
  failedAt : row.failedAt = record.failedAt
  apart : ∀ other ∈ params.filter.matching table, other.failedAt = row.failedAt → other = row

variable {now : Timestamp} {entries : List Entry} {row : DlqJob}

/-- A lost record stays lost. -/
theorem Lost.change (lost : Lost record table) (past : record.failedAt < now)
    (drawn : record.id < table.nextId) (change : DlqChange now table table' entries) :
    Lost record table' := by
  intro row member same
  rcases change.dated member with ⟨old, oldMember, id, -, -, kept | moved⟩ | ⟨fresh, -⟩
  · rw [kept]
    exact lost old oldMember (id.trans same)
  · rw [moved]
    exact past
  · rw [same] at fresh
    exact absurd drawn (fresh ▸ Int.lt_irrefl _)

/-- A record that is there is lost, or stays. -/
theorem There.change (there : There params record table row) (past : record.failedAt < now)
    (drawn : record.id < table.nextId) (change : DlqChange now table table' entries) :
    Lost record table' ∨ ∃ row', There params record table' row' := by
  obtain ⟨member, selected⟩ := List.mem_filter.mp there.member
  by_cases left : ∃ row' ∈ table'.rows, row'.id = record.id
  · obtain ⟨row', member', same'⟩ := left
    rcases change.dated member' with ⟨old, oldMember, id, task, queue, dates⟩ | ⟨fresh, -⟩
    · obtain rfl : old = row :=
        table.eq_of_id_eq oldMember member (id.trans (same'.trans there.same.symm))
      rcases dates with kept | moved
      · refine .inr ⟨row', ⟨?_, same', kept.trans there.failedAt, fun other among tied => ?_⟩⟩
        · exact List.mem_filter.mpr ⟨member', (selects_congr task queue).trans selected⟩
        · obtain ⟨otherMember, otherSelected⟩ := List.mem_filter.mp among
          have early : other.failedAt = record.failedAt := tied.trans (kept.trans there.failedAt)
          rcases change.dated otherMember with
            ⟨before, beforeMember, id', task', queue', kept' | moved'⟩ | ⟨-, moved'⟩
          · have same : before = old := there.apart before
              (List.mem_filter.mpr ⟨beforeMember,
                (selects_congr task' queue').symm.trans otherSelected⟩)
              (kept'.symm.trans (early.trans there.failedAt.symm))
            exact table'.eq_of_id_eq otherMember member' (id'.symm.trans (same ▸ id))
          · exact absurd past (by rw [← early, moved']; exact Int.lt_irrefl _)
          · exact absurd past (by rw [← early, moved']; exact Int.lt_irrefl _)
      · refine .inl fun other among same => ?_
        rw [table'.eq_of_id_eq among member' (same.trans same'.symm), moved]
        exact past
    · rw [same'] at fresh
      exact absurd drawn (fresh ▸ Int.lt_irrefl _)
  · exact .inl fun row' member' same' => absurd ⟨row', member', same'⟩ left

/-- So do the newer ones. -/
theorem length_newer_le (past : record.failedAt < now)
    (change : DlqChange now table table' entries)
    (spared : ∀ row ∈ newer params record table, ∃ row' ∈ table'.rows, row'.id = row.id) :
    (newer params record table).length ≤ (newer params record table').length := by
  have distinct : ((newer params record table).map DlqJob.id).Nodup := by
    refine List.Nodup.map_on (fun a among b among' same => ?_)
      ((table.nodup.filter _).filter _)
    exact table.eq_of_id_eq (List.mem_of_mem_filter (mem_newer.mp among).1)
      (List.mem_of_mem_filter (mem_newer.mp among').1) same
  have stay : (newer params record table).map DlqJob.id ⊆
      (newer params record table').map DlqJob.id := by
    intro id among
    obtain ⟨row, behind, rfl⟩ := List.mem_map.mp among
    obtain ⟨matching, later⟩ := mem_newer.mp behind
    obtain ⟨member, selected⟩ := List.mem_filter.mp matching
    obtain ⟨row', member', same⟩ := spared row behind
    refine List.mem_map.mpr ⟨row', mem_newer.mpr ?_, same⟩
    rcases change.dated member' with ⟨old, oldMember, id, task, queue, dates⟩ | ⟨fresh, -⟩
    · obtain rfl : old = row := table.eq_of_id_eq oldMember member (id.trans same)
      refine ⟨List.mem_filter.mpr ⟨member', (selects_congr task queue).trans selected⟩, ?_⟩
      rcases dates with kept | moved
      · rw [kept]
        exact later
      · rw [moved]
        exact past
    · have below := table.id_lt row member
      rw [← same, fresh] at below
      exact absurd below (Int.lt_irrefl _)
  simpa using (distinct.subperm stay).length_le

/-- The list of a page: it holds the record, or there are enough newer ones for a page more. -/
theorem There.listed {order : List DlqJob} {pages : List (List DlqJob)}
    (there : There params record table row)
    (arranged : Arranged DlqJob.failedAt (params.filter.matching table) order)
    (seen : Seen record pages ∨ pages.length * limit ≤ (newer params record table).length) :
    Seen record (pages ++ [Paging.page limit pages.length order]) ∨
      (pages.length + 1) * limit ≤ (newer params record table).length := by
  rcases seen with seen | behind
  · exact .inl (seen.append _)
  · by_cases later : (pages.length + 1) * limit ≤ (newer params record table).length
    · exact .inr later
    · have above : newer params record table =
          (params.filter.matching table).filter fun other => row.failedAt < other.failedAt := by
        rw [newer, there.failedAt]
      rw [above] at behind later
      have among := arranged.mem_page there.member there.apart behind (Nat.lt_of_not_le later)
      exact .inl ⟨_, List.mem_append_right _ (List.mem_singleton.mpr rfl), row, among, there.same⟩

/-- In range, the comparison tells of more when there are. -/
theorem hasMore_of_lt {offset rows total : Nat} {jobs : List DlqJob} (start : offset < 2 ^ 31)
    (size : rows < 2 ^ 31) (few : total < 2 ^ 31) (more : offset + rows < total) :
    DlqJobList.hasMore ⟨jobs, total, ↑offset, ↑rows⟩ = true := by
  have exact := @Session.hasMore_iff ⟨jobs, total, ↑offset, ↑rows⟩
  simp only at exact
  refine ((exact ⟨by omega, by omega⟩ ⟨by omega, by omega⟩ (by omega)).mpr ?_).mpr (by omega)
  exact iff_of_true few (by omega)

/-- The count of a page: if there are so many newer ones, then there are more. -/
theorem There.hasMore (there : There params record table row) (few : table.rows.length < 2 ^ 31)
    {k : Nat} (offset : k * limit < 2 ^ 31) (size : limit < 2 ^ 31) {jobs : List DlqJob}
    (behind : (k + 1) * limit ≤ (newer params record table).length) :
    DlqJobList.hasMore ⟨jobs, (params.filter.matching table).length % 2 ^ 32, ↑(k * limit),
      ↑limit⟩ = true := by
  have fewer : (params.filter.matching table).length ≤ table.rows.length :=
    List.length_filter_le _ _
  have one : (newer params record table).length < (params.filter.matching table).length := by
    refine List.length_filter_lt_length_iff_exists.mpr ⟨row, there.member, ?_⟩
    simp [there.failedAt]
  rw [Nat.mod_eq_of_lt (by omega)]
  rw [Nat.succ_mul] at behind
  exact hasMore_of_lt offset size (by omega) (by omega)

/-- What the two statements of a request are answered with. -/
theorem answerIn_listDlqJobs {db : Database} (present : db.dlq = .ok table) (order : List DlqJob)
    (k : Nat) :
    (Statement.listDlqJobs (params.pageAt limit k).filter).answerIn order now none db =
      .ok (Paging.page limit k order) := by
  have rows : ¬ (params.pageAt limit k).filter.limit.getD 50 < 0 :=
    Int.not_lt.mpr (Int.natCast_nonneg limit)
  have start : ¬ (params.pageAt limit k).filter.offset.getD 0 < 0 :=
    Int.not_lt.mpr (Int.natCast_nonneg (k * limit))
  simp only [Statement.answerIn, Statement.execIn, Statement.exec, present, if_neg rows,
    if_neg start]
  rfl

theorem answerIn_countDlqJobs {db : Database} (present : db.dlq = .ok table) (order : List DlqJob)
    (k : Nat) :
    (Statement.countDlqJobs (params.pageAt limit k).filter).answerIn order now none db =
      .ok (params.filter.matching table).length := by
  simp only [Statement.answerIn, Statement.execIn, Statement.exec, present]
  rfl

/-- A statement of the handler is answered. -/
theorem Underway.answer {pages : List (List DlqJob)} {handler : Handler DlqPageResponse}
    {order : List DlqJob} {fault : Option ForeignError} {db : Database} {op : Statement}
    {next : Statement.Reply op → Handler DlqPageResponse}
    (underway : Underway params limit record pages (newer params record table).length handler)
    (calls : handler = .call op next) (present : db.dlq = .ok table)
    (there : There params record table row) (few : table.rows.length < 2 ^ 31)
    (size : limit < 2 ^ 31) (offset : pages.length * limit < 2 ^ 31)
    (sorted : ∀ filter, op = .listDlqJobs filter →
      Arranged DlqJob.failedAt (filter.matching table) order) :
    Underway params limit record pages (newer params record table).length
      (next (op.answerIn order now fault db)) := by
  cases underway with
  | answered seen => cases calls
  | failed seen => cases calls
  | asking seen =>
      rw [ask_eq] at calls
      obtain ⟨rfl, same⟩ := Program.call.inj calls
      obtain rfl := eq_of_heq same
      cases fault with
      | some error => exact .failed seen
      | none =>
          rw [answerIn_listDlqJobs present]
          have arranged := sorted (params.pageAt limit pages.length).filter rfl
          exact .counting seen (there.listed arranged seen)
  | @counting rows before seen =>
      obtain ⟨rfl, same⟩ := Program.call.inj calls
      obtain rfl := eq_of_heq same
      cases fault with
      | some error => exact .failed before
      | none =>
          rw [answerIn_countDlqJobs present]
          refine .answered (seen.imp_right fun behind => ⟨behind, ?_⟩)
          exact there.hasMore few offset size behind

/-- The caller has seen the record once the walk is finished; until then it is lost, or still there
and on its way. -/
structure OnTheWay (params : DlqQueryParams) (limit : Nat) (record : DlqJob) (s : DlqWalk)
    (table : DlqTable) : Prop where
  present : s.journal.db.dlq = .ok table
  past : record.failedAt < s.journal.cluster.now
  drawn : record.id < table.nextId
  stage : Lost record table ∨ (∃ row, There params record table row) ∧
    if s.finished then Seen record s.pages
    else s.pages.length * limit < 2 ^ 31 ∧
      Underway params limit record s.pages (newer params record table).length s.handler

/-- A step of the others. -/
theorem OnTheWay.base {a : JournalAction} (way : OnTheWay params limit record s table)
    (undeleted : s.Undeleted tables params record (.base a))
    (taken : s.step tables params limit (.base a) = some s') :
    ∃ table', OnTheWay params limit record s' table' := by
  obtain ⟨journal, moved, rfl⟩ := Option.map_eq_some_iff.mp taken
  obtain ⟨table', entries, marks, after, change, -, -⟩ := Journal.dlq_step way.present moved
  refine ⟨table', after, lt_of_lt_of_le way.past (Journal.now_step moved),
    lt_of_lt_of_le way.drawn change.origin.1, ?_⟩
  rcases way.stage with lost | ⟨⟨row, there⟩, stage⟩
  · exact .inl (lost.change way.past way.drawn change)
  · refine (there.change way.past way.drawn change).imp_right fun stays => ⟨stays, ?_⟩
    have grows := length_newer_le way.past change
      (undeleted journal table table' moved way.present after)
    cases finished : s.finished with
    | true => simpa [finished] using stage
    | false =>
        simp only [finished, Bool.false_eq_true, if_false] at stage ⊢
        exact ⟨stage.1, stage.2.mono grows⟩

/-- A statement of the handler. -/
theorem OnTheWay.serve {order : List DlqJob} {fault : Option ForeignError}
    (way : OnTheWay params limit record s table) (size : limit < 2 ^ 31)
    (undeleted : s.Undeleted tables params record (.serve order fault))
    (taken : s.step tables params limit (.serve order fault) = some s') :
    OnTheWay params limit record s' table := by
  obtain ⟨few, sorted⟩ := undeleted table way.present
  obtain ⟨journal, handler, pages, finished⟩ := s
  obtain ⟨present, past, drawn, stage⟩ := way
  cases handler with
  | done response => cases taken
  | fail e => cases taken
  | call op next =>
      obtain rfl := Option.some.inj taken
      refine ⟨present, past, drawn, stage.imp_right fun ⟨⟨row, there⟩, stage⟩ => ⟨⟨row, there⟩, ?_⟩⟩
      cases finished with
      | true => exact stage
      | false =>
          simp only [Bool.false_eq_true, if_false] at stage ⊢
          refine ⟨stage.1, stage.2.answer rfl present there few size stage.1 ?_⟩
          rintro filter rfl
          exact sorted filter rfl

/-- The caller goes on with the next page, asks once more, or has finished. -/
theorem OnTheWay.turn (way : OnTheWay params limit record s table)
    (taken : s.step tables params limit .turn = some s') :
    OnTheWay params limit record s' table := by
  obtain ⟨journal, handler, pages, finished⟩ := s
  obtain ⟨present, past, drawn, stage⟩ := way
  simp only [step, goOn] at taken
  split at taken
  next _ _ response =>
    simp only [Bool.false_eq_true, if_false] at stage
    by_cases more : response.hasMore = true
    · by_cases offset : (pages.length + 1) * limit < 2 ^ 31
      · rw [if_pos more, if_pos offset] at taken
        obtain rfl := Option.some.inj taken
        refine ⟨present, past, drawn, stage.imp_right fun ⟨there, stage⟩ => ⟨there, ?_⟩⟩
        have length : (pages ++ [response.jobs]).length = pages.length + 1 := by simp
        simp only [Bool.false_eq_true, if_false, ← length] at offset ⊢
        cases stage.2 with
        | answered seen =>
            refine ⟨offset, .asking (seen.imp_right fun behind => ?_)⟩
            rw [length]
            exact behind.1
      · rw [if_pos more, if_neg offset] at taken
        cases taken
    · rw [if_neg more] at taken
      obtain rfl := Option.some.inj taken
      refine ⟨present, past, drawn, stage.imp_right fun ⟨there, stage⟩ => ⟨there, ?_⟩⟩
      cases stage.2 with
      | answered seen => exact seen.resolve_right fun behind => more behind.2
  next _ _ e =>
    obtain rfl := Option.some.inj taken
    refine ⟨present, past, drawn, stage.imp_right fun ⟨there, stage⟩ => ⟨there, ?_⟩⟩
    simp only [Bool.false_eq_true, if_false] at stage ⊢
    cases stage.2 with
    | failed seen => exact ⟨stage.1, .asking seen⟩
  next => cases taken

theorem OnTheWay.initial {journal : Journal} (present : journal.db.dlq = .ok table)
    (member : record ∈ params.filter.matching table)
    (past : record.failedAt < journal.cluster.now)
    (apart : ∀ other ∈ params.filter.matching table,
      other.failedAt = record.failedAt → other = record) :
    OnTheWay params limit record (initial journal params limit) table := by
  refine ⟨present, past, table.id_lt record (List.mem_of_mem_filter member), .inr ⟨⟨record, ?_⟩, ?_⟩⟩
  · exact ⟨member, rfl, rfl, apart⟩
  · have first : ([] : List (List DlqJob)).length * limit ≤ (newer params record table).length :=
      by simp
    exact ⟨by simp [DlqWalk.initial], .asking (.inr first)⟩

/-- A caller that walks the pages of `GET /dlq` until one tells that there are no more has seen every
matching record that is still there and has not failed again, however captures, requeues and workers
are interleaved with its requests and however often a request fails, as long as nobody deletes a
newer record meanwhile. -/
theorem walk_misses_none (tables : CharTables) {journal : Journal}
    (size : limit < 2 ^ 31) (present : journal.db.dlq = .ok table)
    (member : record ∈ params.filter.matching table)
    (past : record.failedAt < journal.cluster.now)
    (apart : ∀ other ∈ params.filter.matching table,
      other.failedAt = record.failedAt → other = record) {as : List DlqWalkAction}
    (path : Transition.Run (step tables params limit) (Undeleted tables params record)
      (initial journal params limit) as s)
    (finished : s.finished = true) {row : DlqJob} (left : row ∈ s.journal.db.dlqRows)
    (same : row.id = record.id) (unmoved : row.failedAt = record.failedAt) :
    Seen record s.pages := by
  obtain ⟨table', way⟩ :=
    path.invariant (I := fun s => ∃ table, OnTheWay params limit record s table)
    (fun s a s' ⟨table, way⟩ undeleted taken => by
      cases a with
      | base a => exact way.base undeleted taken
      | serve order fault => exact ⟨table, way.serve size undeleted taken⟩
      | turn => exact ⟨table, way.turn taken⟩) ⟨table, .initial present member past apart⟩
  rw [Database.dlqRows_ok way.present] at left
  rcases way.stage with lost | ⟨-, stage⟩
  · exact absurd (lost row left same) (unmoved ▸ Int.lt_irrefl _)
  · rwa [if_pos finished] at stage

/-- A record of a job without a key, captured at time 0. -/
def unkeyedRecord : DlqInsert := ⟨1, "send_email", .null, "", 0, none, 1, "boom", none, 0, 0⟩

/-- The DLQ with it. -/
def unkeyedTable : DlqTable := unkeyedRecord.upsertInto .empty 0

/-- A record of a job with a key. -/
def keyedRecord : DlqInsert :=
  ⟨2, "send_email", .null, "", 0, some "invoice", 1, "boom", none, 0, 0⟩

/-- A second job fails while the caller waits for its first page of one record: it is given the new
record, then the old one. -/
theorem walk_misses_none_pushedBack :
    ∃ s : DlqWalk, s.finished = true ∧ s.pages.map (fun page => page.map DlqJob.id) = [[2], [1]] ∧
      Seen (unkeyedRecord.upsertedIn .empty 0) s.pages := by
  let params : DlqQueryParams := ⟨none, none, none, none⟩
  let record : DlqJob := unkeyedRecord.upsertedIn .empty 0
  let order : List DlqJob := [keyedRecord.upsertedIn unkeyedTable 5, record]
  have present : ({ Database.fresh with dlq := .ok unkeyedTable } : Database).dlq =
    .ok unkeyedTable := rfl
  have arranged : Arranged DlqJob.failedAt
      (params.filter.matching (keyedRecord.upsertInto unkeyedTable 5)) order :=
    ⟨.swap .., by decide⟩
  obtain ⟨s, path, ends, pages, left⟩ : ∃ s, Transition.Run (step .ascii params 1)
      (Undeleted .ascii params record)
      (initial (.initial 5 { Database.fresh with dlq := .ok unkeyedTable }) params 1)
      [.base (.base (.start (Client.addToDlqRoutine (Session.invoice 2 .null) "boom"))),
        .base (.base (.send 0 none)), .serve order none, .serve [] none, .turn,
        .serve order none, .serve [] none, .turn] s ∧ s.finished = true ∧
      s.pages.map (fun page => page.map DlqJob.id) = [[2], [1]] ∧
      record ∈ s.journal.db.dlqRows := by
    refine ⟨_, .cons (fun _ _ _ _ same _ row among => ?_) rfl <|
      .cons (fun _ _ _ _ same _ row among => ?_) rfl <|
      .cons (fun table same => ?_) rfl <| .cons (fun table same => ?_) rfl <| .cons trivial rfl <|
      .cons (fun table same => ?_) rfl <| .cons (fun table same => ?_) rfl <| .cons trivial rfl <|
      .nil _, rfl, rfl, .head _⟩
    all_goals obtain rfl := Except.ok.inj same
    · exact absurd among List.not_mem_nil
    · exact absurd among List.not_mem_nil
    · refine ⟨by decide, fun filter asks => ?_⟩
      cases asks
      exact arranged
    · exact ⟨by decide, fun filter asks => by cases asks⟩
    · refine ⟨by decide, fun filter asks => ?_⟩
      cases asks
      exact arranged
    · exact ⟨by decide, fun filter asks => by cases asks⟩
  have one : params.filter.matching unkeyedTable = [record] := rfl
  exact ⟨s, ends, pages, walk_misses_none .ascii (by decide) present (one ▸ .head _) (by decide)
    (fun other among _ => List.mem_singleton.mp (one ▸ among)) path ends left rfl rfl⟩

end DlqWalk

end Backfill
