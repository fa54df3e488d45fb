import Backfill.Client.PassOutcome
import Backfill.Client.Passes
import Backfill.Misc.ListFacts
import Backfill.Worker.Startup

/-!
# Jobs that wait behind jobs that cannot be moved

A job whose move the database refuses stays where it is in the order of the scan. A pass takes a
hundred jobs from the front of that order, so a job with a hundred such jobs before it is never
among them; with fewer, every pass that does not take it takes some other job for good. Which of the
jobs that were touched at the same time come first is not for the program to say, so these may all
stand before it.
-/

namespace Backfill

namespace Database

/-- The jobs the scan may return before that of `row` whose moves are refused. -/
def obstacles (db : Database) (rejected : Int → Bool) (row : JobRow) : List FailedJob :=
  db.eligible.filter fun job => rejected job.id && decide (job.updatedAt ≤ row.updatedAt)

theorem length_obstacles_le (db : Database) (rejected : Int → Bool) (row : JobRow) :
    (db.obstacles rejected row).length ≤ db.jobs.rows.length :=
  (List.length_filter_le ..).trans
    ((List.length_filterMap_le ..).trans (List.length_filter_le ..))

end Database

/-- An order in which, of the jobs that tie, those come first that `p` picks. -/
theorem ScanOrder.exists_first (p : FailedJob → Bool) :
    ∃ ties : ScanOrder, ∀ db, (ties.order db).Pairwise fun a b =>
      a.updatedAt < b.updatedAt ∨ a.updatedAt = b.updatedAt ∧ (p b = true → p a = true) := by
  choose order arranged first using fun db : Database =>
    Paging.exists_arranged (fun job : FailedJob => OrderDual.toDual job.updatedAt) db.eligible p
  exact ⟨⟨order, fun db => (arranged db).perm, fun db => (arranged db).sorted⟩, first⟩

namespace Session

/-- The database refuses the moves of the rejected jobs, whenever they are sent, and no other
statement. -/
def RejectsMoves (session : Session) (rejected : Int → Bool) : Prop :=
  ∀ n s, session.Accepts n s ↔
    ∀ values, s = .moveFailedJob values → rejected values.originalJobId = false

/-- A pass over this batch captures the job: its statement takes the row out of the queue and
records it. -/
def CapturesIn (session : Session) (batch : List FailedJob) (jobId : Int) : Prop :=
  ∃ i job row record, batch[i]? = some job ∧ job.id = jobId ∧
    TakesOnce (session.upcoming (i + 1)).now (session.passState batch i)
      (session.passState batch (i + 1)) job.toInsert row record

/-- The job is captured by some call of `process_failed_jobs`. -/
def CapturedEventually (session : Session) (ties : Nat → ScanOrder) (jobId : Int) : Prop :=
  ∃ n, (session.passes ties n).CapturesIn ((ties n).batch (session.passes ties n).db) jobId

variable {session : Session} {rejected : Int → Bool} {table : DlqTable} {row : JobRow}
  {ties : ScanOrder} {orders : Nat → ScanOrder}

theorem RejectsMoves.after (rejects : session.RejectsMoves rejected) (n : Nat) (db : Database) :
    (session.after n db).RejectsMoves rejected :=
  fun m => rejects (m + n)

theorem RejectsMoves.accepts_move {job : FailedJob} {n : Nat}
    (rejects : session.RejectsMoves rejected) :
    session.Accepts n (.moveFailedJob job.toInsert) ↔ rejected job.id = false := by
  rw [rejects]
  constructor
  · exact fun spares => spares _ rfl
  · rintro spared _ same
    obtain rfl := Statement.moveFailedJob.inj same
    exact spared

theorem RejectsMoves.accepts_scan (rejects : session.RejectsMoves rejected) :
    session.Accepts 0 .findFailedJobs :=
  (rejects 0 _).mpr fun _ same => by cases same

/-- A pass moves the jobs of its batch that are not rejected. -/
theorem RejectsMoves.mem_passMoved (rejects : session.RejectsMoves rejected) {job : FailedJob} :
    job ∈ session.passMoved (ties.batch session.db) ↔
      job ∈ ties.batch session.db ∧ rejected job.id = false := by
  have moves {i : Nat} (scanned : (ties.batch session.db)[i]? = some job) :=
    (Session.mem_passMoved (ties.pairwise_batch _) (ties.inQueue_batch _) scanned).trans
      rejects.accepts_move
  constructor
  · intro moved
    have member := (session.passMoved_sublist _).subset moved
    obtain ⟨i, scanned⟩ := List.mem_iff_getElem?.mp member
    exact ⟨member, (moves scanned).mp moved⟩
  · rintro ⟨member, spared⟩
    obtain ⟨i, scanned⟩ := List.mem_iff_getElem?.mp member
    exact (moves scanned).mpr spared

/-- What a pass does when the rejected moves are all that is refused. -/
theorem RejectsMoves.pass (rejects : session.RejectsMoves rejected) (ties : ScanOrder)
    (present : session.db.dlq = .ok table) :
    session.pass ties = session.after ((ties.batch session.db).length + 1)
        (session.db.movedAll table (session.passMoves (ties.batch session.db))) ∧
      Passed session.db table (session.passMoved (ties.batch session.db))
        (session.db.movedAll table (session.passMoves (ties.batch session.db)))
        (recordedAll table (session.passMoves (ties.batch session.db))) :=
  pass_accepted ties present rejects.accepts_scan

/-- And to each job of its batch. -/
theorem RejectsMoves.outcome (rejects : session.RejectsMoves rejected) (ties : ScanOrder)
    (present : session.db.dlq = .ok table) :
    PassOutcome session (ties.batch session.db) (session.pass ties).db
      (session.passMoves (ties.batch session.db)).length := by
  rw [(rejects.pass ties present).1]
  refine passOutcome (ties.pairwise_batch _) (ties.inQueue_batch _) present fun job scanned => ?_
  obtain ⟨row, -, -, unrecorded, joined⟩ := ScanOrder.of_mem_batch scanned
  rwa [Database.failedJob?_id joined]

/-- Passes add no job. -/
theorem RejectsMoves.passes (rejects : session.RejectsMoves rejected)
    (present : session.db.dlq = .ok table) (orders : Nat → ScanOrder) (n : Nat) :
    (session.passes orders n).RejectsMoves rejected ∧
      (∃ table', (session.passes orders n).db.dlq = .ok table') ∧
      (session.passes orders n).db.jobs.rows.Sublist session.db.jobs.rows := by
  induction n with
  | zero => exact ⟨rejects, ⟨table, present⟩, List.Sublist.refl _⟩
  | succ n ih =>
      obtain ⟨rejects', ⟨table', present'⟩, fewer⟩ := ih
      obtain ⟨ran, passed⟩ := rejects'.pass (orders n) present'
      rw [Session.passes, ran]
      exact ⟨rejects'.after _ _, ⟨_, passed.present⟩, List.filter_sublist.trans fewer⟩

/-- A job that a pass captures is not in the queue afterwards. -/
theorem RejectsMoves.gone_of_capturesIn (rejects : session.RejectsMoves rejected)
    (present : session.db.dlq = .ok table)
    (captured : session.CapturesIn (ties.batch session.db) row.id) :
    row ∉ (session.pass ties).db.jobs.rows := by
  obtain ⟨i, job, taken, record, scanned, same, takes⟩ := captured
  have outcome := rejects.outcome ties present
  have accepted : session.Accepts (i + 1) (.moveFailedJob job.toInsert) := by
    by_contra refused
    have still := outcome.refused i job scanned refused ▸ takes.taken
    exact ((takes.removed taken).mp still).2 rfl
  exact fun left => outcome.gone i job scanned accepted row left same.symm

/-- A session in which the job of `row` is waiting for its capture. -/
structure Waiting (session : Session) (rejected : Int → Bool) (row : JobRow) : Prop where
  rejects : session.RejectsMoves rejected
  present : ∃ table, session.db.dlq = .ok table
  member : row ∈ session.db.jobs.rows
  failed : row.failed = true
  unrecorded : ¬ session.db.Recorded row.id
  spared : rejected row.id = false
  named : ∃ identifier, session.db.taskIdentifier? row.taskId = some identifier

namespace Waiting

/-- The job of a waiting row is among those the scan can find. -/
theorem eligible (waiting : session.Waiting rejected row) :
    ∃ job ∈ session.db.eligible, job.id = row.id ∧ job.updatedAt = row.updatedAt := by
  obtain ⟨identifier, named⟩ := waiting.named
  obtain ⟨job, joined⟩ : ∃ job, session.db.failedJob? row = some job := by
    simp [Database.failedJob?, named]
  exact ⟨job, Database.mem_eligible.mpr
      ⟨row, waiting.member, waiting.failed, waiting.unrecorded, joined⟩,
    Database.failedJob?_id joined, Database.failedJob?_updatedAt joined⟩

/-- A pass captures the job, or leaves it waiting. -/
theorem pass (waiting : session.Waiting rejected row) (ties : ScanOrder) :
    session.CapturesIn (ties.batch session.db) row.id ∨
      (session.pass ties).Waiting rejected row ∧
        ∀ job ∈ ties.batch session.db, job.id ≠ row.id := by
  obtain ⟨table, present⟩ := waiting.present
  by_cases scanned : ∃ job ∈ ties.batch session.db, job.id = row.id
  · obtain ⟨job, among, same⟩ := scanned
    obtain ⟨i, entry⟩ := List.mem_iff_getElem?.mp among
    obtain ⟨taken, record, takes⟩ := (waiting.rejects.outcome ties present).moved i job entry
      (waiting.rejects.accepts_move.mpr (same ▸ waiting.spared))
    exact .inl ⟨i, job, taken, record, entry, same, takes⟩
  · have outside : ∀ job ∈ ties.batch session.db, job.id ≠ row.id := by simpa using scanned
    have others : ∀ job ∈ session.passMoved (ties.batch session.db), job.id ≠ row.id :=
      fun job moved => outside job ((session.passMoved_sublist _).subset moved)
    obtain ⟨ran, passed⟩ := waiting.rejects.pass ties present
    refine .inr ⟨?_, outside⟩
    rw [ran]
    exact
      { rejects := waiting.rejects.after _ _
        present := ⟨_, passed.present⟩
        member := (passed.jobs_iff row).mpr
          ⟨waiting.member, fun job moved => (others job moved).symm⟩
        failed := waiting.failed
        unrecorded := mt (passed.recorded_of_outside present others) waiting.unrecorded
        spared := waiting.spared
        named := waiting.named }

/-- What a pass leaves of the eligible jobs is still eligible, in the same order. -/
theorem eligible_pass (waiting : session.Waiting rejected row) :
    (session.db.eligible.filter fun job =>
        decide (job.id ∉ (session.passMoved (ties.batch session.db)).map FailedJob.id)).Sublist
      (session.pass ties).db.eligible := by
  obtain ⟨table, present⟩ := waiting.present
  obtain ⟨ran, passed⟩ := waiting.rejects.pass ties present
  rw [ran]
  set db' := session.db.movedAll table (session.passMoves (ties.batch session.db))
  set open' := fun r : JobRow => r.failed && !decide (session.db.Recorded r.id)
  set left := fun r : JobRow =>
    decide (r.id ∉ (session.passMoved (ties.batch session.db)).map FailedJob.id)
  have joined : (session.db.eligible.filter fun job =>
      decide (job.id ∉ (session.passMoved (ties.batch session.db)).map FailedJob.id)) =
        ((session.db.jobs.rows.filter open').filter left).filterMap session.db.failedJob? :=
    ListFacts.filter_filterMap_eq fun r job found => by
      simp only [left, Database.failedJob?_id found]
  have rows : db'.jobs.rows = session.db.jobs.rows.filter left := by
    refine List.filter_congr fun r _ => ?_
    rw [Bool.eq_iff_iff]
    simp only [left, Session.passMoved, List.map_map, Bool.not_eq_true', List.any_eq_false,
      decide_eq_true_eq, List.mem_map, not_exists, not_and, Function.comp_apply]
    exact forall₂_congr fun move _ => not_congr eq_comm
  have unrecorded : ∀ r ∈ session.db.jobs.rows.filter left, ¬ session.db.Recorded r.id →
      ¬ db'.Recorded r.id := by
    intro r among unrecorded
    have stays := of_decide_eq_true (List.mem_filter.mp among).2
    exact mt (passed.recorded_of_outside present fun job moved same =>
      stays (List.mem_map.mpr ⟨job, moved, same⟩)) unrecorded
  have still : (session.db.jobs.rows.filter open').filter left =
      ((db'.jobs.rows.filter fun r => r.failed && !decide (db'.Recorded r.id)).filter open') := by
    rw [rows, List.filter_comm, List.filter_filter (l := session.db.jobs.rows.filter left)]
    refine List.filter_congr fun r among => ?_
    cases failed : r.failed with
    | false => simp [open', failed]
    | true =>
        by_cases recorded : session.db.Recorded r.id
        · simp [open', recorded]
        · simp [open', failed, recorded, unrecorded r among recorded]
  rw [joined, still]
  exact List.filter_sublist.filterMap _

/-- So the jobs before a waiting one that are rejected stay before it. -/
theorem obstacles_pass (waiting : session.Waiting rejected row) (ties : ScanOrder) :
    (session.db.obstacles rejected row).length ≤
      ((session.pass ties).db.obstacles rejected row).length := by
  set moved := session.passMoved (ties.batch session.db)
  have kept : session.db.obstacles rejected row = (session.db.eligible.filter fun job =>
      decide (job.id ∉ moved.map FailedJob.id)).filter fun job =>
        rejected job.id && decide (job.updatedAt ≤ row.updatedAt) := by
    rw [List.filter_filter]
    refine List.filter_congr fun job _ => ?_
    cases refused : rejected job.id with
    | false => rfl
    | true =>
        have stays : job.id ∉ moved.map FailedJob.id := by
          rintro among
          obtain ⟨other, taken, same⟩ := List.mem_map.mp among
          have spared := (waiting.rejects.mem_passMoved.mp taken).2
          exact Bool.false_ne_true (spared.symm.trans (same ▸ refused))
        simp [stays]
  rw [kept]
  exact (waiting.eligible_pass.filter _).length_le

/-- With a hundred obstacles that all come first a pass does not reach the job. -/
theorem pass_of_many (waiting : session.Waiting rejected row)
    (many : 100 ≤ (session.db.obstacles rejected row).length)
    (first : (ties.order session.db).Pairwise fun a b => a.updatedAt < b.updatedAt ∨
      a.updatedAt = b.updatedAt ∧ (rejected b.id = true → rejected a.id = true)) :
    (session.pass ties).Waiting rejected row ∧
      100 ≤ ((session.pass ties).db.obstacles rejected row).length := by
  refine (waiting.pass ties).elim (fun captured => ?_) fun left =>
    ⟨left.1, many.trans (waiting.obstacles_pass ties)⟩
  obtain ⟨i, job, -, -, entry, same, -⟩ := captured
  have among : job ∈ ties.batch session.db := List.mem_of_getElem? entry
  have joined := ScanOrder.joined_of_scanned among waiting.member same
  have touched := Database.failedJob?_updatedAt joined
  have few := Paging.length_filter_lt
    (p := fun job => rejected job.id && decide (job.updatedAt ≤ row.updatedAt))
    first among (by simp [same, waiting.spared]) fun other obstacle late => ?_
  · rw [((ties.perm session.db).filter _).length_eq] at few
    exact absurd few (not_lt.mpr many)
  · simp only [Bool.and_eq_true, decide_eq_true_eq] at obstacle
    rcases late with later | ⟨-, picks⟩
    · exact absurd (touched ▸ later) (not_lt.mpr obstacle.2)
    · have spared := waiting.spared
      rw [← same, picks obstacle.1] at spared
      cases spared

/-- With fewer, a pass that does not take the job takes another. -/
theorem pass_of_few (waiting : session.Waiting rejected row)
    (few : (session.db.obstacles rejected row).length < 100)
    (left : ∀ job ∈ ties.batch session.db, job.id ≠ row.id) :
    (session.pass ties).db.jobs.rows.length < session.db.jobs.rows.length := by
  obtain ⟨table, present⟩ := waiting.present
  obtain ⟨identifier, named⟩ := waiting.named
  obtain ⟨full, before⟩ :=
    ScanOrder.full_of_left_out waiting.member waiting.failed waiting.unrecorded named left
  obtain ⟨job, scanned, spared⟩ : ∃ job ∈ ties.batch session.db, rejected job.id = false := by
    by_contra none
    have refused : ∀ job ∈ ties.batch session.db,
        (rejected job.id && decide (job.updatedAt ≤ row.updatedAt)) = true := by
      intro job scanned
      have rejects : rejected job.id = true := by
        by_contra spared
        exact none ⟨job, scanned, by simpa using spared⟩
      simp [rejects, before job scanned]
    have among : ((ties.batch session.db).filter fun job =>
        rejected job.id && decide (job.updatedAt ≤ row.updatedAt)).length ≤
          (session.db.obstacles rejected row).length :=
      ((List.take_sublist ..).filter _).length_le.trans
        ((ties.perm session.db).filter _).length_eq.le
    rw [List.filter_eq_self.mpr refused, full] at among
    omega
  have moved := waiting.rejects.mem_passMoved.mpr ⟨scanned, spared⟩
  have some := List.length_pos_of_mem moved
  rw [passMoved, List.length_map] at some
  have counted := (waiting.rejects.outcome ties present).count
  omega

/-- As long as its row is in the queue, the job is waiting. -/
theorem of_mem (waiting : session.Waiting rejected row) (n : Nat)
    (member : row ∈ (session.passes orders n).db.jobs.rows) :
    (session.passes orders n).Waiting rejected row := by
  induction n with
  | zero => exact waiting
  | succ n ih =>
      obtain ⟨table, present⟩ := waiting.present
      obtain ⟨rejects', ⟨table', present'⟩, -⟩ := waiting.rejects.passes present orders n
      have passed := (rejects'.pass (orders n) present')
      have before : row ∈ (session.passes orders n).db.jobs.rows := by
        rw [Session.passes, passed.1] at member
        exact ((passed.2.jobs_iff row).mp member).1
      rcases (ih before).pass (orders n) with captured | ⟨waiting', -⟩
      · exact absurd member (rejects'.gone_of_capturesIn present' captured)
      · exact waiting'

/-- Every pass that leaves the job takes another, so enough passes take it. -/
theorem capturedEventually (waiting : session.Waiting rejected row)
    (room : ∀ n, row ∈ (session.passes orders n).db.jobs.rows →
      ((session.passes orders n).db.obstacles rejected row).length < 100) :
    session.CapturedEventually orders row.id := by
  induction size : session.db.jobs.rows.length using Nat.strongRecOn
    generalizing session orders with
  | ind size ih =>
      rcases waiting.pass (orders 0) with captured | ⟨waiting', left⟩
      · exact ⟨0, captured⟩
      · have fewer := waiting.pass_of_few (room 0 waiting.member) left
        obtain ⟨n, captured⟩ := @ih _ (size ▸ fewer) _ (fun i => orders (i + 1)) waiting'
          (fun n => by rw [← passes_succ]; exact room (n + 1)) rfl
        exact ⟨n + 1, by rw [passes_succ]; exact captured⟩

/-- With a hundred obstacles that come first in every pass, no number of passes reaches the job. -/
theorem passes_of_many (waiting : session.Waiting rejected row)
    (many : 100 ≤ (session.db.obstacles rejected row).length)
    (first : ∀ i, ((orders i).order (session.passes orders i).db).Pairwise fun a b =>
      a.updatedAt < b.updatedAt ∨
        a.updatedAt = b.updatedAt ∧ (rejected b.id = true → rejected a.id = true)) (n : Nat) :
    (session.passes orders n).Waiting rejected row ∧
      100 ≤ ((session.passes orders n).db.obstacles rejected row).length := by
  induction n with
  | zero => exact ⟨waiting, many⟩
  | succ n ih => exact ih.1.pass_of_many ih.2 (first n)

end Waiting

/-- The passes `m + n` are `n` more passes after the first `m`. -/
theorem passes_add (m n : Nat) :
    session.passes orders (m + n) =
      (session.passes orders m).passes (fun i => orders (m + i)) n := by
  induction n with
  | zero => rfl
  | succ n ih => rw [← Nat.add_assoc, passes, passes, ih]

/-- A row that is in the queue has been there all the time. -/
theorem RejectsMoves.mem_earlier (rejects : session.RejectsMoves rejected)
    (present : session.db.dlq = .ok table) {m n : Nat} (earlier : m ≤ n)
    (left : row ∈ (session.passes orders n).db.jobs.rows) :
    row ∈ (session.passes orders m).db.jobs.rows := by
  obtain ⟨k, rfl⟩ := Nat.exists_eq_add_of_le earlier
  obtain ⟨rejects', ⟨table', present'⟩, -⟩ := rejects.passes present orders m
  rw [passes_add] at left
  exact (rejects'.passes present' _ k).2.2.subset left

/-- A job whose row stays in the queue is not captured. -/
theorem RejectsMoves.not_capturedEventually (rejects : session.RejectsMoves rejected)
    (present : session.db.dlq = .ok table)
    (stays : ∀ n, row ∈ (session.passes orders n).db.jobs.rows) :
    ¬ session.CapturedEventually orders row.id := by
  rintro ⟨n, captured⟩
  obtain ⟨rejects', ⟨table', present'⟩, -⟩ := rejects.passes present orders n
  exact rejects'.gone_of_capturesIn present' captured (stays (n + 1))

/-- A job whose task has no row is never taken. -/
theorem mem_passes_of_unnamed (rejects : session.RejectsMoves rejected)
    (present : session.db.dlq = .ok table) (member : row ∈ session.db.jobs.rows)
    (unnamed : session.db.taskIdentifier? row.taskId = none) (n : Nat) :
    row ∈ (session.passes orders n).db.jobs.rows := by
  induction n generalizing session orders table with
  | zero => exact member
  | succ n ih =>
      obtain ⟨ran, passed⟩ := rejects.pass (orders 0) present
      rw [passes_succ, ran]
      refine @ih _ _ _ (rejects.after _ _) passed.present ?_ unnamed
      refine (passed.jobs_iff row).mpr ⟨member, fun job moved same => ?_⟩
      have joined := ScanOrder.joined_of_scanned ((session.passMoved_sublist _).subset moved)
        member same.symm
      simp [Database.failedJob?, unnamed] at joined

/-- A job with a hundred obstacles at some pass is not captured when they come first from then
on. -/
theorem Waiting.exists_starving (waiting : session.Waiting rejected row) {n : Nat}
    (left : row ∈ (session.passes orders n).db.jobs.rows)
    (many : 100 ≤ ((session.passes orders n).db.obstacles rejected row).length) :
    ∃ orders', ¬ session.CapturedEventually orders' row.id := by
  obtain ⟨table, present⟩ := waiting.present
  obtain ⟨ties, first⟩ := ScanOrder.exists_first fun job => rejected job.id
  set starving : Nat → ScanOrder := fun i => if i < n then orders i else ties
  have same : session.passes starving n = session.passes orders n :=
    passes_congr fun i before => if_pos before
  have after : (fun i => starving (n + i)) = fun _ => ties :=
    funext fun i => if_neg (Nat.not_lt.mpr (Nat.le_add_right n i))
  refine ⟨starving, waiting.rejects.not_capturedEventually present fun m => ?_⟩
  refine waiting.rejects.mem_earlier present (Nat.le_add_left m n) ?_
  rw [passes_add, after, same]
  exact ((waiting.of_mem n left).passes_of_many many (fun _ => first _) m).1.member

/-- A failed job that is not recorded is captured after finitely many passes, whatever the order of
the jobs that tie, exactly when its task has a row and at no pass it waits for there are a hundred
jobs whose moves are refused among those that were touched no later. -/
theorem captured_iff_room (rejects : session.RejectsMoves rejected)
    (present : session.db.dlq = .ok table) (member : row ∈ session.db.jobs.rows)
    (failed : row.failed = true) (unrecorded : ¬ session.db.Recorded row.id)
    (spared : rejected row.id = false) :
    (∀ orders, session.CapturedEventually orders row.id) ↔
      (∃ identifier, session.db.taskIdentifier? row.taskId = some identifier) ∧
        ∀ orders n, row ∈ (session.passes orders n).db.jobs.rows →
          ((session.passes orders n).db.obstacles rejected row).length < 100 := by
  have waits : ∀ {identifier}, session.db.taskIdentifier? row.taskId = some identifier →
      session.Waiting rejected row := fun {identifier} named =>
    ⟨rejects, ⟨table, present⟩, member, failed, unrecorded, spared, identifier, named⟩
  constructor
  · intro captured
    obtain ⟨identifier, named⟩ : ∃ identifier,
        session.db.taskIdentifier? row.taskId = some identifier := by
      rw [← Option.ne_none_iff_exists']
      intro unnamed
      exact rejects.not_capturedEventually present
        (mem_passes_of_unnamed rejects present member unnamed) (captured fun _ => default)
    refine ⟨⟨identifier, named⟩, fun orders n left => ?_⟩
    by_contra many
    obtain ⟨orders', starved⟩ := (waits named).exists_starving left (not_lt.mp many)
    exact starved (captured orders')
  · rintro ⟨⟨identifier, named⟩, room⟩ orders
    exact (waits named).capturedEventually (room orders)

/-- A database that refuses the moves of the rejected jobs. -/
def rejecting (rejected : Int → Bool) (db : Database) : Session where
  db := db
  upcoming _ :=
    { now := 0
      fault := fun
        | .moveFailedJob values =>
            if rejected values.originalJobId then some (.database "value too long for type")
            else none
        | _ => none }

theorem rejecting_rejectsMoves (rejected : Int → Bool) (db : Database) :
    (rejecting rejected db).RejectsMoves rejected := by
  intro n s
  constructor
  · rintro accepted values rfl
    by_contra refused
    simp [Accepts, rejecting, refused] at accepted
  · intro spares
    cases s with
    | moveFailedJob values => simp [Accepts, rejecting, spares values rfl]
    | _ => rfl

/-- The job behind a single one that is rejected is captured. -/
theorem captured_behind_one :
    (rejecting (fun jobId => jobId ≤ 1) (exhaustedJobs 2)).CapturedEventually
      (fun _ => default) 2 := by
  have rejects := rejecting_rejectsMoves (fun jobId => jobId ≤ 1) (exhaustedJobs 2)
  have member : exhaustedJob 2 ∈ (exhaustedJobs 2).jobs.rows := .tail _ (.head _)
  refine (@captured_iff_room _ _ _ (exhaustedJob 2) rejects rfl member rfl (by decide) rfl).mpr
    ⟨⟨_, rfl⟩, fun orders n _ => ?_⟩ _
  refine lt_of_le_of_lt (Database.length_obstacles_le ..) (lt_of_le_of_lt
    (rejects.passes rfl orders n).2.2.length_le ?_)
  show 2 < 100
  omega

/-- The job behind a hundred that are rejected, all of them touched before it, is never captured. -/
theorem starved_behind_hundred :
    (rejecting (fun jobId => jobId ≤ 100) (exhaustedJobs 101)).RejectsMoves
        (fun jobId => jobId ≤ 100) ∧
      (∀ row ∈ (exhaustedJobs 101).jobs.rows, row.id ≠ 101 → row.updatedAt < 101) ∧
      exhaustedJob 101 ∈ (exhaustedJobs 101).jobs.rows ∧ (exhaustedJob 101).failed = true ∧
      ¬ (exhaustedJobs 101).Recorded 101 ∧
      ∀ orders, ¬ (rejecting (fun jobId => jobId ≤ 100) (exhaustedJobs 101)).CapturedEventually
        orders 101 := by
  have rejects := rejecting_rejectsMoves (fun jobId => jobId ≤ 100) (exhaustedJobs 101)
  have rows : ∀ row ∈ (exhaustedJobs 101).jobs.rows,
      row.updatedAt = row.id ∧ row.id ≤ 101 := by
    intro row member
    obtain ⟨i, below, rfl⟩ := List.mem_map.mp member
    have below := List.mem_range.mp below
    refine ⟨rfl, ?_⟩
    show (i : Int) + 1 ≤ 101
    omega
  have member : exhaustedJob 101 ∈ (exhaustedJobs 101).jobs.rows :=
    List.mem_map.mpr ⟨100, List.mem_range.mpr (by omega), rfl⟩
  have unrecorded : ¬ (exhaustedJobs 101).Recorded 101 := by decide
  have waiting : (rejecting (fun jobId => jobId ≤ 100) (exhaustedJobs 101)).Waiting
      (fun jobId => jobId ≤ 100) (exhaustedJob 101) :=
    ⟨rejects, ⟨_, rfl⟩, member, rfl, unrecorded, rfl, _, rfl⟩
  have many : 100 ≤ ((exhaustedJobs 101).obstacles (fun jobId => jobId ≤ 100)
      (exhaustedJob 101)).length := by
    decide +kernel
  refine ⟨rejects, fun row member other => ?_, member, rfl, unrecorded, fun orders =>
    @RejectsMoves.not_capturedEventually _ _ _ (exhaustedJob 101) _ rejects rfl fun n => ?_⟩
  · obtain ⟨touched, last⟩ := rows row member
    exact touched ▸ lt_of_le_of_ne last other
  · -- no two jobs tie, so every order has the rejected ones first
    refine (waiting.passes_of_many many (fun i => ?_) n).1.member
    refine List.Pairwise.imp_of_mem (fun {a b} first second sorted => ?_) ((orders i).sorted _)
    obtain ⟨r, before, -, -, joined⟩ := ScanOrder.mem_order.mp first
    obtain ⟨r', before', -, -, joined'⟩ := ScanOrder.mem_order.mp second
    have fewer := (rejects.passes rfl orders i).2.2.subset
    have id := (rows r (fewer before)).1
    have id' := (rows r' (fewer before')).1
    rw [← Database.failedJob?_updatedAt joined, ← Database.failedJob?_id joined] at id
    rw [← Database.failedJob?_updatedAt joined', ← Database.failedJob?_id joined'] at id'
    rcases Int.lt_or_eq_of_le sorted with earlier | tied
    · exact .inl earlier
    · exact .inr ⟨tied, fun refused => by rwa [← id, tied, id']⟩

end Session

end Backfill
