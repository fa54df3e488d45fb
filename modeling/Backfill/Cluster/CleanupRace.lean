import Backfill.Cluster.Journal
import Backfill.Misc.ListFacts

/-!
# Whose records the cleanup after a completion erases

The `JobComplete` hook deletes by the key the job was fetched with. While the job is executed an
enqueue may give the key to a newer job, and that one may fail and be captured before the hook
runs: then the hook erases the record of the newer job. It does not happen as long as nothing is
captured under a key that an execution, or the hook of one that has ended, still goes by.
-/

namespace Backfill

/-- The statement captures a job whose key is stored as `key`: it is not refused, and if it is a
move, it finds its row. -/
def Statement.CapturesUnder (s : Statement) (fault : Option ForeignError) (db : Database)
    (key : String) : Prop :=
  match s with
  | .moveFailedJob values => fault = none ∧ storedKey values.jobKey = some key ∧
      ∃ row ∈ db.jobs.rows, row.id = values.originalJobId
  | .upsertDlq values => fault = none ∧ storedKey values.jobKey = some key
  | _ => False

/-- The key of a record is the one its capture was made under. -/
theorem Statement.capturesUnder_of_entry {s : Statement} {now : Timestamp}
    {fault : Option ForeignError} {db : Database} {entry : Entry} {record : DlqJob} {key : String}
    (among : entry ∈ s.entries now fault db) (captured : entry.captured? = some record)
    (keyed : record.jobKey = some key) : s.CapturesUnder fault db key := by
  have upserted : ∀ (values : DlqInsert) (table : DlqTable), entry ∈ values.entries table now →
      storedKey values.jobKey = some key := by
    intro values table among
    have same : record = values.upsertedIn table now := by
      unfold DlqInsert.entries at among
      split at among <;> rw [List.mem_singleton.mp among] at captured <;>
        exact (Option.some.inj captured).symm
    rw [← keyed, same]
    exact (values.jobKey_upsertedIn table now).1.symm
  unfold entries at among
  split at among
  · split at among
    next row found =>
      obtain ⟨member, id⟩ := SerialTable.get?_eq_some.mp found
      exact ⟨rfl, upserted _ _ among, row, member, id⟩
    next => cases among
  · exact ⟨rfl, upserted _ _ among⟩
  · rw [List.mem_singleton.mp among] at captured
    cases captured
  · cases among

namespace Journal

/-- A handler whose job was fetched with `key`, or the hook of its completion, has not ended. -/
def UnderKey (j : Journal) (key : String) : Prop :=
  (∃ e ∈ j.cluster.running, e.job.key = some key) ∨
    ∃ hook ∈ j.hooks, hook.routine.next? ≠ none ∧ hook.job.key = some key

/-- Any step that captures nothing under a key somebody still goes by. -/
def CapturesIdleKeys (j : Journal) (a : JournalAction) : Prop :=
  ∀ op key, j.sends? a = some op → op.CapturesUnder a.fault j.db key → ¬ j.UnderKey key

/-- Since it was fetched as entry `n` of the log, nothing has been captured under the key of the
job. -/
def QuietSince (log : List Entry) (n : Nat) (job : Job) : Prop :=
  log[n]? = some (.fetched job) ∧ ∀ (k : Nat) (entry : Entry) (record : DlqJob) (key : String),
    n ≤ k → log[k]? = some entry → entry.captured? = some record → record.jobKey = some key →
      job.key ≠ some key

theorem QuietSince.append {log more : List Entry} {n : Nat} {job : Job}
    (quiet : QuietSince log n job) (others : ∀ entry ∈ more, ∀ record key,
      entry.captured? = some record → record.jobKey = some key → job.key ≠ some key) :
    QuietSince (log ++ more) n job := by
  obtain ⟨fetched, before⟩ := quiet
  obtain ⟨inside, -⟩ := List.getElem?_eq_some_iff.mp fetched
  refine ⟨(List.getElem?_append_left inside).trans fetched, ?_⟩
  intro k entry record key later found captured keyed
  by_cases old : k < log.length
  · rw [List.getElem?_append_left old] at found
    exact before k entry record key later found captured keyed
  · rw [List.getElem?_append_right (not_lt.mp old)] at found
    exact others entry (List.mem_of_getElem? found) record key captured keyed

/-- The records that entry `i` of the log says a hook has erased had all been captured before
entry `n`, the fetch of the job. -/
def ErasesBefore (log : List Entry) (i : Nat) (job : Job) (n : Nat) (records : List DlqJob) :
    Prop :=
  log[n]? = some (.fetched job) ∧ ∀ record ∈ records, ∀ (k : Nat) (entry : Entry) (other : DlqJob),
    n ≤ k → k < i → log[k]? = some entry → entry.captured? = some other → other.id ≠ record.id

/-- What executions and pending hooks have seen of the log, and what hooks have erased. -/
structure ErasesOlder (j : Journal) (table : DlqTable) : Prop where
  present : j.db.dlq = .ok table
  known : ∀ entry ∈ j.log, ∀ record, entry.captured? = some record → Known table record
  aligned : j.tickets.length = j.cluster.running.length
  running : ∀ (i : Nat) (e : Execution) (n : Nat), j.cluster.running[i]? = some e →
    j.tickets[i]? = some n → QuietSince j.log n e.job
  staged : ∀ hook ∈ j.hooks, HookStage hook
  pending : ∀ hook ∈ j.hooks, hook.routine.next? ≠ none →
    QuietSince j.log hook.fetchedAt hook.job
  /-- what was erased had been captured before the job was fetched -/
  erased : ∀ (i : Nat) (job : Job) (n : Nat) (records : List DlqJob),
    j.log[i]? = some (.erased job n records) → ErasesBefore j.log i job n records

namespace ErasesOlder

variable {tables : CharTables} {j j' : Journal} {a : JournalAction} {table : DlqTable}

theorem initial {now : Timestamp} {db : Database} (present : db.dlq = .ok table) :
    ErasesOlder (initial now db) table := by
  refine ⟨present, ?_, rfl, ?_, ?_, ?_, ?_⟩ <;> simp [Journal.initial, Cluster.initial]

/-- A capture that a step enters is the capture its statement makes. -/
theorem captures_of_new {entry : Entry} (new : j.NewEntry a entry) {record : DlqJob}
    {key : String} (captured : entry.captured? = some record) (keyed : record.jobKey = some key) :
    ∃ op, j.sends? a = some op ∧ op.CapturesUnder a.fault j.db key := by
  cases new with
  | counted sends among => exact ⟨_, sends, Statement.capturesUnder_of_entry among captured keyed⟩
  | _ => cases captured

/-- Only a hook erases. -/
theorem hook_of_new {job : Job} {n : Nat} {records : List DlqJob}
    (new : j.NewEntry a (.erased job n records)) : ∃ i fault, a = .hookSend i fault := by
  cases new with
  | counted sends among => cases Statement.counts_entries _ among
  | erased => exact ⟨_, _, rfl⟩

/-- A step that is allowed leaves it quiet for those who go by a key. -/
theorem quiet_step {n : Nat} {job : Job} (allowed : CapturesIdleKeys j a)
    (taken : j.step tables a = some j') (going : ∀ key, job.key = some key → j.UnderKey key)
    (quiet : QuietSince j.log n job) : QuietSince j'.log n job := by
  obtain ⟨more, log, entered⟩ := log_step taken
  rw [log]
  refine quiet.append fun entry among record key captured keyed same => ?_
  obtain ⟨op, sends, under⟩ := captures_of_new (entered entry among) captured keyed
  exact allowed op key sends under (going key same)

theorem known_step {table' : DlqTable} {entries marks : List Entry} (inv : ErasesOlder j table)
    (change : DlqChange j.cluster.now table table' entries)
    (log : j'.log = j.log ++ (entries ++ marks))
    (silent : ∀ entry ∈ marks, entry.counts = false) :
    ∀ entry ∈ j'.log, ∀ record, entry.captured? = some record → Known table' record := by
  intro entry among record captured
  rw [log] at among
  rcases List.mem_append.mp among with old | new
  · exact (inv.known entry old record captured).change change
  · rcases List.mem_append.mp new with ofStatement | mark
    · exact .of_captured change ofStatement captured
    · rw [Entry.captured?_of_mark (silent entry mark)] at captured
      cases captured

/-- Executions keep their tickets. -/
theorem running_step (inv : ErasesOlder j table) (allowed : CapturesIdleKeys j a)
    (taken : j.step tables a = some j') :
    j'.tickets.length = j'.cluster.running.length ∧
      ∀ (i : Nat) (e : Execution) (n : Nat), j'.cluster.running[i]? = some e →
        j'.tickets[i]? = some n → QuietSince j'.log n e.job := by
  have before : ∀ (i : Nat) (e : Execution) (n : Nat), j.cluster.running[i]? = some e →
      j.tickets[i]? = some n → QuietSince j'.log n e.job := fun i e n entry ticket =>
    quiet_step allowed taken (fun key same => .inl ⟨e, List.mem_of_getElem? entry, same⟩)
      (inv.running i e n entry ticket)
  cases a with
  | requeue dlqId notes =>
      obtain rfl := Option.some.inj taken
      exact ⟨inv.aligned, before⟩
  | hookSend k fault =>
      obtain ⟨hook, op, next, -, -, rfl⟩ := hookSend_some taken
      exact ⟨inv.aligned, before⟩
  | requeueSend k fault =>
      obtain ⟨requeue, op, next, -, -, rfl⟩ := requeueSend_some taken
      exact ⟨inv.aligned, before⟩
  | base b =>
      obtain ⟨cluster, moved, rfl⟩ := base_some taken
      cases b with
      | fetch worker jobId =>
          obtain ⟨⟨job, db⟩, got, rfl⟩ := Option.map_eq_some_iff.mp moved
          refine ⟨by simp [ticketsAfter, inv.aligned], fun i e n entry ticket => ?_⟩
          rcases ListFacts.getElem?_concat ticket with old | ⟨rfl, rfl⟩
          · rcases ListFacts.getElem?_concat entry with old' | ⟨rfl, -⟩
            · exact before i e n old' old
            · rw [List.getElem?_eq_none (inv.aligned.le)] at old
              cases old
          · rcases ListFacts.getElem?_concat entry with old | ⟨-, rfl⟩
            · rw [List.getElem?_eq_none (inv.aligned.ge)] at old
              cases old
            · -- the fetch itself is the last entry
              have new : j.entriesOf (.fetch worker jobId) = [.fetched job] := by
                simp [entriesOf, got]
              refine ⟨by simp [new], fun k mark record key later found captured => ?_⟩
              rw [List.getElem?_append_right later, new] at found
              rw [List.mem_singleton.mp (List.mem_of_getElem? found)] at captured
              cases captured
      | complete i | fail i error retryAt | crash i =>
          obtain ⟨ended, -, rfl⟩ := Option.map_eq_some_iff.mp moved
          refine ⟨?_, fun k e n entry ticket => ?_⟩
          · simp only [ticketsAfter, List.length_eraseIdx, inv.aligned]
          · obtain ⟨k', entry, ticket⟩ := ListFacts.getElem?_eraseIdx_pair entry ticket
            exact before k' e n entry ticket
      | jobFail i =>
          obtain ⟨ctx, -, rfl⟩ := Option.map_eq_some_iff.mp moved
          exact ⟨inv.aligned, before⟩
      | advance micros | enqueue job | start routine =>
          obtain rfl := Option.some.inj moved
          exact ⟨inv.aligned, before⟩
      | send i fault =>
          obtain ⟨op, next, -, rfl⟩ := Cluster.send_op moved
          exact ⟨inv.aligned, before⟩

/-- A completion hands its ticket to its hook. -/
theorem pending_step (inv : ErasesOlder j table) (allowed : CapturesIdleKeys j a)
    (taken : j.step tables a = some j') :
    ∀ hook ∈ j'.hooks, hook.routine.next? ≠ none → QuietSince j'.log hook.fetchedAt hook.job := by
  have before : ∀ hook ∈ j.hooks, hook.routine.next? ≠ none →
      QuietSince j'.log hook.fetchedAt hook.job := fun hook among pending =>
    quiet_step allowed taken (fun key same => .inr ⟨hook, among, pending, same⟩)
      (inv.pending hook among pending)
  cases a with
  | requeue dlqId notes =>
      obtain rfl := Option.some.inj taken
      exact before
  | requeueSend k fault =>
      obtain ⟨requeue, op, next, -, -, rfl⟩ := requeueSend_some taken
      exact before
  | hookSend k fault =>
      obtain ⟨hook, op, next, entry, calls, rfl⟩ := hookSend_some taken
      intro other among pending
      rcases List.mem_or_eq_of_mem_set among with old | rfl
      · exact before other old pending
      · obtain ⟨_, -, -, -, ends⟩ := (inv.staged hook (List.mem_of_getElem? entry)).sends calls
        exact absurd (by rw [ends]; rfl) pending
  | base b =>
      obtain ⟨cluster, moved, rfl⟩ := base_some taken
      intro hook among pending
      rcases List.mem_append.mp among with old | new
      · exact before hook old pending
      · cases b with
        | complete i =>
            obtain ⟨e, entry, rfl⟩ := Option.map_eq_some_iff.mp moved
            obtain rfl : hook = _ := by simpa [hooksOf, entry] using new
            obtain ⟨inside, -⟩ := List.getElem?_eq_some_iff.mp entry
            have ticket := List.getElem?_eq_getElem (inv.aligned ▸ inside)
            rw [ticket]
            exact quiet_step allowed taken
              (fun key same => .inl ⟨e, List.mem_of_getElem? entry, same⟩)
              (inv.running i e _ entry ticket)
        | _ => cases new

/-- What a hook erases has the key its job was fetched with, and since then nothing was captured
under that key. -/
theorem erased_step (inv : ErasesOlder j table) (taken : j.step tables a = some j') :
    ∀ (i : Nat) (job : Job) (n : Nat) (records : List DlqJob),
      j'.log[i]? = some (.erased job n records) → ErasesBefore j'.log i job n records := by
  obtain ⟨more, log, entered⟩ := log_step taken
  have before : ∀ (i : Nat) (job : Job) (n : Nat) (records : List DlqJob), i < j.log.length →
      j'.log[i]? = some (.erased job n records) → ErasesBefore j'.log i job n records := by
    intro i job n records inside entry
    rw [log, List.getElem?_append_left inside] at entry
    obtain ⟨fetched, older⟩ := inv.erased i job n records entry
    obtain ⟨started, -⟩ := List.getElem?_eq_some_iff.mp fetched
    rw [log]
    refine ⟨(List.getElem?_append_left started).trans fetched, ?_⟩
    intro record among k mark other later earlier found
    rw [List.getElem?_append_left (earlier.trans inside)] at found
    exact older record among k mark other later earlier found
  intro i job n records entry
  by_cases inside : i < j.log.length
  · exact before i job n records inside entry
  · have new : .erased job n records ∈ more := by
      rw [log, List.getElem?_append_right (not_lt.mp inside)] at entry
      exact List.mem_of_getElem? entry
    obtain ⟨k, fault, rfl⟩ := hook_of_new (entered _ new)
    obtain ⟨hook, op, next, started, calls, rfl⟩ := hookSend_some taken
    have member := List.mem_of_getElem? started
    obtain ⟨jobKey, keyed, rfl, -, -⟩ := (inv.staged hook member).sends calls
    obtain ⟨fetched, quiet⟩ := inv.pending hook member (by simp [calls, Program.next?])
    obtain ⟨began, -⟩ := List.getElem?_eq_some_iff.mp fetched
    have silent : (Statement.deleteDlqByJobKey jobKey).entries j.cluster.now fault j.db = [] := rfl
    simp only [silent, List.append_nil] at entry ⊢
    rw [List.getElem?_append_right (not_lt.mp inside)] at entry
    have erases : hook.entries (.deleteDlqByJobKey jobKey) fault j.db =
        [.erased hook.job hook.fetchedAt
          (table.rows.filter fun row => row.jobKey = some jobKey)] ∨
        hook.entries (.deleteDlqByJobKey jobKey) fault j.db = [] := by
      cases fault with
      | some error => exact .inr rfl
      | none => exact .inl (by simp only [Hook.entries, inv.present])
    rcases erases with one | none
    · rw [one] at entry ⊢
      have only := List.mem_singleton.mp (List.mem_of_getElem? entry)
      obtain ⟨rfl, rfl, rfl⟩ := Entry.erased.inj only
      have last : i = j.log.length := by
        obtain ⟨bound, -⟩ := List.getElem?_eq_some_iff.mp entry
        simp only [List.length_cons, List.length_nil] at bound
        omega
      refine ⟨(List.getElem?_append_left began).trans fetched, ?_⟩
      intro record among k mark other later earlier found captured sameId
      rw [List.getElem?_append_left (last ▸ earlier)] at found
      obtain ⟨row, key⟩ := List.mem_filter.mp among
      have known := inv.known mark (List.mem_of_getElem? found) other captured
      have otherKey := (known.2 record row sameId.symm).symm.trans (of_decide_eq_true key)
      exact quiet k mark other jobKey later found captured otherKey keyed
    · rw [none] at entry
      cases entry

/-- Every step that captures idle keys only. -/
theorem step (inv : ErasesOlder j table) (allowed : CapturesIdleKeys j a)
    (taken : j.step tables a = some j') : ∃ table', ErasesOlder j' table' := by
  obtain ⟨table', entries, marks, after, change, log, silent⟩ := dlq_step inv.present taken
  obtain ⟨aligned, running⟩ := inv.running_step allowed taken
  exact ⟨table', after, inv.known_step change log silent, aligned, running,
    hooks_step inv.staged taken, inv.pending_step allowed taken, inv.erased_step taken⟩

end ErasesOlder

/-- In every run in which nothing is captured under a key that an execution or a pending hook
goes by: what the hook of a job erases had been captured before the job was fetched. -/
theorem erased_captured_before (tables : CharTables) {now : Timestamp} {db : Database}
    {table : DlqTable} (present : db.dlq = .ok table) {as : List JournalAction} {j : Journal}
    (path : Transition.Run (step tables) CapturesIdleKeys (initial now db) as j) {i n : Nat}
    {job : Job} {records : List DlqJob} (entry : j.log[i]? = some (.erased job n records)) :
    ErasesBefore j.log i job n records := by
  obtain ⟨table', inv⟩ : ∃ table, ErasesOlder j table :=
    path.invariant (I := fun j => ∃ table, ErasesOlder j table)
      (fun _ _ _ ⟨_, inv⟩ allowed taken => inv.step allowed taken) ⟨table, .initial present⟩
  exact inv.erased i job n records entry

/-- The record of an earlier failure is cleaned up after the requeued job has succeeded. -/
theorem erased_captured_before_failedInvoice :
    ∃ as j job records, Transition.Run (step .ascii) CapturesIdleKeys
        (initial 0 (failedInvoice .null)) as j ∧
      records.length = 1 ∧ ErasesBefore j.log 4 job 3 records := by
  have path : Transition.Run (step .ascii) CapturesIdleKeys (initial 0 (failedInvoice .null))
      [.base (.start Client.processFailedJobs), .base (.send 0 none), .base (.send 0 none),
        .requeue 1 none, .requeueSend 0 none, .requeueSend 0 none, .requeueSend 0 none,
        .base (.fetch "worker" 2), .base (.complete 0), .hookSend 0 none] _ :=
    .cons (fun _ _ sends => by cases sends) rfl <|
      .cons (fun _ _ sends under => by cases sends; cases under) rfl <|
      .cons (fun _ _ _ _ going => by
        rcases going with ⟨_, among, -⟩ | ⟨_, among, -⟩ <;> cases among) rfl <|
      .cons (fun _ _ sends => by cases sends) rfl <|
      .cons (fun _ _ sends under => by cases sends; cases under) rfl <|
      .cons (fun _ _ sends under => by cases sends; cases under) rfl <|
      .cons (fun _ _ sends under => by cases sends; cases under) rfl <|
      .cons (fun _ _ sends => by cases sends) rfl <|
      .cons (fun _ _ sends => by cases sends) rfl <|
      .cons (fun _ _ sends under => by cases sends; cases under) rfl <| .nil _
  exact ⟨_, _, _, _, path, rfl, erased_captured_before .ascii rfl path rfl⟩

/-- While job 1 is executed, an enqueue under its key adds job 2, which fails and is captured;
the completion of job 1 erases the record of job 2. -/
theorem newer_record_erased :
    ∃ as j, Transition.Run (step .ascii) (fun _ _ => True)
        (initial 0 (Database.fresh.addJob 0 (invoiceJob (.string "first"))).2) as j ∧
      ∃ job record, j.log[5]? = some (.erased job 0 [record]) ∧ job.id = 1 ∧
        record.originalJobId = some 2 ∧ ¬ ErasesBefore j.log 5 job 0 [record] := by
  refine ⟨[.base (.fetch "worker" 1), .base (.enqueue (invoiceJob (.string "second"))),
    .base (.fetch "other" 2), .base (.fail 1 "boom" 0), .base (.start Client.processFailedJobs),
    .base (.send 0 none), .base (.send 0 none), .base (.send 0 none), .base (.complete 0),
    .hookSend 0 none], _, .of_run (by simp) rfl, _, _, rfl, rfl, rfl, fun erases => ?_⟩
  exact erases.2 _ (.head _) 4 _ _ (by decide) (by decide) rfl rfl rfl

end Journal

end Backfill
