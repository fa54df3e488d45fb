import Backfill.Misc.Transition
import Backfill.Graphile
import Backfill.PermanentFailurePlugin
import Backfill.Worker

/-!
# Workers and client routines on one database

A `Cluster` is the database, the clock, the handlers that are executing and the client
routines that are under way. A step is one atomic thing that happens to it: a worker
fetches, completes or fails a job, a process dies, time passes, somebody enqueues, or one
routine sends its next statement. So every run is an interleaving at statement
granularity, and the text of a routine is the one that also runs alone.
-/

namespace Backfill

/-- A handler at work: the job value it was given and when it was fetched. -/
structure Execution where
  worker : String
  job : Job
  queueName : Option String
  startedAt : Timestamp

/-- What a run is remembered by. No step reads it. -/
inductive Event
  /-- a move deleted `row` and left `record` in the DLQ -/
  | captured (row : JobRow) (record : DlqJob)
  /-- a handler ended well -/
  | succeeded (job : Job)
  /-- an enqueue wrote `row` -/
  | enqueued (row : JobRow)

structure Cluster where
  now : Timestamp
  db : Database
  running : List Execution
  /-- Failed attempts whose `JobFail` hook has not run yet. -/
  failures : List JobFailContext
  routines : List (Client Nat)
  history : List Event

inductive Action
  | advance (micros : Nat)
  | fetch (worker : String) (jobId : Int)
  | complete (i : Nat)
  | fail (i : Nat) (error : String) (retryAt : Timestamp)
  | crash (i : Nat)
  | jobFail (i : Nat)
  | enqueue (job : NewJob)
  | start (routine : Client Nat)
  | send (i : Nat) (fault : Option ForeignError)

/-- The capture a statement makes, if it is a move that finds its row. -/
def Statement.captures (s : Statement) (now : Timestamp) (fault : Option ForeignError)
    (db : Database) : List Event :=
  match s, fault, db.dlq with
  | .moveFailedJob values, none, .ok table =>
      match db.jobs.get? values.originalJobId with
      | some row => [.captured row (values.upsertedIn table now)]
      | none => []
  | _, _, _ => []

/-- A routine sends its next statement: what is left of it, the database it leaves and what
there is to remember. -/
def Client.send {α : Type} (now : Timestamp) (fault : Option ForeignError) (db : Database) :
    Client α → Option (Client α × Database × List Event)
  | .call s next =>
      some (next (s.answer now fault db).1, (s.answer now fault db).2, s.captures now fault db)
  | _ => none

/-- What is left after a statement has been sent. -/
theorem Client.send_call {α : Type} {now : Timestamp} {fault : Option ForeignError}
    {db db' : Database} {op : Statement} {next : Statement.Reply op → Client α}
    {rest : Client α} {events : List Event}
    (sent : Client.send now fault db (.call op next) = some (rest, db', events)) :
    rest = next (op.answer now fault db).1 ∧ db' = (op.answer now fault db).2 ∧
      events = op.captures now fault db := by
  obtain ⟨left, left', left''⟩ := by simpa only [send, Option.some.injEq, Prod.mk.injEq] using sent
  exact ⟨left.symm, left'.symm, left''.symm⟩

namespace Cluster

/-- A database that nobody is working on. -/
def initial (now : Timestamp) (db : Database) : Cluster where
  now := now
  db := db
  running := []
  failures := []
  routines := []
  history := []

/-- A worker takes a job. -/
def fetch (s : Cluster) (worker : String) (jobId : Int) : Option Cluster :=
  (s.db.getJob worker s.now jobId).map fun taken =>
    { s with
      db := taken.2
      running := s.running ++
        [{ worker := worker
           job := taken.1
           queueName := s.db.queueName? taken.1.jobQueueId
           startedAt := s.now }] }

/-- The handler of execution `i` returns `Ok`. -/
def complete (s : Cluster) (i : Nat) : Option Cluster :=
  s.running[i]?.map fun e =>
    { s with
      db := s.db.completeJob e.worker e.job.id
      running := s.running.eraseIdx i
      history := s.history ++ [.succeeded e.job] }

/-- The handler of execution `i` returns an error, and the hook is told. -/
def fail (s : Cluster) (i : Nat) (error : String) (retryAt : Timestamp) : Option Cluster :=
  s.running[i]?.map fun e =>
    { s with
      db := s.db.failJob e.worker e.job.id error retryAt s.now
      running := s.running.eraseIdx i
      failures := s.failures ++ [{ job := e.job, error := error }] }

/-- The process of execution `i` dies; its locks stay behind. -/
def crash (s : Cluster) (i : Nat) : Option Cluster :=
  s.running[i]?.map fun _ => { s with running := s.running.eraseIdx i }

/-- The hook for a failed attempt starts. -/
def jobFail (tables : CharTables) (s : Cluster) (i : Nat) : Option Cluster :=
  s.failures[i]?.map fun ctx =>
    { s with
      failures := s.failures.eraseIdx i
      routines := s.routines ++ [Client.permanentFailureHook tables ctx] }

/-- Somebody enqueues a job. -/
def enqueue (s : Cluster) (job : NewJob) : Cluster :=
  { s with
    db := (s.db.addJob s.now job).2
    history := s.history ++ (s.db.addJob s.now job).1.toList.map Event.enqueued }

/-- Routine `i` sends its next statement. -/
def send (s : Cluster) (i : Nat) (fault : Option ForeignError) : Option Cluster := do
  let routine ← s.routines[i]?
  let sent ← routine.send s.now fault s.db
  some { s with
    db := sent.2.1
    routines := s.routines.set i sent.1
    history := s.history ++ sent.2.2 }

/-- One step of the cluster; `none` when the action is not possible. -/
def step (tables : CharTables) (s : Cluster) : Action → Option Cluster
  | .advance micros => some { s with now := s.now + micros }
  | .fetch worker jobId => s.fetch worker jobId
  | .complete i => s.complete i
  | .fail i error retryAt => s.fail i error retryAt
  | .crash i => s.crash i
  | .jobFail i => s.jobFail tables i
  | .enqueue job => some (s.enqueue job)
  | .start routine => some { s with routines := s.routines ++ [routine] }
  | .send i fault => s.send i fault

/-- Routine `i` is about to send the statement `op`. -/
def Sends (s : Cluster) (i : Nat) (op : Statement) : Prop :=
  s.routines[i]?.bind Program.next? = some op

/-- A send is the send of one routine, with the database and the history it leaves. -/
theorem send_some {s s' : Cluster} {i : Nat} {fault : Option ForeignError}
    (sent : s.send i fault = some s') :
    ∃ routine rest db events, s.routines[i]? = some routine ∧
      routine.send s.now fault s.db = some (rest, db, events) ∧
      s' = { s with
        db := db, routines := s.routines.set i rest, history := s.history ++ events } := by
  simp only [send, Option.bind_eq_bind, Option.bind_eq_some_iff, Option.some.injEq] at sent
  obtain ⟨routine, found, ⟨rest, db, events⟩, sent, rfl⟩ := sent
  exact ⟨routine, rest, db, events, found, sent, rfl⟩

/-- A send answers one statement of one routine. -/
theorem send_op {s s' : Cluster} {i : Nat} {fault : Option ForeignError}
    (sent : s.send i fault = some s') :
    ∃ op next, s.routines[i]? = some (.call op next) ∧
      s' = { s with
        db := (op.answer s.now fault s.db).2
        routines := s.routines.set i (next (op.answer s.now fault s.db).1)
        history := s.history ++ op.captures s.now fault s.db } := by
  obtain ⟨routine, rest, db, events, entry, answered, rfl⟩ := send_some sent
  cases routine with
  | done value => cases answered
  | fail error => cases answered
  | call op next =>
      obtain ⟨rfl, rfl, rfl⟩ := Client.send_call answered
      exact ⟨op, next, entry, rfl⟩

theorem sends_of_entry {s : Cluster} {i : Nat} {op : Statement}
    {next : Statement.Reply op → Client Nat} (entry : s.routines[i]? = some (.call op next)) :
    s.Sends i op := by
  simp [Sends, entry, Program.next?]

/-- A fetch adds one execution of the row it locked. -/
theorem fetch_some {s s' : Cluster} {worker : String} {jobId : Int}
    (fetched : s.fetch worker jobId = some s') :
    ∃ row ∈ s.db.jobs.rows, ∃ job : Job, row.id = jobId ∧ row.isAvailable = true ∧
      row.runAt ≤ s.now ∧ s.db.queueFree row.jobQueueId = true ∧
      job.toJobRow = (JobRow.fetched worker s.now).apply row ∧
      s' = { s with
        db := s.db.lockJob worker s.now row
        running := s.running ++
          [{ worker := worker
             job := job
             queueName := s.db.queueName? row.jobQueueId
             startedAt := s.now }] } := by
  obtain ⟨⟨job, db⟩, taken, rfl⟩ := Option.map_eq_some_iff.mp fetched
  obtain ⟨row, member, key, available, due, free, copied, rfl⟩ := Database.getJob_some taken
  refine ⟨row, member, job, key, available, due, free, copied, ?_⟩
  rw [copied]
  rfl

variable {tables : CharTables} {s s' : Cluster} {a : Action}

/-- An execution has been under way before, or the step starts it. -/
theorem running_step (taken : s.step tables a = some s') {e : Execution}
    (among : e ∈ s'.running) :
    e ∈ s.running ∨
      ∃ worker jobId db, a = .fetch worker jobId ∧ s.db.getJob worker s.now jobId = some (e.job, db)
    := by
  cases a with
  | fetch worker jobId =>
      obtain ⟨⟨job, db⟩, got, rfl⟩ := Option.map_eq_some_iff.mp taken
      rcases List.mem_append.mp among with old | new
      · exact .inl old
      · obtain rfl := List.mem_singleton.mp new
        exact .inr ⟨worker, jobId, db, rfl, got⟩
  | complete i | fail i error retryAt | crash i =>
      obtain ⟨_, -, rfl⟩ := Option.map_eq_some_iff.mp taken
      exact .inl (List.mem_of_mem_eraseIdx among)
  | jobFail i =>
      obtain ⟨_, -, rfl⟩ := Option.map_eq_some_iff.mp taken
      exact .inl among
  | advance micros | enqueue job | start routine =>
      obtain rfl := Option.some.inj taken
      exact .inl among
  | send i fault =>
      obtain ⟨op, next, -, rfl⟩ := send_op taken
      exact .inl among

/-- A failed attempt has waited for its hook before, or its execution fails in the step. -/
theorem failures_step (taken : s.step tables a = some s') {ctx : JobFailContext}
    (among : ctx ∈ s'.failures) : ctx ∈ s.failures ∨ ∃ i retryAt e,
      a = .fail i ctx.error retryAt ∧ s.running[i]? = some e ∧ e.job = ctx.job := by
  cases a with
  | fail i error retryAt =>
      obtain ⟨e, entry, rfl⟩ := Option.map_eq_some_iff.mp taken
      rcases List.mem_append.mp among with old | new
      · exact .inl old
      · obtain rfl := List.mem_singleton.mp new
        exact .inr ⟨i, retryAt, e, rfl, entry, rfl⟩
  | jobFail i =>
      obtain ⟨_, -, rfl⟩ := Option.map_eq_some_iff.mp taken
      exact .inl (List.mem_of_mem_eraseIdx among)
  | fetch worker jobId =>
      obtain ⟨_, -, _, -, -, -, -, -, rfl⟩ := fetch_some taken
      exact .inl among
  | complete i | crash i =>
      obtain ⟨_, -, rfl⟩ := Option.map_eq_some_iff.mp taken
      exact .inl among
  | advance micros | enqueue job | start routine =>
      obtain rfl := Option.some.inj taken
      exact .inl among
  | send i fault =>
      obtain ⟨op, next, -, rfl⟩ := send_op taken
      exact .inl among

/-- Where a routine comes from: it has been there before, the step starts it, or the step sends its
first statement. -/
inductive RoutineChange (tables : CharTables) (s : Cluster) (i : Nat) :
    Action → Client Nat → Prop
  | kept {a : Action} {routine : Client Nat} (entry : s.routines[i]? = some routine) :
      RoutineChange tables s i a routine
  | started {routine : Client Nat} (last : i = s.routines.length) :
      RoutineChange tables s i (.start routine) routine
  | hooked {k : Nat} {ctx : JobFailContext} (last : i = s.routines.length)
      (failed : s.failures[k]? = some ctx) :
      RoutineChange tables s i (.jobFail k) (Client.permanentFailureHook tables ctx)
  | sent {fault : Option ForeignError} {op : Statement} {next : Statement.Reply op → Client Nat}
      (entry : s.routines[i]? = some (.call op next)) (reply : Statement.Reply op) :
      RoutineChange tables s i (.send i fault) (next reply)

theorem routines_step (taken : s.step tables a = some s') {i : Nat} {routine : Client Nat}
    (entry : s'.routines[i]? = some routine) : RoutineChange tables s i a routine := by
  have appended : ∀ new : Client Nat, (s.routines ++ [new])[i]? = some routine →
      s.routines[i]? = some routine ∨ (i = s.routines.length ∧ new = routine) := by
    intro new entry
    rcases Nat.lt_trichotomy i s.routines.length with before | rfl | after
    · exact .inl (by rwa [List.getElem?_append_left before] at entry)
    · exact .inr ⟨rfl, by simpa using entry⟩
    · rw [List.getElem?_eq_none (by simp only [List.length_append, List.length_singleton]; omega)]
        at entry
      cases entry
  cases a with
  | start new =>
      obtain rfl := Option.some.inj taken
      rcases appended new entry with old | ⟨last, rfl⟩
      · exact .kept old
      · exact .started last
  | jobFail k =>
      obtain ⟨ctx, failed, rfl⟩ := Option.map_eq_some_iff.mp taken
      rcases appended _ entry with old | ⟨last, rfl⟩
      · exact .kept old
      · exact .hooked last failed
  | send k fault =>
      obtain ⟨op, next, sending, rfl⟩ := send_op taken
      by_cases same : k = i
      · subst same
        have inside : k < s.routines.length := (List.getElem?_eq_some_iff.mp sending).1
        obtain rfl : next (op.answer s.now fault s.db).1 = routine := by
          simpa [List.getElem?_set_self inside] using entry
        exact .sent sending _
      · exact .kept (by simpa [List.getElem?_set_ne same] using entry)
  | fetch worker jobId =>
      obtain ⟨_, -, _, -, -, -, -, -, rfl⟩ := fetch_some taken
      exact .kept entry
  | complete k | fail k error retryAt | crash k =>
      obtain ⟨_, -, rfl⟩ := Option.map_eq_some_iff.mp taken
      exact .kept entry
  | advance micros | enqueue job =>
      obtain rfl := Option.some.inj taken
      exact .kept entry

/-- A started routine and a hook go to the end of the list; no routine is taken out of it. -/
theorem length_routines (taken : s.step tables a = some s') :
    s.routines.length ≤ s'.routines.length ∧
      ∀ k, a = .jobFail k → s.routines.length < s'.routines.length := by
  cases a with
  | start routine =>
      obtain rfl := Option.some.inj taken
      exact ⟨by simp, nofun⟩
  | jobFail k =>
      obtain ⟨ctx, -, rfl⟩ := Option.map_eq_some_iff.mp taken
      exact ⟨by simp, fun _ _ => by simp⟩
  | send k fault =>
      obtain ⟨op, next, -, rfl⟩ := send_op taken
      exact ⟨by simp, nofun⟩
  | fetch worker jobId =>
      obtain ⟨_, -, _, -, -, -, -, -, rfl⟩ := fetch_some taken
      exact ⟨le_refl _, nofun⟩
  | complete k | fail k error retryAt | crash k =>
      obtain ⟨_, -, rfl⟩ := Option.map_eq_some_iff.mp taken
      exact ⟨le_refl _, nofun⟩
  | advance micros | enqueue job =>
      obtain rfl := Option.some.inj taken
      exact ⟨le_refl _, nofun⟩

/-- How far a step moves the clock. -/
def Action.micros : Action → Nat
  | .advance micros => micros
  | _ => 0

/-- Only an advance takes time. -/
theorem now_step (taken : s.step tables a = some s') : s'.now = s.now + Action.micros a := by
  have still : s.now = s.now + (0 : Nat) := (Int.add_zero s.now).symm
  cases a with
  | advance micros =>
      obtain rfl := Option.some.inj taken
      rfl
  | fetch worker jobId =>
      obtain ⟨_, -, _, -, -, -, -, -, rfl⟩ := fetch_some taken
      exact still
  | complete i | fail i error retryAt | crash i | jobFail i =>
      obtain ⟨_, -, rfl⟩ := Option.map_eq_some_iff.mp taken
      exact still
  | enqueue job | start routine =>
      obtain rfl := Option.some.inj taken
      exact still
  | send i fault =>
      obtain ⟨op, next, -, rfl⟩ := send_op taken
      exact still

/-- What every started routine and every hook keeps to, all statements of a run keep to. -/
theorem calls_step {I : Statement → Prop} (hook : ∀ jobId reason, I (.shortCircuit jobId reason))
    (starts : ∀ routine, a = .start routine → routine.Calls I)
    (calls : ∀ routine ∈ s.routines, routine.Calls I) (taken : s.step tables a = some s') :
    ∀ routine ∈ s'.routines, routine.Calls I := by
  intro routine among
  obtain ⟨i, entry⟩ := List.getElem?_of_mem among
  cases routines_step taken entry with
  | kept before => exact calls routine (List.mem_of_getElem? before)
  | started last => exact starts routine rfl
  | hooked last failed =>
      rw [Client.permanentFailureHook]
      split
      · trivial
      · exact ⟨hook _ _, fun _ => trivial⟩
  | sent sending reply => exact (calls _ (List.mem_of_getElem? sending)).2 reply

end Cluster

end Backfill
