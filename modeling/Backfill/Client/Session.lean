import Backfill.Client.Statement

/-!
# Sequential execution of a client routine

A `Session` is the database together with what the environment will do at each of the
statements still to come: the time at which it runs and whether it is refused. Running a
routine in a session is what happens when no other client writes in between.
-/

namespace Backfill

/-- What the environment does at one statement. -/
structure Tick where
  now : Timestamp
  fault : Statement → Option ForeignError

/-- A database and the statements' future. -/
structure Session where
  db : Database
  upcoming : Nat → Tick

namespace Session

/-- Send one statement. -/
def exec (s : Statement) (session : Session) : Statement.Reply s × Session :=
  let tick := session.upcoming 0
  let answer := s.answer tick.now (tick.fault s) session.db
  (answer.1, { db := answer.2, upcoming := fun n => session.upcoming (n + 1) })

/-- Run a routine with no other writer. -/
def run {ε α : Type} (session : Session) (routine : Program Statement Statement.Reply ε α) :
    Except ε α × Session :=
  routine.run exec session

/-- The statements a routine sends with no other writer, in their order. -/
def sent {ε α : Type} (session : Session) (routine : Program Statement Statement.Reply ε α) :
    List Statement :=
  routine.trace exec session

/-- No statement is ever refused. -/
def Calm (session : Session) : Prop := ∀ n s, (session.upcoming n).fault s = none

/-- A session in which time stands still and no statement is refused. -/
def undisturbed (now : Timestamp) (db : Database) : Session where
  db := db
  upcoming _ := { now := now, fault := fun _ => none }

/-- The statement `s` is not refused when it is the `n`-th to come. -/
def Accepts (session : Session) (n : Nat) (s : Statement) : Prop :=
  (session.upcoming n).fault s = none

/-- The session once `n` more statements have been sent and the database is `db`. -/
def after (session : Session) (n : Nat) (db : Database) : Session where
  db := db
  upcoming m := session.upcoming (m + n)

theorem exec_accepted {session : Session} {s : Statement} (accepted : session.Accepts 0 s) :
    exec s session =
      ((s.exec (session.upcoming 0).now session.db).1,
        session.after 1 (s.exec (session.upcoming 0).now session.db).2) := by
  unfold Accepts at accepted
  simp only [exec, accepted, Statement.answer_none, after]

theorem exec_refused {session : Session} {s : Statement} {error : ForeignError}
    (refused : (session.upcoming 0).fault s = some error) :
    exec s session = (.error error, session.after 1 session.db) := by
  simp only [exec, refused, Statement.answer_fault, after]

/-- A query that is answered hands its rows on. -/
theorem run_query {session : Session} {s : Statement} {rows : s.Rows} {α : Type}
    {f : s.Rows → Client α} (accepted : session.Accepts 0 s)
    (answered : (s.exec (session.upcoming 0).now session.db).1 = .ok rows) :
    session.run (Client.query s >>= f) =
      (session.after 1 (s.exec (session.upcoming 0).now session.db).2).run (f rows) := by
  simp only [run, Client.query, Program.bind_call, Program.run_call, exec_accepted accepted,
    answered, Program.bind_done]

/-- A query that is refused ends the routine. -/
theorem run_query_refused {session : Session} {s : Statement} {error : ForeignError} {α : Type}
    {f : s.Rows → Client α} (refused : (session.upcoming 0).fault s = some error) :
    session.run (Client.query s >>= f) =
      (.error (.sqlxError error), session.after 1 session.db) := by
  simp only [run, Client.query, Program.bind_call, Program.run_call, exec_refused refused,
    Program.bind_fail, Program.run_fail]

/-- So does a query that is answered with an error of its own. -/
theorem run_query_failed {session : Session} {s : Statement} {error : ForeignError}
    {db : Database} {α : Type} {f : s.Rows → Client α} (accepted : session.Accepts 0 s)
    (answered : s.exec (session.upcoming 0).now session.db = (.error error, db)) :
    session.run (Client.query s >>= f) = (.error (.sqlxError error), session.after 1 db) := by
  simp only [run, Client.query, Program.bind_call, Program.run_call, exec_accepted accepted,
    answered, Program.bind_fail, Program.run_fail]

/-- A statement that is answered with rows has been executed. -/
theorem exec_ok {session left : Session} {s : Statement} {rows : s.Rows}
    (answered : exec s session = (.ok rows, left)) :
    ∃ db, s.exec (session.upcoming 0).now session.db = (.ok rows, db) ∧
      left = session.after 1 db := by
  cases fault : (session.upcoming 0).fault s with
  | some error =>
      rw [exec_refused fault] at answered
      cases answered
  | none =>
      rw [exec_accepted fault] at answered
      obtain ⟨reply, rfl⟩ := Prod.mk.inj answered
      exact ⟨_, Prod.ext reply rfl, rfl⟩

/-- So has the query of a routine that ends well, and the routine goes on with its rows. -/
theorem run_query_ok {session : Session} {s : Statement} {α : Type} {f : s.Rows → Client α}
    {value : α} (ended : (session.run (Client.query s >>= f)).1 = .ok value) :
    ∃ rows db, s.exec (session.upcoming 0).now session.db = (.ok rows, db) ∧
      session.run (Client.query s >>= f) = (session.after 1 db).run (f rows) := by
  simp only [run, Client.query, Program.bind_call, Program.run_call] at ended ⊢
  rcases answered : exec s session with ⟨reply, left⟩
  rw [answered] at ended
  cases reply with
  | error error => cases ended
  | ok rows =>
      obtain ⟨db, executed, rfl⟩ := exec_ok answered
      exact ⟨rows, db, executed, rfl⟩

/-- What is sent from an answered query on. -/
theorem sent_query {session : Session} {s : Statement} {rows : s.Rows} {α : Type}
    {f : s.Rows → Client α} (accepted : session.Accepts 0 s)
    (answered : (s.exec (session.upcoming 0).now session.db).1 = .ok rows) :
    session.sent (Client.query s >>= f) =
      s :: (session.after 1 (s.exec (session.upcoming 0).now session.db).2).sent (f rows) := by
  simp only [sent, Client.query, Program.bind_call, Program.trace_call, exec_accepted accepted,
    answered, Program.bind_done]

/-- After a refused query nothing is sent. -/
theorem sent_query_refused {session : Session} {s : Statement} {error : ForeignError} {α : Type}
    {f : s.Rows → Client α} (refused : (session.upcoming 0).fault s = some error) :
    session.sent (Client.query s >>= f) = [s] := by
  simp only [sent, Client.query, Program.bind_call, Program.trace_call, exec_refused refused,
    Program.bind_fail, Program.trace_fail]

/-- A statement whose reply is not looked at. -/
theorem run_call_ignored {session : Session} {s : Statement} {α : Type} {value : α} :
    session.run (.call s fun _ => .done value : Client α) = (.ok value, (exec s session).2) := rfl

theorem Calm.accepts {session : Session} (calm : session.Calm) (n : Nat) (s : Statement) :
    session.Accepts n s :=
  calm n s

theorem Calm.after {session : Session} (calm : session.Calm) (n : Nat) (db : Database) :
    (session.after n db).Calm :=
  fun m => calm (m + n)

end Session

end Backfill
