import Backfill.Admin.NotFound
import Backfill.Client.RoundTrip
import Backfill.Cluster.Journal

/-!
# One entry of the DLQ (`admin.rs:728`, `admin.rs:766`)

`GET /dlq/{id}` and `DELETE /dlq/{id}` send one statement each. Any number of them may be under way
at once, next to everything else that works on the database. An id belongs to one entry forever:
when a `DELETE` has been answered with 204, no other one is or will be, and whoever asks for the
entry afterwards does not find it.
-/

namespace Backfill

namespace Handler

/-- `get_dlq_job` (`admin.rs:728`). -/
def getDlqJob (dlqId : Int) : Handler DlqJob := do
  let found ← (Client.getDlqJob dlqId).mapError fun e => ⟨500, e.display, "DLQ_GET_FAILED"⟩
  match found with
  | some job => pure job
  | none => .fail .dlqJobNotFound

/-- `delete_dlq_job` (`admin.rs:766`). -/
def deleteDlqJob (dlqId : Int) : Handler Unit := do
  let deleted ← (Client.deleteDlqJob dlqId).mapError fun e =>
    ⟨500, e.display, "DLQ_DELETE_FAILED"⟩
  if deleted then pure () else .fail .dlqJobNotFound

end Handler

/-- The two requests for an entry. -/
inductive EntryRequest
  | get
  | delete
deriving DecidableEq

/-- What a request is answered with when all is well: 200 with the entry, or 204. -/
inductive EntryResponse
  | entry (job : DlqJob)
  | noContent

/-- The handler of a request. -/
def EntryRequest.handler (dlqId : Int) : EntryRequest → Handler EntryResponse
  | get => do
      let job ← Handler.getDlqJob dlqId
      pure (.entry job)
  | delete => do
      let _ ← Handler.deleteDlqJob dlqId
      pure .noContent

/-- A request for an entry that is being served. -/
structure EntryCall where
  request : EntryRequest
  dlqId : Int
  routine : Handler EntryResponse

/-- A journal, and the requests that are served next to it. -/
structure DlqEntries where
  journal : Journal
  calls : List EntryCall

inductive EntryAction
  /-- a step of the journal -/
  | base (a : JournalAction)
  /-- somebody requests an entry -/
  | call (request : EntryRequest) (dlqId : Int)
  /-- the handler of call `i` sends its statement -/
  | send (i : Nat) (fault : Option ForeignError)

namespace EntryCall

/-- The request has been answered with 204. -/
def Deleted (c : EntryCall) : Prop := c.routine = .done .noContent

/-- Its handler has not sent its statement. -/
def Waits (c : EntryCall) : Prop := c.routine = c.request.handler c.dlqId

/-- It was answered with an error that leaves the entry unseen. -/
def Refused (c : EntryCall) : Prop :=
  ∃ e : AdminError, c.routine = .fail e ∧ (e = .dlqJobNotFound ∨ e.status = 500)

theorem Waits.not_deleted {c : EntryCall} (waits : c.Waits) : ¬ c.Deleted := by
  intro deleted
  unfold Waits at waits
  unfold Deleted at deleted
  rw [deleted] at waits
  cases asked : c.request <;> rw [asked] at waits <;> cases waits

/-- What becomes of a request that waits, when its statement is answered. -/
inductive Served (c : EntryCall) (now : Timestamp) (fault : Option ForeignError) (db : Database)
    (op : Statement) : Handler EntryResponse → Prop
  | refused {e : AdminError} (why : e = .dlqJobNotFound ∨ e.status = 500) :
      Served c now fault db op (.fail e)
  | found {table : DlqTable} {job : DlqJob} (present : db.dlq = .ok table)
      (member : job ∈ table.rows) (same : job.id = c.dlqId) :
      Served c now fault db op (.done (.entry job))
  | deleted {table : DlqTable} {job : DlqJob} (present : db.dlq = .ok table)
      (member : job ∈ table.rows) (same : job.id = c.dlqId)
      (after : (op.answer now fault db).2.dlq = .ok (table.delete fun row => row.id = c.dlqId)) :
      Served c now fault db op (.done .noContent)

/-- Every request that waits is served so. -/
theorem Waits.served {c : EntryCall} (waits : c.Waits) {op : Statement}
    {next : Statement.Reply op → Handler EntryResponse} (calls : c.routine = .call op next)
    (now : Timestamp) (fault : Option ForeignError) (db : Database) :
    c.Served now fault db op (next (op.answer now fault db).1) := by
  unfold Waits at waits
  rw [calls] at waits
  cases asked : c.request with
  | get =>
      rw [asked] at waits
      have sends : Program.call op next = Program.call (.getDlqJob c.dlqId) _ := waits
      cases sends
      cases fault with
      | some error => exact .refused (.inr rfl)
      | none =>
          cases present : db.dlq with
          | error missing =>
              simp only [Statement.answer_none, Statement.exec, present]
              exact .refused (.inr rfl)
          | ok table =>
              simp only [Statement.answer_none, Statement.exec, present]
              cases found : table.get? c.dlqId with
              | none => exact .refused (.inl rfl)
              | some job =>
                  obtain ⟨member, same⟩ := SerialTable.get?_eq_some.mp found
                  exact .found present member same
  | delete =>
      rw [asked] at waits
      have sends : Program.call op next = Program.call (.deleteDlqJob c.dlqId) _ := waits
      cases sends
      cases fault with
      | some error => exact .refused (.inr rfl)
      | none =>
          cases present : db.dlq with
          | error missing =>
              simp only [Statement.answer_none, Statement.exec, present]
              exact .refused (.inr rfl)
          | ok table =>
              have after : ((Statement.deleteDlqJob c.dlqId).answer now none db).2.dlq =
                  .ok (table.delete fun row => row.id = c.dlqId) := by
                simp only [Statement.answer_none, Statement.exec, present]
              simp only [Statement.answer_none, Statement.exec, present]
              cases found : table.get? c.dlqId with
              | none => exact .refused (.inl rfl)
              | some job =>
                  obtain ⟨member, same⟩ := SerialTable.get?_eq_some.mp found
                  exact .deleted present member same after

end EntryCall

/-- The id has been drawn, and no entry has it. -/
def Lost (table : DlqTable) (dlqId : Int) : Prop :=
  dlqId < table.nextId ∧ ∀ row ∈ table.rows, row.id ≠ dlqId

theorem Lost.of_deleted {table : DlqTable} {job : DlqJob} (member : job ∈ table.rows) :
    Lost (table.delete fun row => row.id = job.id) job.id :=
  ⟨table.id_lt job member, fun row among => by simpa using (SerialTable.mem_delete.mp among).2⟩

theorem Lost.change {now : Timestamp} {table table' : DlqTable} {entries : List Entry}
    {dlqId : Int} (lost : Lost table dlqId) (change : DlqChange now table table' entries) :
    Lost table' dlqId :=
  Known.gone lost.1 lost.2 change

namespace DlqEntries

def initial (now : Timestamp) (db : Database) : DlqEntries where
  journal := .initial now db
  calls := []

/-- The handler of call `i` sends its statement. -/
def send (s : DlqEntries) (i : Nat) (fault : Option ForeignError) : Option DlqEntries :=
  match s.calls[i]? with
  | some ⟨request, dlqId, .call op next⟩ =>
      let reply := (op.answer s.journal.cluster.now fault s.journal.db).1
      some
        { journal := { s.journal with cluster := s.journal.answered op fault }
          calls := s.calls.set i ⟨request, dlqId, next reply⟩ }
  | _ => none

/-- One step; `none` when the action is not possible. -/
def step (tables : CharTables) (s : DlqEntries) : EntryAction → Option DlqEntries
  | .base a => (s.journal.step tables a).map fun journal => { s with journal := journal }
  | .call request dlqId => some
      { s with calls := s.calls ++ [⟨request, dlqId, request.handler dlqId⟩] }
  | .send i fault => s.send i fault

/-- What every run keeps: a request waits or has been answered, the entry of a 204 is lost, and
there is one 204 for an id at most. -/
structure Settled (s : DlqEntries) (table : DlqTable) : Prop where
  present : s.journal.db.dlq = .ok table
  staged : ∀ c ∈ s.calls, c.Waits ∨ c.routine.next? = none
  lost : ∀ c ∈ s.calls, c.Deleted → Lost table c.dlqId
  once : ∀ (i k : Nat) (c c' : EntryCall), s.calls[i]? = some c → s.calls[k]? = some c' →
    c.dlqId = c'.dlqId → c.Deleted → c'.Deleted → i = k

variable {tables : CharTables} {s s' t : DlqEntries} {a : EntryAction} {table : DlqTable}

theorem send_some {i : Nat} {fault : Option ForeignError} (sent : s.send i fault = some s') :
    ∃ c op next, s.calls[i]? = some c ∧ c.routine = .call op next ∧
      s' =
        { journal := { s.journal with cluster := s.journal.answered op fault }
          calls := s.calls.set i { c with
            routine := next (op.answer s.journal.cluster.now fault s.journal.db).1 } } := by
  unfold send at sent
  split at sent
  next request dlqId op next entry =>
    obtain rfl := Option.some.inj sent
    exact ⟨_, op, next, entry, rfl, rfl⟩
  next => cases sent

/-- What a step makes of the requests. -/
inductive Change (s : DlqEntries) (table : DlqTable) (s' : DlqEntries) (table' : DlqTable) : Prop
  | idle (calls : s'.calls = s.calls)
  | called (c : EntryCall) (waits : c.Waits) (calls : s'.calls = s.calls ++ [c])
  | deleted {i : Nat} {c : EntryCall} (entry : s.calls[i]? = some c)
      (calls : s'.calls = s.calls.set i { c with routine := .done .noContent })
      (had : ∃ job ∈ table.rows, job.id = c.dlqId) (lost : Lost table' c.dlqId)
  | answered {i : Nat} {c : EntryCall} {routine : Handler EntryResponse}
      (entry : s.calls[i]? = some c)
      (calls : s'.calls = s.calls.set i { c with routine := routine })
      (ended : routine.next? = none) (other : routine ≠ .done .noContent)
      (unseen : (∀ job ∈ table.rows, job.id ≠ c.dlqId) → EntryCall.Refused { c with
        routine := routine })

/-- A request that is about to send its statement has not been answered. -/
theorem Settled.waits (settled : s.Settled table) {i : Nat} {c : EntryCall} {op : Statement}
    {next : Statement.Reply op → Handler EntryResponse} (entry : s.calls[i]? = some c)
    (calls : c.routine = .call op next) : c.Waits := by
  rcases settled.staged c (List.mem_of_getElem? entry) with waits | ended
  · exact waits
  · rw [calls] at ended
    cases ended

theorem change_step (settled : s.Settled table) (taken : s.step tables a = some s') :
    ∃ table' entries, s'.journal.db.dlq = .ok table' ∧
      DlqChange s.journal.cluster.now table table' entries ∧ Change s table s' table' := by
  cases a with
  | base a =>
      obtain ⟨journal, moved, rfl⟩ := Option.map_eq_some_iff.mp taken
      obtain ⟨table', entries, marks, present', change, -, -⟩ :=
        Journal.dlq_step settled.present moved
      exact ⟨table', entries, present', change, .idle rfl⟩
  | call request dlqId =>
      obtain rfl := Option.some.inj taken
      have waits : EntryCall.Waits ⟨request, dlqId, request.handler dlqId⟩ := rfl
      exact ⟨table, [], settled.present, .kept, .called _ waits rfl⟩
  | send i fault =>
      obtain ⟨c, op, next, entry, calls, rfl⟩ := send_some taken
      have served := (settled.waits entry calls).served calls s.journal.cluster.now fault
        s.journal.db
      obtain ⟨table', present', change⟩ :=
        op.dlq_answer s.journal.cluster.now fault settled.present
      refine ⟨table', _, present', change, ?_⟩
      generalize next (op.answer s.journal.cluster.now fault s.journal.db).1 = routine at served
      cases served with
      | refused why => exact .answered entry rfl rfl nofun fun _ => ⟨_, rfl, why⟩
      | found present member same =>
          obtain rfl := Except.ok.inj (present.symm.trans settled.present)
          exact .answered entry rfl rfl nofun fun absent => absurd same (absent _ member)
      | deleted present member same after =>
          obtain rfl := Except.ok.inj (present.symm.trans settled.present)
          obtain rfl := Except.ok.inj (present'.symm.trans after)
          exact .deleted entry rfl ⟨_, member, same⟩ (same ▸ .of_deleted member)

/-- A step answers one request at most with 204, and then the entry was there and is lost. -/
theorem Change.deletes {s s' : DlqEntries} {table table' : DlqTable}
    (moves : Change s table s' table') :
    ∃ m, ∀ (k : Nat) (c : EntryCall), s'.calls[k]? = some c → c.Deleted →
      s.calls[k]? = some c ∨
        (k = m ∧ (∃ job ∈ table.rows, job.id = c.dlqId) ∧ Lost table' c.dlqId) := by
  cases moves with
  | idle calls => exact ⟨0, fun k c entry _ => .inl (calls ▸ entry)⟩
  | called new waits calls =>
      refine ⟨0, fun k c entry gone => .inl ?_⟩
      rw [calls, List.getElem?_append] at entry
      split at entry
      next => exact entry
      next =>
        obtain rfl := List.mem_singleton.mp (List.mem_of_getElem? entry)
        exact absurd gone waits.not_deleted
  | @deleted m c entry calls had lost =>
      refine ⟨m, fun k c' entry' _ => ?_⟩
      rw [calls, List.getElem?_set] at entry'
      split at entry'
      next same =>
        split at entry'
        next => exact .inr ⟨same.symm, Option.some.inj entry' ▸ ⟨had, lost⟩⟩
        next => cases entry'
      next => exact .inl entry'
  | @answered m c routine entry calls ended other unseen =>
      refine ⟨m, fun k c' entry' gone => ?_⟩
      rw [calls, List.getElem?_set] at entry'
      split at entry'
      next =>
        split at entry'
        next =>
          obtain rfl := Option.some.inj entry'
          exact absurd gone other
        next => cases entry'
      next => exact .inl entry'

/-- What a step makes of a request. -/
theorem Change.request {s s' : DlqEntries} {table table' : DlqTable}
    (moves : Change s table s' table') {k : Nat} {c : EntryCall}
    (entry : s'.calls[k]? = some c) :
    s.calls[k]? = some c ∨ c.Waits ∨
      (c.routine.next? = none ∧ ((∀ job ∈ table.rows, job.id ≠ c.dlqId) → c.Refused)) := by
  cases moves with
  | idle calls => exact .inl (calls ▸ entry)
  | called new waits calls =>
      rw [calls, List.getElem?_append] at entry
      split at entry
      next => exact .inl entry
      next => exact .inr (.inl (List.mem_singleton.mp (List.mem_of_getElem? entry) ▸ waits))
  | @deleted m c' entry' calls had lost =>
      rw [calls, List.getElem?_set] at entry
      split at entry
      next =>
        split at entry
        next =>
          obtain rfl := Option.some.inj entry
          obtain ⟨job, member, same⟩ := had
          exact .inr (.inr ⟨rfl, fun absent => absurd same (absent job member)⟩)
        next => cases entry
      next => exact .inl entry
  | @answered m c' routine entry' calls ended other unseen =>
      rw [calls, List.getElem?_set] at entry
      split at entry
      next =>
        split at entry
        next =>
          obtain rfl := Option.some.inj entry
          exact .inr (.inr ⟨ended, unseen⟩)
        next => cases entry
      next => exact .inl entry

theorem Settled.step (settled : s.Settled table) (taken : s.step tables a = some s') :
    ∃ table' entries, s'.Settled table' ∧
      DlqChange s.journal.cluster.now table table' entries ∧ Change s table s' table' := by
  obtain ⟨table', entries, present', change, moves⟩ := change_step settled taken
  obtain ⟨m, deletes⟩ := moves.deletes
  refine ⟨table', entries, ⟨present', fun c among => ?_, fun c among gone => ?_, ?_⟩, change, moves⟩
  · obtain ⟨k, entry⟩ := List.mem_iff_getElem?.mp among
    rcases moves.request entry with old | waits | ⟨ended, -⟩
    · exact settled.staged c (List.mem_of_getElem? old)
    · exact .inl waits
    · exact .inr ended
  · obtain ⟨k, entry⟩ := List.mem_iff_getElem?.mp among
    rcases deletes k c entry gone with old | ⟨-, -, lost⟩
    · exact (settled.lost c (List.mem_of_getElem? old) gone).change change
    · exact lost
  · intro i k c c' entry entry' same gone gone'
    rcases deletes i c entry gone with old | ⟨rfl, ⟨job, member, id⟩, -⟩
    · rcases deletes k c' entry' gone' with old' | ⟨rfl, ⟨job, member, id⟩, -⟩
      · exact settled.once i k c c' old old' same gone gone'
      · have lost := settled.lost c (List.mem_of_getElem? old) gone
        exact absurd (id.trans same.symm) (lost.2 job member)
    · rcases deletes k c' entry' gone' with old' | ⟨rfl, -, -⟩
      · have lost := settled.lost c' (List.mem_of_getElem? old') gone'
        exact absurd (id.trans same) (lost.2 job member)
      · rfl

theorem Settled.initial {now : Timestamp} {db : Database} (present : db.dlq = .ok table) :
    Settled (.initial now db) table where
  present := present
  staged c among := by cases among
  lost c among := by cases among
  once i k c c' entry := by simp [DlqEntries.initial] at entry

/-- The entry is lost, and a request for it is as it was among the `earlier` ones, waits, or has
been refused. -/
structure Unseen (earlier : List EntryCall) (dlqId : Int) (s : DlqEntries) (table : DlqTable) :
    Prop where
  lost : Lost table dlqId
  answers : ∀ (k : Nat) (c : EntryCall), s.calls[k]? = some c → c.dlqId = dlqId →
    earlier[k]? = some c ∨ c.Waits ∨ c.Refused

theorem Unseen.step {earlier : List EntryCall} {dlqId : Int} {table' : DlqTable}
    {entries : List Entry} (unseen : Unseen earlier dlqId s table)
    (change : DlqChange s.journal.cluster.now table table' entries)
    (moves : Change s table s' table') : Unseen earlier dlqId s' table' where
  lost := unseen.lost.change change
  answers k c entry same := by
    rcases moves.request entry with old | waits | ⟨-, refused⟩
    · exact unseen.answers k c old same
    · exact .inr (.inl waits)
    · exact .inr (.inr (refused (same ▸ unseen.lost.2)))

/-- Once a `DELETE` for an id has been answered with 204, no other one ever is, the DLQ never has
an entry with that id again, and whoever is answered after it has not seen the entry: the
request is refused with 404, or has failed with 500. -/
theorem deleted_once {now : Timestamp} {db : Database} {as bs : List EntryAction}
    {i : Nat} {c : EntryCall} (present : db.dlq = .ok table)
    (before : Transition.Run (step tables) (fun _ _ => True) (initial now db) as s)
    (entry : s.calls[i]? = some c) (deleted : c.Deleted)
    (after : Transition.Run (step tables) (fun _ _ => True) s bs s') :
    (∀ row ∈ s'.journal.db.dlqRows, row.id ≠ c.dlqId) ∧
      ∀ (k : Nat) (c' : EntryCall), s'.calls[k]? = some c' → c'.dlqId = c.dlqId →
        (c'.Deleted → k = i) ∧ (s.calls[k]? = some c' ∨ c'.Waits ∨ c'.Refused) := by
  obtain ⟨table₁, settled₁⟩ := before.invariant (I := fun s => ∃ table, s.Settled table)
    (fun _ _ _ ⟨_, settled⟩ _ taken =>
      let ⟨table', _, settled', _⟩ := settled.step taken
      ⟨table', settled'⟩) ⟨table, .initial present⟩
  obtain ⟨table₂, settled₂, unseen⟩ := after.invariant
    (I := fun t => ∃ table, t.Settled table ∧ Unseen s.calls c.dlqId t table)
    (fun _ _ _ ⟨_, settled, unseen⟩ _ taken =>
      let ⟨table', _, settled', change, moves⟩ := settled.step taken
      ⟨table', settled', unseen.step change moves⟩)
    ⟨table₁, settled₁, settled₁.lost c (List.mem_of_getElem? entry) deleted,
      fun k c' same _ => .inl same⟩
  refine ⟨fun row member => ?_, fun k c' among same =>
    ⟨fun gone => ?_, unseen.answers k c' among same⟩⟩
  · rw [Database.dlqRows, settled₂.present] at member
    exact unseen.lost.2 row member
  · rcases unseen.answers k c' among same with old | waits | ⟨e, refused, -⟩
    · exact settled₁.once k i c' c old entry same gone deleted
    · exact absurd gone waits.not_deleted
    · unfold EntryCall.Deleted at gone
      rw [refused] at gone
      cases gone

/-- Two callers delete the only entry while a third one asks for it. -/
theorem deleted_once_movedInvoice :
    ∃ s s' : DlqEntries, ∃ c : EntryCall, s.calls[0]? = some c ∧ c.Deleted ∧
      s'.calls.map (fun c => decide (c.routine.next? = none)) = [true, true, true] ∧
      (∀ row ∈ s'.journal.db.dlqRows, row.id ≠ c.dlqId) ∧
      ∀ (k : Nat) (c' : EntryCall), s'.calls[k]? = some c' → c'.dlqId = c.dlqId →
        (c'.Deleted → k = 0) ∧ (s.calls[k]? = some c' ∨ c'.Waits ∨ c'.Refused) := by
  have before : Transition.Run (step .ascii) (fun _ _ => True)
      (initial 0 (Session.movedInvoice "invoices").db)
      [.call .delete 1, .call .delete 1, .call .get 1, .send 0 none] _ := .of_run (by simp) rfl
  refine ⟨_, _, ⟨.delete, 1, .done .noContent⟩, ?_, rfl, ?_, deleted_once rfl before ?_ rfl
    (show Transition.Run (step .ascii) _ _ [.send 1 none, .send 2 none] _ from
      .of_run (by simp) rfl)⟩
  all_goals rfl

end DlqEntries

end Backfill
