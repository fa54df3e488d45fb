import Mathlib.Algebra.BigOperators.Group.List.Basic
import Backfill.Misc.Ledger
import Backfill.Misc.Program

/-!
# Programs that meter what they do

A metered program performs operations and, between them, emits events that nobody answers.
`erase` forgets the events. Operations earn something that is read off their answers, events are
worth something, and a program settles its accounts when, whatever it is answered, its events are
worth what its operations have earned by the time it ends. When any number of such programs share a
state with anybody else, the events that all of them have emitted are worth what all their
operations have earned, except for what those that have not ended owe.
-/

namespace Metering

variable {Op : Type} {Reply : Op → Type} {μ ε ε' α β σ E M : Type}

/-- An operation is answered, an event is not. -/
@[reducible] def Answer (Reply : Op → Type) : Op ⊕ μ → Type
  | .inl op => Reply op
  | .inr _ => Unit

/-- A program that also emits events. -/
abbrev Metered (Op : Type) (Reply : Op → Type) (μ ε α : Type) : Type :=
  Program (Op ⊕ μ) (Answer Reply) ε α

namespace Metered

/-- Emit an event and go on. -/
def emit (event : μ) (rest : Metered Op Reply μ ε α) : Metered Op Reply μ ε α :=
  .call (.inr event) fun _ => rest

/-- A program without its events. -/
def erase : Metered Op Reply μ ε α → Program Op Reply ε α
  | .done value => .done value
  | .fail error => .fail error
  | .call (.inl op) next => .call op fun reply => erase (next reply)
  | .call (.inr _) next => erase (next ())

@[simp] theorem erase_emit (event : μ) (rest : Metered Op Reply μ ε α) :
    (emit event rest).erase = rest.erase := rfl

@[simp] theorem erase_done (value : α) :
    erase (.done value : Metered Op Reply μ ε α) = .done value := rfl

@[simp] theorem erase_fail (error : ε) :
    erase (.fail error : Metered Op Reply μ ε α) = .fail error := rfl

/-- Events do not matter to what comes after them. -/
theorem erase_bind (p : Metered Op Reply μ ε α) (f : α → Metered Op Reply μ ε β) :
    (p >>= f).erase = p.erase >>= fun value => (f value).erase := by
  induction p with
  | done value => rfl
  | fail error => rfl
  | call op next ih =>
      cases op with
      | inl op => exact congrArg (Program.call op) (funext fun reply => ih reply)
      | inr event => exact ih ()

theorem erase_attempt (p : Metered Op Reply μ ε α) :
    erase (p.attempt : Metered Op Reply μ ε' (Except ε α)) = p.erase.attempt := by
  induction p with
  | done value => rfl
  | fail error => rfl
  | call op next ih =>
      cases op with
      | inl op => exact congrArg (Program.call op) (funext fun reply => ih reply)
      | inr event => exact ih ()

section Accounts

variable [AddCommGroup M]

/-- When the program owes `due`, then whatever it is answered, its events pay for that and for all
that its operations earn, and no more. -/
def Owes (earn : (op : Op) → Reply op → M) (worth : μ → M) : M → Metered Op Reply μ ε α → Prop
  | due, .done _ => due = 0
  | due, .fail _ => due = 0
  | due, .call (.inl op) next => ∀ reply, Owes earn worth (due + earn op reply) (next reply)
  | due, .call (.inr event) next => Owes earn worth (due - worth event) (next ())

/-- A program that starts without debts and ends without any. -/
abbrev Settles (earn : (op : Op) → Reply op → M) (worth : μ → M)
    (p : Metered Op Reply μ ε α) : Prop :=
  p.Owes earn worth 0

variable {earn : (op : Op) → Reply op → M} {worth : μ → M} {due : M}

/-- An event that is worth nothing pays nothing. -/
theorem Owes.emit_idle {event : μ} {rest : Metered Op Reply μ ε α} (idle : worth event = 0)
    (owes : rest.Owes earn worth due) : (Metered.emit event rest).Owes earn worth due := by
  show rest.Owes earn worth (due - worth event)
  rwa [idle, sub_zero]

/-- A sequence settles when its first half does, and then its second half. -/
theorem Owes.bind {p : Metered Op Reply μ ε α} {f : α → Metered Op Reply μ ε β}
    (first : p.Owes earn worth due) (second : ∀ value, (f value).Settles earn worth) :
    (p >>= f).Owes earn worth due := by
  induction p generalizing due with
  | done value =>
      obtain rfl : due = 0 := first
      exact second value
  | fail error => exact first
  | call op next ih =>
      cases op with
      | inl op => exact fun reply => ih reply (first reply)
      | inr event => exact ih () first

theorem Owes.attempt {p : Metered Op Reply μ ε α} (owes : p.Owes earn worth due) :
    Metered.Owes earn worth due (p.attempt : Metered Op Reply μ ε' (Except ε α)) := by
  induction p generalizing due with
  | done value => exact owes
  | fail error => exact owes
  | call op next ih =>
      cases op with
      | inl op => exact fun reply => ih reply (owes reply)
      | inr event => exact ih () owes

end Accounts

end Metered

/-- A state that metered programs share with others. -/
structure Fleet (σ Op : Type) (Reply : Op → Type) (μ ε α : Type) where
  shared : σ
  programs : List (Metered Op Reply μ ε α)

inductive FleetAction (σ Op : Type) (Reply : Op → Type) (μ ε α E : Type)
  /-- somebody else leaves the state `shared` -/
  | other (shared : σ)
  | start (program : Metered Op Reply μ ε α)
  /-- program `i` emits an event, or performs an operation under the circumstances `e` -/
  | go (i : Nat) (e : E)

namespace Fleet

variable {exec : E → (op : Op) → σ → Reply op × σ}

/-- One step; `none` when program `i` is missing or has ended. -/
def step (exec : E → (op : Op) → σ → Reply op × σ) (s : Fleet σ Op Reply μ ε α) :
    FleetAction σ Op Reply μ ε α E → Option (Fleet σ Op Reply μ ε α)
  | .other shared => some { s with shared := shared }
  | .start program => some { s with programs := s.programs ++ [program] }
  | .go i e =>
      match s.programs[i]? with
      | some (.call (.inl op) next) => some
          { shared := (exec e op s.shared).2
            programs := s.programs.set i (next (exec e op s.shared).1) }
      | some (.call (.inr _) next) => some { s with programs := s.programs.set i (next ()) }
      | _ => none

/-- The operation a step performs, and what it is answered. -/
def performs (exec : E → (op : Op) → σ → Reply op × σ) (s : Fleet σ Op Reply μ ε α) :
    FleetAction σ Op Reply μ ε α E → Option ((op : Op) × Reply op)
  | .go i e =>
      match s.programs[i]? with
      | some (.call (.inl op) _) => some ⟨op, (exec e op s.shared).1⟩
      | _ => none
  | _ => none

/-- The event a step emits. -/
def emits (s : Fleet σ Op Reply μ ε α) : FleetAction σ Op Reply μ ε α E → Option μ
  | .go i _ =>
      match s.programs[i]? with
      | some (.call (.inr event) _) => some event
      | _ => none
  | _ => none

section Accounts

variable [AddCommGroup M] (earn : (op : Op) → Reply op → M) (worth : μ → M)

/-- What a step earns. -/
def earned (exec : E → (op : Op) → σ → Reply op × σ) (s : Fleet σ Op Reply μ ε α)
    (a : FleetAction σ Op Reply μ ε α E) : M :=
  match s.performs exec a with
  | some performed => earn performed.1 performed.2
  | none => 0

/-- What the operation of a step makes of the state, by any account of it. -/
def made (account : (op : Op) → Reply op → σ → σ → M) (exec : E → (op : Op) → σ → Reply op × σ)
    (s : Fleet σ Op Reply μ ε α) : FleetAction σ Op Reply μ ε α E → M
  | .go i e =>
      match s.programs[i]? with
      | some (.call (.inl op) _) =>
          account op (exec e op s.shared).1 s.shared (exec e op s.shared).2
      | _ => 0
  | _ => 0

/-- What a step pays. -/
def paid (s : Fleet σ Op Reply μ ε α) (a : FleetAction σ Op Reply μ ε α E) : M :=
  match s.emits a with
  | some event => worth event
  | none => 0

/-- Only programs that settle their accounts are started. -/
def StartsSettled (_ : Fleet σ Op Reply μ ε α) (a : FleetAction σ Op Reply μ ε α E) : Prop :=
  ∀ program, a = .start program → program.Settles earn worth

/-- What the programs owe, one after the other. -/
structure Owing (s : Fleet σ Op Reply μ ε α) (dues : List M) : Prop where
  length_eq : dues.length = s.programs.length
  owes : ∀ (i : Nat) due program, dues[i]? = some due → s.programs[i]? = some program →
    program.Owes earn worth due

variable {earn worth} {s s' t : Fleet σ Op Reply μ ε α} {a : FleetAction σ Op Reply μ ε α E}
  {dues : List M}

/-- When an account of the state agrees with the answers, it is what the operations earn. -/
theorem earned_eq_made {account : (op : Op) → Reply op → σ → σ → M}
    (agrees : ∀ e op s, earn op (exec e op s).1 = account op (exec e op s).1 s (exec e op s).2)
    (s : Fleet σ Op Reply μ ε α) (a : FleetAction σ Op Reply μ ε α E) :
    s.earned earn exec a = s.made account exec a := by
  cases a with
  | other shared => rfl
  | start program => rfl
  | go i e =>
      unfold earned performs made
      simp only
      split
      next performed found =>
        split at found
        next op next entry =>
          obtain rfl := Option.some.inj found
          exact agrees e op s.shared
        next => cases found
      next idle =>
        split
        next op next entry => simp [entry] at idle
        next => rfl

/-- Program `i` owes something else from now on. -/
theorem Owing.set (owing : s.Owing earn worth dues) {i : Nat} {due : M}
    {program : Metered Op Reply μ ε α} (owes : program.Owes earn worth due) (shared : σ) :
    Owing earn worth ⟨shared, s.programs.set i program⟩ (dues.set i due) where
  length_eq := by simp [owing.length_eq]
  owes k other rest owed entry := by
    rw [List.getElem?_set] at owed entry
    split at owed
    next same =>
      rw [if_pos same] at entry
      split at owed
      next =>
        split at entry
        next => exact Option.some.inj owed ▸ Option.some.inj entry ▸ owes
        next => cases entry
      next => cases owed
    next differs =>
      rw [if_neg differs] at entry
      exact owing.owes k other rest owed entry

theorem Owing.start (owing : s.Owing earn worth dues) {program : Metered Op Reply μ ε α}
    (settles : program.Settles earn worth) :
    Owing earn worth { s with programs := s.programs ++ [program] } (dues ++ [0]) where
  length_eq := by simp [owing.length_eq]
  owes k due rest owed entry := by
    have same := owing.length_eq
    rw [List.getElem?_append] at owed entry
    split at owed
    next old =>
      rw [if_pos (same ▸ old)] at entry
      exact owing.owes k due rest owed entry
    next new =>
      rw [if_neg (same ▸ new)] at entry
      obtain rfl := List.mem_singleton.mp (List.mem_of_getElem? owed)
      obtain rfl := List.mem_singleton.mp (List.mem_of_getElem? entry)
      exact settles

/-- Every program has its account. -/
theorem Owing.account (owing : s.Owing earn worth dues) {i : Nat}
    {program : Metered Op Reply μ ε α} (entry : s.programs[i]? = some program) :
    ∃ due, dues[i]? = some due ∧ program.Owes earn worth due := by
  obtain ⟨inside, -⟩ := List.getElem?_eq_some_iff.mp entry
  obtain ⟨due, owed⟩ : ∃ due, dues[i]? = some due :=
    ⟨_, List.getElem?_eq_getElem (owing.length_eq ▸ inside)⟩
  exact ⟨due, owed, owing.owes i due program owed entry⟩

theorem sum_set {dues : List M} {i : Nat} {due new : M} (entry : dues[i]? = some due) :
    (dues.set i new).sum = dues.sum - due + new := by
  obtain ⟨inside, rfl⟩ := List.getElem?_eq_some_iff.mp entry
  rw [List.sum_set', dif_pos inside, sub_eq_add_neg, add_assoc]

/-- What a step pays and what is owed after it make up for what it earns and what was owed. -/
theorem Owing.step (owing : s.Owing earn worth dues) (settled : s.StartsSettled earn worth a)
    (taken : s.step exec a = some s') :
    ∃ dues', s'.Owing earn worth dues' ∧
      s.paid worth a + dues'.sum = s.earned earn exec a + dues.sum := by
  cases a with
  | other shared =>
      obtain rfl := Option.some.inj taken
      exact ⟨dues, ⟨owing.length_eq, owing.owes⟩, rfl⟩
  | start program =>
      obtain rfl := Option.some.inj taken
      refine ⟨_, owing.start (settled program rfl), ?_⟩
      simp [paid, emits, earned, performs]
  | go i e =>
      simp only [Fleet.step] at taken
      split at taken
      next op next entry =>
        obtain rfl := Option.some.inj taken
        obtain ⟨due, owed, owes⟩ := owing.account entry
        refine ⟨_, owing.set (owes (exec e op s.shared).1) _, ?_⟩
        have earns : s.earned earn exec (.go i e) = earn op (exec e op s.shared).1 := by
          simp only [earned, performs, entry]
        have pays : s.paid worth (.go i e) = 0 := by simp only [paid, emits, entry]
        rw [sum_set owed, earns, pays, zero_add, sub_add_eq_add_sub, add_comm due, ← add_assoc,
          add_sub_cancel_right, add_comm]
      next event next entry =>
        obtain rfl := Option.some.inj taken
        obtain ⟨due, owed, owes⟩ := owing.account entry
        have owes : Metered.Owes earn worth (due - worth event) (next ()) := owes
        refine ⟨_, owing.set owes _, ?_⟩
        have earns : s.earned earn exec (.go i e) = 0 := by simp only [earned, performs, entry]
        have pays : s.paid worth (.go i e) = worth event := by simp only [paid, emits, entry]
        rw [sum_set owed, earns, pays, zero_add, sub_add_sub_cancel, add_sub_cancel]
      next => cases taken

/-- So it is for a run. -/
theorem Owing.run {as : List (FleetAction σ Op Reply μ ε α E)}
    (owing : s.Owing earn worth dues)
    (path : Transition.Run (Fleet.step exec) (StartsSettled earn worth) s as t) :
    ∃ dues', t.Owing earn worth dues' ∧
      Transition.tally (Fleet.step exec) (paid worth) s as + dues'.sum =
        Transition.tally (Fleet.step exec) (earned earn exec) s as + dues.sum := by
  induction path generalizing dues with
  | nil s => exact ⟨dues, owing, rfl⟩
  | @cons s u t a as settled taken rest ih =>
      obtain ⟨mid, owing', here⟩ := owing.step settled taken
      obtain ⟨last, owing'', later⟩ := ih owing'
      refine ⟨last, owing'', ?_⟩
      rw [Transition.tally_cons taken, Transition.tally_cons taken, add_assoc, later,
        add_left_comm, here, add_left_comm, add_assoc]

/-- When no program is under way, everything that was earned has been paid. -/
theorem paid_eq_earned {shared : σ} {as : List (FleetAction σ Op Reply μ ε α E)}
    (path : Transition.Run (Fleet.step exec) (StartsSettled earn worth) ⟨shared, []⟩ as t)
    (ended : ∀ program ∈ t.programs, program.next? = none) :
    Transition.tally (Fleet.step exec) (paid worth) ⟨shared, []⟩ as =
      Transition.tally (Fleet.step exec) (earned earn exec) ⟨shared, []⟩ as := by
  have none : Owing earn worth (⟨shared, []⟩ : Fleet σ Op Reply μ ε α) ([] : List M) :=
    ⟨rfl, fun i due program owed => by simp at owed⟩
  obtain ⟨dues, owing, balance⟩ := none.run path
  have settled : ∀ due ∈ dues, due = 0 := by
    intro due among
    obtain ⟨i, owed⟩ := List.mem_iff_getElem?.mp among
    obtain ⟨inside, -⟩ := List.getElem?_eq_some_iff.mp owed
    obtain ⟨program, entry⟩ : ∃ program, t.programs[i]? = some program :=
      ⟨_, List.getElem?_eq_getElem (owing.length_eq ▸ inside)⟩
    have owes := owing.owes i due program owed entry
    have last := ended program (List.mem_of_getElem? entry)
    cases program with
    | done value => exact owes
    | fail error => exact owes
    | call op next => cases last
  simpa [List.sum_eq_zero settled] using balance

end Accounts

end Fleet

end Metering
