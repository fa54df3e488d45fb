/-!
# Programs over a signature of operations

`Program Op Reply ε α` is a program that performs operations `op : Op`, is answered
in `Reply op`, and ends with a value in `α` or an error in `ε`. Nothing is said about
what the operations do: `run` executes a program alone against a handler, and a
concurrent semantics can execute the same program one `call` at a time between the
calls of others. So one text of a client routine serves both readings.
-/

/-- A program that calls operations and ends with a value or an error. -/
inductive Program (Op : Type) (Reply : Op → Type) (ε α : Type) : Type
  | done (value : α)
  | fail (error : ε)
  | call (op : Op) (next : Reply op → Program Op Reply ε α)

namespace Program

variable {Op : Type} {Reply : Op → Type} {ε ε' α β γ σ : Type}

/-- Sequencing; an error ends the whole program, as the `?` operator does. -/
def bind : Program Op Reply ε α → (α → Program Op Reply ε β) → Program Op Reply ε β
  | done value, f => f value
  | fail error, _ => fail error
  | call op next, f => call op fun reply => (next reply).bind f

instance : Monad (Program Op Reply ε) where
  pure := done
  bind := bind

/-- Catch the error of a program and return it as a value. -/
def attempt : Program Op Reply ε α → Program Op Reply ε' (Except ε α)
  | done value => done (.ok value)
  | fail error => done (.error error)
  | call op next => call op fun reply => (next reply).attempt

/-- Rewrite the error of a program, as `map_err` does. -/
def mapError (g : ε → ε') : Program Op Reply ε α → Program Op Reply ε' α
  | done value => done value
  | fail error => fail (g error)
  | call op next => call op fun reply => (next reply).mapError g

/-- The operation a program is about to perform. -/
def next? : Program Op Reply ε α → Option Op
  | call op _ => some op
  | _ => none

/-- Every call the program may ever make, whatever it is answered, satisfies `I`. -/
def Calls (I : Op → Prop) : Program Op Reply ε α → Prop
  | done _ => True
  | fail _ => True
  | call op next => I op ∧ ∀ reply, (next reply).Calls I

/-- Every value the program may ever end with, whatever it is answered, satisfies `P`. -/
def Ends (P : α → Prop) : Program Op Reply ε α → Prop
  | done value => P value
  | fail _ => True
  | call _ next => ∀ reply, (next reply).Ends P

@[simp] theorem pure_eq (value : α) :
    (pure value : Program Op Reply ε α) = done value := rfl

@[simp] theorem bind_eq (p : Program Op Reply ε α) (f : α → Program Op Reply ε β) :
    p.bind f = p >>= f := rfl

@[simp] theorem bind_done (value : α) (f : α → Program Op Reply ε β) :
    (done value >>= f) = f value := rfl

@[simp] theorem bind_fail (error : ε) (f : α → Program Op Reply ε β) :
    ((fail error : Program Op Reply ε α) >>= f) = fail error := rfl

@[simp] theorem bind_call (op : Op) (next : Reply op → Program Op Reply ε α)
    (f : α → Program Op Reply ε β) :
    (call op next >>= f) = call op fun reply => next reply >>= f := rfl

/-- Sequencing is associative. -/
theorem bind_assoc (p : Program Op Reply ε α) (f : α → Program Op Reply ε β)
    (g : β → Program Op Reply ε γ) : p >>= f >>= g = p >>= fun value => f value >>= g := by
  induction p with
  | done value => rfl
  | fail error => rfl
  | call op next ih => exact congrArg _ (funext ih)

/-- A sequence that ends with the value of its first half. -/
theorem bind_return (p : Program Op Reply ε α) : (p >>= fun value => .done value) = p := by
  induction p with
  | done value => rfl
  | fail error => rfl
  | call op next ih => exact congrArg _ (funext ih)

section Calls

variable {I : Op → Prop}

@[simp] theorem calls_done (value : α) : (done value : Program Op Reply ε α).Calls I := trivial

@[simp] theorem calls_fail (error : ε) : (fail error : Program Op Reply ε α).Calls I := trivial

/-- The operation a program is about to perform is one of its calls. -/
theorem Calls.next {p : Program Op Reply ε α} (calls : p.Calls I) {op : Op}
    (next : p.next? = some op) : I op := by
  cases p with
  | done value => cases next
  | fail error => cases next
  | call op' next' =>
      obtain rfl := Option.some.inj next
      exact calls.1

/-- What both halves of a sequence keep to, the sequence keeps to. -/
theorem Calls.bind {p : Program Op Reply ε α} {f : α → Program Op Reply ε β} (first : p.Calls I)
    (second : ∀ value, (f value).Calls I) : (p >>= f).Calls I := by
  induction p with
  | done value => exact second value
  | fail error => trivial
  | call op next ih => exact ⟨first.1, fun reply => ih reply (first.2 reply)⟩

/-- Catching the error of a program adds no call. -/
theorem Calls.attempt {p : Program Op Reply ε α} (calls : p.Calls I) :
    (p.attempt : Program Op Reply ε' (Except ε α)).Calls I := by
  induction p with
  | done value => trivial
  | fail error => trivial
  | call op next ih => exact ⟨calls.1, fun reply => ih reply (calls.2 reply)⟩

/-- Rewriting it adds none either. -/
theorem Calls.mapError {g : ε → ε'} {p : Program Op Reply ε α} (calls : p.Calls I) :
    (p.mapError g).Calls I := by
  induction p with
  | done value => trivial
  | fail error => trivial
  | call op next ih => exact ⟨calls.1, fun reply => ih reply (calls.2 reply)⟩

/-- A sequence ends where its second half ends. -/
theorem Ends.bind {P : β → Prop} (p : Program Op Reply ε α) {f : α → Program Op Reply ε β}
    (second : ∀ value, (f value).Ends P) : (p >>= f).Ends P := by
  induction p with
  | done value => exact second value
  | fail error => trivial
  | call op next ih => exact ih

end Calls

/-- Execute a program alone, every call answered by the handler `exec`. -/
def run (exec : (op : Op) → σ → Reply op × σ) : Program Op Reply ε α → σ → Except ε α × σ
  | done value, s => (.ok value, s)
  | fail error, s => (.error error, s)
  | call op next, s => (next (exec op s).1).run exec (exec op s).2

/-- The operations a program performs when it is executed alone, in their order. -/
def trace (exec : (op : Op) → σ → Reply op × σ) : Program Op Reply ε α → σ → List Op
  | done _, _ => []
  | fail _, _ => []
  | call op next, s => op :: (next (exec op s).1).trace exec (exec op s).2

/-- The operations a program performs when it is executed alone, each with the state it meets. -/
def visits (exec : (op : Op) → σ → Reply op × σ) : Program Op Reply ε α → σ → List (Op × σ)
  | done _, _ => []
  | fail _, _ => []
  | call op next, s => (op, s) :: (next (exec op s).1).visits exec (exec op s).2

section Run

variable (exec : (op : Op) → σ → Reply op × σ)

@[simp] theorem run_done (value : α) (s : σ) :
    (done value : Program Op Reply ε α).run exec s = (.ok value, s) := rfl

@[simp] theorem run_fail (error : ε) (s : σ) :
    (fail error : Program Op Reply ε α).run exec s = (.error error, s) := rfl

@[simp] theorem run_call (op : Op) (next : Reply op → Program Op Reply ε α) (s : σ) :
    (call op next).run exec s = (next (exec op s).1).run exec (exec op s).2 := rfl

@[simp] theorem trace_done (value : α) (s : σ) :
    (done value : Program Op Reply ε α).trace exec s = [] := rfl

@[simp] theorem trace_fail (error : ε) (s : σ) :
    (fail error : Program Op Reply ε α).trace exec s = [] := rfl

@[simp] theorem trace_call (op : Op) (next : Reply op → Program Op Reply ε α) (s : σ) :
    (call op next).trace exec s = op :: (next (exec op s).1).trace exec (exec op s).2 := rfl

@[simp] theorem visits_done (value : α) (s : σ) :
    (done value : Program Op Reply ε α).visits exec s = [] := rfl

@[simp] theorem visits_fail (error : ε) (s : σ) :
    (fail error : Program Op Reply ε α).visits exec s = [] := rfl

@[simp] theorem visits_call (op : Op) (next : Reply op → Program Op Reply ε α) (s : σ) :
    (call op next).visits exec s =
      (op, s) :: (next (exec op s).1).visits exec (exec op s).2 := rfl

/-- What a program performs is among its calls. -/
theorem Calls.visits {I : Op → Prop} {p : Program Op Reply ε α} (calls : p.Calls I) {s : σ}
    {visit : Op × σ} (performed : visit ∈ p.visits exec s) : I visit.1 := by
  induction p generalizing s with
  | done value => cases performed
  | fail error => cases performed
  | call op next ih =>
      rcases List.mem_cons.mp performed with rfl | later
      · exact calls.1
      · exact ih _ (calls.2 _) later

/-- Two handlers that agree on the calls of a program run it alike. -/
theorem run_congr {exec exec' : (op : Op) → σ → Reply op × σ} {I : Op → Prop}
    (same : ∀ op s, I op → exec op s = exec' op s) {p : Program Op Reply ε α} (calls : p.Calls I)
    (s : σ) : p.run exec s = p.run exec' s := by
  induction p generalizing s with
  | done value => rfl
  | fail error => rfl
  | call op next ih =>
      rw [run_call, run_call, same op s calls.1]
      exact ih _ (calls.2 _) _

/-- So it performs the same operations. -/
theorem trace_congr {exec exec' : (op : Op) → σ → Reply op × σ} {I : Op → Prop}
    (same : ∀ op s, I op → exec op s = exec' op s) {p : Program Op Reply ε α} (calls : p.Calls I)
    (s : σ) : p.trace exec s = p.trace exec' s := by
  induction p generalizing s with
  | done value => rfl
  | fail error => rfl
  | call op next ih =>
      rw [trace_call, trace_call, same op s calls.1]
      exact congrArg _ (ih _ (calls.2 _) _)

/-- A sequence runs its second half from where the first one stopped, and only if
the first one ended with a value. -/
theorem run_bind (p : Program Op Reply ε α) (f : α → Program Op Reply ε β) (s : σ) :
    (p >>= f).run exec s =
      match p.run exec s with
      | (.ok value, t) => (f value).run exec t
      | (.error error, t) => (.error error, t) := by
  induction p generalizing s with
  | done value => rfl
  | fail error => rfl
  | call op next ih => exact ih _ _

/-- A sequence goes on with the value its first half ends with. -/
theorem run_bind_ok {p : Program Op Reply ε α} {f : α → Program Op Reply ε β} {s : σ} {value : α}
    (ended : (p.run exec s).1 = .ok value) :
    (p >>= f).run exec s = (f value).run exec (p.run exec s).2 := by
  rw [run_bind]
  generalize p.run exec s = result at ended ⊢
  obtain ⟨_, t⟩ := result
  subst ended
  rfl

/-- A sequence ends with the error its first half ends with. -/
theorem run_bind_error {p : Program Op Reply ε α} {f : α → Program Op Reply ε β} {s : σ}
    {error : ε} (ended : (p.run exec s).1 = .error error) :
    (p >>= f).run exec s = (.error error, (p.run exec s).2) := by
  rw [run_bind]
  generalize p.run exec s = result at ended ⊢
  obtain ⟨_, t⟩ := result
  subst ended
  rfl

/-- A sequence that ends with a value has two halves that do. -/
theorem ok_of_run_bind {p : Program Op Reply ε α} {f : α → Program Op Reply ε β} {s : σ}
    {value : β} (ended : ((p >>= f).run exec s).1 = .ok value) :
    ∃ first, (p.run exec s).1 = .ok first ∧
      ((f first).run exec (p.run exec s).2).1 = .ok value := by
  cases half : (p.run exec s).1 with
  | error error =>
      rw [run_bind_error exec half] at ended
      cases ended
  | ok first =>
      rw [run_bind_ok exec half] at ended
      exact ⟨first, rfl, ended⟩

/-- Mapping the value of a program does not touch the state. -/
theorem run_map (g : α → β) (p : Program Op Reply ε α) (s : σ) :
    (g <$> p).run exec s = ((p.run exec s).1.map g, (p.run exec s).2) := by
  induction p generalizing s with
  | done value => rfl
  | fail error => rfl
  | call op next ih => exact ih _ _

/-- Computing with the value of a program does not touch the state. -/
theorem run_bind_done (p : Program Op Reply ε α) (g : α → β) (s : σ) :
    ((p >>= fun value => (done (g value) : Program Op Reply ε β)).run exec s).2 =
      (p.run exec s).2 := by
  rw [run_bind]
  split <;> simp only [run_done, *]

/-- Catching an error keeps the state the failed program left behind. -/
theorem run_attempt (p : Program Op Reply ε α) (s : σ) :
    (p.attempt : Program Op Reply ε' (Except ε α)).run exec s =
      (.ok (p.run exec s).1, (p.run exec s).2) := by
  induction p generalizing s with
  | done value => rfl
  | fail error => rfl
  | call op next ih => exact ih _ _

/-- Rewriting an error does not touch the state. -/
theorem run_mapError (g : ε → ε') (p : Program Op Reply ε α) (s : σ) :
    (p.mapError g).run exec s = ((p.run exec s).1.mapError g, (p.run exec s).2) := by
  induction p generalizing s with
  | done value => rfl
  | fail error => rfl
  | call op next ih => exact ih _ _

/-- A sequence performs the second half behind the first, if the first ends with a value. -/
theorem visits_bind_ok {p : Program Op Reply ε α} {f : α → Program Op Reply ε β} {s : σ}
    {value : α} (ended : (p.run exec s).1 = .ok value) :
    (p >>= f).visits exec s =
      p.visits exec s ++ (f value).visits exec (p.run exec s).2 := by
  induction p generalizing s with
  | done value =>
      obtain rfl := Except.ok.inj ended
      rfl
  | fail error => cases ended
  | call op next ih => exact congrArg (List.cons _) (ih _ ended)

/-- Catching the error of a program does not change what it performs. -/
theorem visits_attempt (p : Program Op Reply ε α) (s : σ) :
    (p.attempt : Program Op Reply ε' (Except ε α)).visits exec s = p.visits exec s := by
  induction p generalizing s with
  | done value => rfl
  | fail error => rfl
  | call op next ih => exact congrArg (List.cons _) (ih _ _)

/-- A program ends with the same value when its errors are rewritten. -/
theorem run_mapError_eq_ok {g : ε → ε'} {p : Program Op Reply ε α} {s : σ} {value : α} :
    ((p.mapError g).run exec s).1 = .ok value ↔ (p.run exec s).1 = .ok value := by
  rw [run_mapError]
  cases (p.run exec s).1 with
  | ok result =>
      show Except.ok result = Except.ok value ↔ _
      simp
  | error error =>
      show Except.error (g error) = Except.ok value ↔ _
      simp

end Run

end Program
