import Backfill.Misc.Program

/-!
# What a program owes for the replies it gets

`Program.Calls` speaks of the calls a program makes whatever it is answered. Some programs pass
on what they have been told: their calls are in order as long as the replies are. `Honours`
states that, with what is relied on as a parameter; it composes along `bind`, and in every
environment whose replies keep to the assumption the guarantee holds of each call.
-/

namespace Program

variable {Op : Type} {Reply : Op → Type} {ε ε' α β σ : Type}

/-- As long as every reply meets `rely`, every call meets `owes`, and the value at the end meets
`post`. -/
def Honours (rely : (op : Op) → Reply op → Prop) (owes : Op → Prop) (post : α → Prop) :
    Program Op Reply ε α → Prop
  | done value => post value
  | fail _ => True
  | call op next => owes op ∧ ∀ reply, rely op reply → (next reply).Honours rely owes post

variable {rely : (op : Op) → Reply op → Prop} {owes : Op → Prop} {post : α → Prop}

/-- What holds of all calls anyway needs no assumption. -/
theorem Calls.honours {p : Program Op Reply ε α} (calls : p.Calls owes) :
    p.Honours rely owes fun _ => True := by
  induction p with
  | done value => trivial
  | fail error => trivial
  | call op next ih => exact ⟨calls.1, fun reply _ => ih reply (calls.2 reply)⟩

namespace Honours

/-- A sequence relies on what its first half guarantees of its value. -/
theorem bind {post' : β → Prop} {p : Program Op Reply ε α} {f : α → Program Op Reply ε β}
    (first : p.Honours rely owes post)
    (second : ∀ value, post value → (f value).Honours rely owes post') :
    (p >>= f).Honours rely owes post' := by
  induction p with
  | done value => exact second value first
  | fail error => trivial
  | call op next ih => exact ⟨first.1, fun reply kept => ih reply (first.2 reply kept)⟩

/-- Catching the error of a program changes nothing about what it owes. -/
theorem attempt {p : Program Op Reply ε α} (honours : p.Honours rely owes post) :
    (p.attempt : Program Op Reply ε' (Except ε α)).Honours rely owes fun _ => True := by
  induction p with
  | done value => trivial
  | fail error => trivial
  | call op next ih => exact ⟨honours.1, fun reply kept => ih reply (honours.2 reply kept)⟩

/-- The operation a program is about to perform is one it owes. -/
theorem next {p : Program Op Reply ε α} (honours : p.Honours rely owes post) {op : Op}
    (next : p.next? = some op) : owes op := by
  cases p with
  | done value => cases next
  | fail error => cases next
  | call op' next' =>
      obtain rfl := Option.some.inj next
      exact honours.1

end Honours

end Program
