import Backfill.Misc.Program
import Backfill.Misc.Transition

/-!
# Programs that fail before they change anything

A program is all or nothing when it ends with an error only as long as its operations have spared
the state, in a sense that is up to the program. Once one of them has not, it ends with a value,
whatever it is answered and whatever others make of the state in between. This composes along
`bind`. Any number of such programs can be served on one state next to anybody else: what has failed
has spared the state.
-/

namespace Program

variable {Op : Type} {Reply : Op → Type} {ε ε' α β σ E : Type}

/-- Whatever it is answered, the program ends with a value, and with one that meets `post`. -/
def Succeeds (exec : E → (op : Op) → σ → Reply op × σ) (post : α → Prop) :
    Program Op Reply ε α → Prop
  | done value => post value
  | fail _ => False
  | call op next => ∀ e s, (next (exec e op s).1).Succeeds exec post

/-- After an operation that does not spare the state, the program ends with a value that meets
`post`. -/
def AllOrNothing (exec : E → (op : Op) → σ → Reply op × σ) (spares : σ → σ → Prop)
    (post : α → Prop) : Program Op Reply ε α → Prop
  | done _ => True
  | fail _ => True
  | call op next => ∀ e s,
      spares s (exec e op s).2 ∧ (next (exec e op s).1).AllOrNothing exec spares post ∨
        (next (exec e op s).1).Succeeds exec post

variable {exec : E → (op : Op) → σ → Reply op × σ} {spares : σ → σ → Prop} {post : α → Prop}
  {post' : β → Prop} {p : Program Op Reply ε α} {f : α → Program Op Reply ε β}

namespace Succeeds

theorem bind (first : p.Succeeds exec post)
    (second : ∀ value, post value → (f value).Succeeds exec post') :
    (p >>= f).Succeeds exec post' := by
  induction p with
  | done value => exact second value first
  | fail error => exact first.elim
  | call op next ih => exact fun e s => ih _ (first e s)

theorem mapError {g : ε → ε'} (succeeds : p.Succeeds exec post) :
    (p.mapError g).Succeeds exec post := by
  induction p with
  | done value => exact succeeds
  | fail error => exact succeeds
  | call op next ih => exact fun e s => ih _ (succeeds e s)

/-- A program whose error is caught ends with a value. -/
theorem attempt (p : Program Op Reply ε α) :
    (p.attempt : Program Op Reply ε' (Except ε α)).Succeeds exec fun _ => True := by
  induction p with
  | done value => trivial
  | fail error => trivial
  | call op next ih => exact fun e s => ih _

theorem allOrNothing (succeeds : p.Succeeds exec post) : p.AllOrNothing exec spares post := by
  cases p with
  | done value => trivial
  | fail error => trivial
  | call op next => exact fun e s => .inr (succeeds e s)

end Succeeds

/-- After operations that all spare the state, everything is left to what comes next. -/
theorem Calls.bind_allOrNothing {I : Op → Prop} (calls : p.Calls I)
    (harmless : ∀ op, I op → ∀ e s, spares s (exec e op s).2)
    (second : ∀ value, (f value).AllOrNothing exec spares post') :
    (p >>= f).AllOrNothing exec spares post' := by
  induction p with
  | done value => exact second value
  | fail error => trivial
  | call op next ih => exact fun e s => .inl ⟨harmless op calls.1 e s, ih _ (calls.2 _)⟩

namespace AllOrNothing

/-- The second half has to succeed where the first has not spared the state, and is all or nothing
where it has. -/
theorem bind (first : p.AllOrNothing exec spares post)
    (clean : ∀ value, (f value).AllOrNothing exec spares post')
    (second : ∀ value, post value → (f value).Succeeds exec post') :
    (p >>= f).AllOrNothing exec spares post' := by
  induction p with
  | done value => exact clean value
  | fail error => trivial
  | call op next ih =>
      intro e s
      rcases first e s with ⟨spared, rest⟩ | succeeds
      · exact .inl ⟨spared, ih _ rest⟩
      · exact .inr (succeeds.bind second)

theorem mapError {g : ε → ε'} (allOrNothing : p.AllOrNothing exec spares post) :
    (p.mapError g).AllOrNothing exec spares post := by
  induction p with
  | done value => trivial
  | fail error => trivial
  | call op next ih =>
      intro e s
      rcases allOrNothing e s with ⟨spared, rest⟩ | succeeds
      · exact .inl ⟨spared, ih _ rest⟩
      · exact .inr succeeds.mapError

end AllOrNothing

end Program

/-- A request that is being served. -/
structure ServiceCall (σ ι Op : Type) (Reply : Op → Type) (ε α : Type) where
  request : ι
  program : Program Op Reply ε α
  /-- What its operations have made of the state, each from what it found. -/
  changes : List (σ × σ)

/-- A state that requests are served on. -/
structure Service (σ ι Op : Type) (Reply : Op → Type) (ε α : Type) where
  shared : σ
  calls : List (ServiceCall σ ι Op Reply ε α)

inductive ServiceAction (σ ι E : Type)
  /-- somebody else leaves the state `shared` -/
  | other (shared : σ)
  | call (request : ι)
  /-- the program of call `i` performs its next operation under the circumstances `e` -/
  | go (i : Nat) (e : E)

namespace Service

variable {σ ι Op : Type} {Reply : Op → Type} {ε α E : Type}
  (handler : ι → Program Op Reply ε α) (exec : E → (op : Op) → σ → Reply op × σ)

/-- One step; `none` when call `i` is missing or has ended. -/
def step (s : Service σ ι Op Reply ε α) :
    ServiceAction σ ι E → Option (Service σ ι Op Reply ε α)
  | .other shared => some { s with shared := shared }
  | .call request => some { s with calls := s.calls ++ [⟨request, handler request, []⟩] }
  | .go i e =>
      match s.calls[i]? with
      | some ⟨request, .call op next, changes⟩ =>
          some
            { shared := (exec e op s.shared).2
              calls := s.calls.set i ⟨request, next (exec e op s.shared).1,
                changes ++ [(s.shared, (exec e op s.shared).2)]⟩ }
      | _ => none

/-- What every call keeps: as long as its operations have spared the state, it is all or nothing;
and it succeeds afterwards. -/
def Clean (spares : ι → σ → σ → Prop) (c : ServiceCall σ ι Op Reply ε α) : Prop :=
  (∀ change ∈ c.changes, spares c.request change.1 change.2) ∧
      c.program.AllOrNothing exec (spares c.request) (fun _ => True) ∨
    c.program.Succeeds exec fun _ => True

variable {handler exec} {spares : ι → σ → σ → Prop} {s s' : Service σ ι Op Reply ε α}
  {a : ServiceAction σ ι E}

theorem Clean.step
    (guarded : ∀ request,
      (handler request).AllOrNothing exec (spares request) fun _ => True)
    (clean : ∀ c ∈ s.calls, Clean exec spares c) (taken : s.step handler exec a = some s') :
    ∀ c ∈ s'.calls, Clean exec spares c := by
  cases a with
  | other shared =>
      obtain rfl := Option.some.inj taken
      exact clean
  | call request =>
      obtain rfl := Option.some.inj taken
      intro c among
      rcases List.mem_append.mp among with old | new
      · exact clean c old
      · obtain rfl := List.mem_singleton.mp new
        exact .inl ⟨fun change member => (by cases member), guarded request⟩
  | go i e =>
      simp only [Service.step] at taken
      split at taken
      next request op next changes entry =>
        obtain rfl := Option.some.inj taken
        intro c among
        rcases List.mem_or_eq_of_mem_set among with old | rfl
        · exact clean c old
        · rcases clean _ (List.mem_of_getElem? entry) with ⟨spared, allOrNothing⟩ | succeeds
          · rcases allOrNothing e s.shared with ⟨now, rest⟩ | rest
            · refine .inl ⟨fun change member => ?_, rest⟩
              rcases List.mem_append.mp member with before | last
              · exact spared change before
              · obtain rfl := List.mem_singleton.mp last
                exact now
            · exact .inr rest
          · exact .inr (succeeds e s.shared)
      next => cases taken

/-- Whatever is served next to it and whoever else works on the state, a request that has failed
has spared the state. -/
theorem failed_spares {shared : σ} {as : List (ServiceAction σ ι E)}
    (guarded : ∀ request,
      (handler request).AllOrNothing exec (spares request) fun _ => True)
    (path : Transition.Run (step handler exec) (fun _ _ => True) ⟨shared, []⟩ as s) :
    ∀ c ∈ s.calls, ∀ error, c.program = .fail error →
      ∀ change ∈ c.changes, spares c.request change.1 change.2 := by
  have clean : ∀ c ∈ s.calls, Clean exec spares c :=
    path.invariant (I := fun s => ∀ c ∈ s.calls, Clean exec spares c)
      (fun _ _ _ clean _ taken => Clean.step guarded clean taken)
      fun c among => by cases among
  intro c among error failed
  rcases clean c among with ⟨spared, -⟩ | succeeds
  · exact spared
  · rw [failed] at succeeds
    exact succeeds.elim

end Service
