/-!
# Guarded runs of a partial step function

A machine is a partial step function `step : σ → α → Option σ`: `none` says that
the action is not enabled. `Run step ok` is the relation of its finite runs whose
every step meets the guard `ok` in the state it is taken in. The guard carries both
the actions a statement is about and the conditions on the branches they take, so
an invariant is stated and proved once, over the guard it needs.
-/

namespace Transition

variable {σ α : Type}

/-- Take the actions one after another; `none` as soon as one is not enabled. -/
def run (step : σ → α → Option σ) : σ → List α → Option σ
  | s, [] => some s
  | s, a :: as => (step s a).bind fun t => run step t as

/-- `Run step ok s as t`: the actions `as` lead from `s` to `t`, each of them
enabled and meeting `ok` in the state it is taken in. -/
inductive Run (step : σ → α → Option σ) (ok : σ → α → Prop) : σ → List α → σ → Prop
  | nil (s : σ) : Run step ok s [] s
  | cons {s t u : σ} {a : α} {as : List α} (guard : ok s a) (taken : step s a = some t)
      (rest : Run step ok t as u) : Run step ok s (a :: as) u

namespace Run

variable {step : σ → α → Option σ} {ok : σ → α → Prop} {s t u : σ} {as bs : List α}

/-- The one rule every safety result goes through: what each guarded step keeps,
every guarded run keeps. -/
theorem invariant {I : σ → Prop}
    (keeps : ∀ s a t, I s → ok s a → step s a = some t → I t)
    (path : Run step ok s as t) (start : I s) : I t := by
  induction path with
  | nil s => exact start
  | cons guard taken _ ih => exact ih (keeps _ _ _ start guard taken)

/-- What an invariant says of every action that is possible under it, it says of all actions
of a run. -/
theorem actions {I : σ → Prop} {P : α → Prop}
    (keeps : ∀ s a t, I s → step s a = some t → I t ∧ P a)
    (path : Run step ok s as t) (start : I s) : ∀ a ∈ as, P a := by
  induction path with
  | nil s => exact fun a member => absurd member List.not_mem_nil
  | cons guard taken _ ih =>
      obtain ⟨kept, holds⟩ := keeps _ _ _ start taken
      exact List.forall_mem_cons.mpr ⟨holds, ih kept⟩

/-- A guard may be given up for a weaker one. -/
theorem imp {weaker : σ → α → Prop} (weakens : ∀ s a, ok s a → weaker s a)
    (path : Run step ok s as t) : Run step weaker s as t := by
  induction path with
  | nil s => exact .nil s
  | cons guard taken _ ih => exact .cons (weakens _ _ guard) taken ih

/-- Two runs that meet compose. -/
theorem append (first : Run step ok s as t) (second : Run step ok t bs u) :
    Run step ok s (as ++ bs) u := by
  induction first with
  | nil s => exact second
  | cons guard taken _ ih => exact .cons guard taken (ih second)

/-- An evaluated list of actions is a run as soon as every action meets the guard
in every state. -/
theorem of_run {as : List α} (guarded : ∀ a ∈ as, ∀ s, ok s a)
    (evaluated : run step s as = some t) : Run step ok s as t := by
  induction as generalizing s with
  | nil =>
      obtain rfl := Option.some.inj evaluated
      exact .nil s
  | cons a as ih =>
      obtain ⟨mid, taken, rest⟩ := Option.bind_eq_some_iff.mp evaluated
      exact .cons (guarded a (List.mem_cons_self ..) s) taken
        (ih (fun b member => guarded b (List.mem_cons_of_mem _ member)) rest)

/-- So is one whose guards are checked as it is evaluated. -/
theorem of_checked {as : List α} (check : σ → α → Bool) (sound : ∀ s a, check s a = true → ok s a)
    (evaluated : run (fun s a => if check s a then step s a else none) s as = some t) :
    Run step ok s as t := by
  induction as generalizing s with
  | nil =>
      obtain rfl := Option.some.inj evaluated
      exact .nil s
  | cons a as ih =>
      obtain ⟨mid, taken, rest⟩ := Option.bind_eq_some_iff.mp evaluated
      simp only at taken
      split at taken
      next checked => exact .cons (sound s a checked) taken (ih rest)
      next => cases taken

end Run

end Transition
