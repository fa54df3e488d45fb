import Mathlib.Algebra.BigOperators.Group.List.Basic
import Mathlib.Algebra.Group.Basic
import Mathlib.Algebra.Order.Group.Multiset
import Backfill.Misc.SerialTable
import Backfill.Misc.Transition

/-!
# What is conserved along a run

`tally step f s as` adds up what every step of a run brings, in any commutative monoid: a number,
or a multiset of things. When what is there, together with what a step takes away, is what was
there before, together with what it brings, then the same is true of the whole run.
-/

namespace Transition

variable {σ α M : Type}

/-- The sum of what `f` gives for the steps of a run. -/
def tally [Zero M] [Add M] (step : σ → α → Option σ) (f : σ → α → M) : σ → List α → M
  | _, [] => 0
  | s, a :: as => f s a +
      match step s a with
      | none => 0
      | some t => tally step f t as

section Monoid

variable [AddCommMonoid M] {step : σ → α → Option σ} {ok : σ → α → Prop} {s t u : σ} {a : α}
  {as : List α} {f g : σ → α → M}

theorem tally_cons (taken : step s a = some t) :
    tally step f s (a :: as) = f s a + tally step f t as := by
  simp only [tally, taken]

/-- A homomorphism can be applied before the sum is taken. -/
theorem map_tally {N : Type} [AddCommMonoid N] (h : M →+ N) (s : σ) (as : List α) :
    h (tally step f s as) = tally step (fun s a => h (f s a)) s as := by
  induction as generalizing s with
  | nil => exact h.map_zero
  | cons a as ih =>
      simp only [tally, h.map_add]
      cases taken : step s a with
      | none => simp
      | some t => simp only [ih]

/-- Two sums can be taken as one. -/
theorem tally_add (s : σ) (as : List α) :
    tally step (fun s a => f s a + g s a) s as = tally step f s as + tally step g s as := by
  induction as generalizing s with
  | nil => exact (zero_add 0).symm
  | cons a as ih =>
      simp only [tally]
      cases taken : step s a with
      | none => simp
      | some t => simp only [ih, add_add_add_comm]

/-- What each step conserves, a run conserves. -/
theorem Run.balanced {I : σ → Prop} {m : σ → M} (path : Run step ok s as t) (start : I s)
    (keeps : ∀ s a t, I s → ok s a → step s a = some t → I t)
    (each : ∀ s a t, I s → ok s a → step s a = some t → m t + f s a = m s + g s a) :
    m t + tally step f s as = m s + tally step g s as := by
  induction path with
  | nil s => rfl
  | @cons s u t a as guard taken rest ih =>
      have later := ih (keeps s a u start guard taken)
      have here := each s a u start guard taken
      rw [tally_cons taken, tally_cons taken]
      calc m t + (f s a + tally step f u as)
          = (m t + tally step f u as) + f s a := by rw [add_comm (f s a), add_assoc]
        _ = (m u + tally step g u as) + f s a := by rw [later]
        _ = (m u + f s a) + tally step g u as := by rw [add_right_comm]
        _ = m s + (g s a + tally step g u as) := by rw [here, add_assoc]

end Monoid

/-- Whatever a run has brought, one of its steps has. -/
theorem Run.mem_tally {β : Type} {step : σ → α → Option σ} {ok : σ → α → Prop} {s t : σ}
    {as : List α} {f : σ → α → Multiset β} {x : β} (path : Run step ok s as t)
    (among : x ∈ tally step f s as) :
    ∃ before a after u v, as = before ++ a :: after ∧ Run step ok s before u ∧ ok u a ∧
      step u a = some v ∧ Run step ok v after t ∧ x ∈ f u a := by
  induction path with
  | nil s => exact absurd among (Multiset.notMem_zero x)
  | @cons s u t a as guard taken rest ih =>
      rw [tally_cons taken] at among
      rcases Multiset.mem_add.mp among with here | later
      · exact ⟨[], a, as, s, u, rfl, .nil s, guard, taken, rest, here⟩
      · obtain ⟨before, b, after, v, w, rfl, first, guard', taken', last, there⟩ := ih later
        exact ⟨a :: before, b, after, v, w, rfl, .cons guard taken first, guard', taken', last,
          there⟩

/-- Numbers that a run draws from a counter are new, and none is drawn twice. -/
theorem Run.nodup_tally {step : σ → α → Option σ} {ok : σ → α → Prop} {s t : σ} {as : List α}
    {f : σ → α → Multiset Int} {m : σ → Int} {I : σ → Prop} (path : Run step ok s as t) (start : I s)
    (keeps : ∀ s a t, I s → step s a = some t → I t ∧ m s ≤ m t)
    (draws : ∀ s a t, I s → step s a = some t → f s a = 0 ∨ f s a = {m s} ∧ m s < m t) :
    (tally step f s as).Nodup ∧ ∀ n ∈ tally step f s as, m s ≤ n := by
  induction path with
  | nil s => exact ⟨Multiset.nodup_zero, fun n among => absurd among (Multiset.notMem_zero n)⟩
  | @cons s u t a as guard taken rest ih =>
      obtain ⟨kept, grows⟩ := keeps s a u start taken
      obtain ⟨once, later⟩ := ih kept
      rw [tally_cons taken]
      rcases draws s a u start taken with none | ⟨one, advances⟩
      · rw [none, zero_add]
        exact ⟨once, fun n among => le_trans grows (later n among)⟩
      · rw [one]
        refine ⟨Multiset.nodup_add.mpr ⟨Multiset.nodup_singleton _, once, ?_⟩, fun n among => ?_⟩
        · refine Multiset.disjoint_left.mpr fun {n} here there => ?_
          have same := Multiset.mem_singleton.mp here
          have below := later n there
          omega
        · rcases Multiset.mem_add.mp among with here | there
          · exact le_of_eq (Multiset.mem_singleton.mp here).symm
          · exact le_trans grows (later n there)

end Transition

namespace SerialTable

variable {ρ ι : Type} {id : ρ → Int} {index : ρ → Option ι} {t : SerialTable id index}

/-- The keys of a table. -/
def keys (t : SerialTable id index) : Multiset Int := (t.rows.map id : List Int)

theorem mem_keys {key : Int} : key ∈ t.keys ↔ ∃ r ∈ t.rows, id r = key := by
  simp [keys]

theorem nodup_keys (t : SerialTable id index) : t.keys.Nodup := by
  rw [keys, Multiset.coe_nodup, List.nodup_iff_pairwise_ne, List.pairwise_map]
  exact t.apart.imp fun apart same => apart (.inl same)

theorem keys_update (p : ρ → Bool) (e : RowEdit id index) : (t.update p e).keys = t.keys := by
  rw [keys, keys, map_id_update]

/-- What a delete takes out was there. -/
theorem keys_delete (p : ρ → Bool) :
    (t.delete p).keys + ((t.rows.filter p).map id : List Int) = t.keys := by
  unfold keys delete
  rw [Multiset.coe_add, ← List.map_append, Multiset.coe_eq_coe]
  exact (List.perm_append_comm.trans (List.filter_append_perm p t.rows)).map id

theorem keys_insert (d : RowDraft id index)
    (fresh : ∀ r ∈ t.rows, d.indexValue = none ∨ index r ≠ d.indexValue) :
    (t.insert d fresh).keys = t.keys + {t.nextId} := by
  unfold keys insert
  rw [List.map_append, ← Multiset.coe_add, List.map_singleton, d.id_eq]
  rfl

/-- An upsert brings one new key, unless it finds a row to edit. -/
theorem keys_upsert [DecidableEq ι] (d : RowDraft id index) (e : RowEdit id index) :
    (t.upsert d e).keys =
      t.keys + if t.holds d.indexValue then 0 else {t.nextId} := by
  unfold upsert
  split
  next held => exact (keys_update _ e).trans (add_zero _).symm
  next free => exact keys_insert d _

section Weight

variable {M : Type} [AddCommMonoid M] {w : ρ → M} {c : M}

/-- The sum of what the rows of a table weigh. -/
def weigh (w : ρ → M) (t : SerialTable id index) : M := (t.rows.map w).sum

theorem weigh_update {p : ρ → Bool} {e : RowEdit id index} (same : ∀ r, w (e.apply r) = w r) :
    (t.update p e).weigh w = t.weigh w := by
  unfold weigh update
  rw [List.map_map]
  refine congrArg List.sum (List.map_congr_left fun r _ => ?_)
  simp only [Function.comp_apply]
  split
  · exact same r
  · rfl

/-- What a delete takes out weighs what is missing afterwards. -/
theorem weigh_delete (p : ρ → Bool) :
    (t.delete p).weigh w + ((t.rows.filter p).map w).sum = t.weigh w := by
  unfold weigh delete
  rw [← List.sum_append, ← List.map_append]
  exact ((List.perm_append_comm.trans (List.filter_append_perm p t.rows)).map w).sum_eq

/-- An edit of the one row that holds an index value adds to the sum what it adds to the row. -/
theorem sum_edit [DecidableEq ι] {value : Option ι} {e : RowEdit id index} (present : value ≠ none)
    (edited : ∀ r, index r = value → w (e.apply r) = w r + c) {rows : List ρ}
    (apart : rows.Pairwise fun a b => ¬ Clash id index a b)
    (held : ∃ r ∈ rows, index r = value) :
    (rows.map fun r => w (if index r = value then e.apply r else r)).sum =
      (rows.map w).sum + c := by
  induction rows with
  | nil => simp at held
  | cons r rows ih =>
      obtain ⟨other, rest⟩ := List.pairwise_cons.mp apart
      simp only [List.map_cons, List.sum_cons]
      by_cases same : index r = value
      · have single : ∀ r' ∈ rows, index r' ≠ value := fun r' member same' =>
          other r' member (.inr ⟨same ▸ present, same.trans same'.symm⟩)
        have kept : (rows.map fun r => w (if index r = value then e.apply r else r)) =
            rows.map w :=
          List.map_congr_left fun r' member => by rw [if_neg (single r' member)]
        rw [if_pos same, edited r same, kept, add_right_comm]
      · obtain ⟨r', member, same'⟩ := held
        have later : r' ∈ rows :=
          (List.mem_cons.mp member).resolve_left fun is => same (is ▸ same')
        rw [if_neg same, ih rest ⟨r', later, same'⟩, add_assoc]

/-- An upsert adds one weight, whether it edits a row or inserts one. -/
theorem weigh_upsert [DecidableEq ι] {d : RowDraft id index} {e : RowEdit id index}
    (edited : ∀ r, index r = d.indexValue → w (e.apply r) = w r + c)
    (inserted : w (d.row t.nextId) = c) : (t.upsert d e).weigh w = t.weigh w + c := by
  unfold upsert
  split
  next held =>
    obtain ⟨present, found⟩ := holds_iff.mp held
    have sum := sum_edit present edited t.apart found
    simpa [weigh, skip, update, Function.comp_def] using sum
  next free => simp [weigh, insert, inserted]

end Weight

end SerialTable
