import Mathlib.Algebra.GroupWithZero.Nat
import Mathlib.Data.List.Basic
import Mathlib.Data.List.Pairwise

/-!
# Lists that lose an entry, change one, or grow at their end
-/

namespace ListFacts

variable {α : Type} {R : α → α → Prop} {l : List α} {a b : α} {i : Nat}

/-- The entry at a position is related to every other entry. -/
theorem related_of_mem_eraseIdx [Std.Symm R] (related : l.Pairwise R) (entry : l[i]? = some a)
    (other : b ∈ l.eraseIdx i) : R a b := by
  obtain ⟨inside, rfl⟩ := List.getElem?_eq_some_iff.mp entry
  obtain ⟨j, bound, differ, rfl⟩ := List.mem_eraseIdx_iff_getElem.mp other
  have ordered := List.pairwise_iff_getElem.mp related
  rcases Nat.lt_or_gt_of_ne differ with below | above
  · exact Std.Symm.symm _ _ (ordered j i bound inside below)
  · exact ordered i j inside bound above

/-- Removing an entry keeps the others related. -/
theorem pairwise_eraseIdx (related : l.Pairwise R) : (l.eraseIdx i).Pairwise R :=
  related.sublist (List.eraseIdx_sublist ..)

/-- An entry related to all of a list can be added at its end. -/
theorem pairwise_concat (related : l.Pairwise R) (last : ∀ b ∈ l, R b a) :
    (l ++ [a]).Pairwise R :=
  List.pairwise_append.mpr ⟨related, List.pairwise_singleton _ _, fun b member c single => by
    rw [List.mem_singleton.mp single]
    exact last b member⟩

/-- An entry of a list that has grown at its end. -/
theorem getElem?_concat {k : Nat} (entry : (l ++ [a])[k]? = some b) :
    l[k]? = some b ∨ (k = l.length ∧ b = a) := by
  rcases Nat.lt_trichotomy k l.length with below | rfl | above
  · exact .inl (by rwa [List.getElem?_append_left below] at entry)
  · exact .inr ⟨rfl, by simpa using entry.symm⟩
  · rw [List.getElem?_eq_none (by simp; omega)] at entry
    cases entry

/-- An entry of a list in which one has been replaced. -/
theorem getElem?_set {k : Nat} (entry : (l.set i a)[k]? = some b) :
    (k ≠ i ∧ l[k]? = some b) ∨ (k = i ∧ b = a) := by
  by_cases same : i = k
  · subst same
    rw [List.getElem?_set_self'] at entry
    obtain ⟨_, -, rfl⟩ := Option.map_eq_some_iff.mp entry
    exact .inr ⟨rfl, rfl⟩
  · rw [List.getElem?_set_ne same] at entry
    exact .inl ⟨Ne.symm same, entry⟩

/-- Two lists that lose the entry at the same position stay side by side. -/
theorem getElem?_eraseIdx_pair {β : Type} {m : List β} {c : β} {k : Nat}
    (entry : (l.eraseIdx i)[k]? = some a) (entry' : (m.eraseIdx i)[k]? = some c) :
    ∃ k' : Nat, l[k']? = some a ∧ m[k']? = some c := by
  rw [List.getElem?_eraseIdx] at entry entry'
  split at entry
  next before =>
    rw [if_pos before] at entry'
    exact ⟨k, entry, entry'⟩
  next after =>
    rw [if_neg after] at entry'
    exact ⟨k + 1, entry, entry'⟩

/-- A condition on what a list is mapped to, as a condition on the list. -/
theorem filter_filterMap_eq {β : Type} {f : α → Option β} {p : β → Bool} {q : α → Bool}
    (same : ∀ a b, f a = some b → p b = q a) :
    (l.filterMap f).filter p = (l.filter q).filterMap f := by
  induction l with
  | nil => rfl
  | cons a l ih =>
      cases found : f a with
      | none =>
          rw [List.filterMap_cons_none found, ih, List.filter_cons]
          split
          · rw [List.filterMap_cons_none found]
          · rfl
      | some b =>
          rw [List.filterMap_cons_some found, List.filter_cons, List.filter_cons,
            same a b found, ih]
          split
          · rw [List.filterMap_cons_some found]
          · rfl

/-- Of two conditions one of which implies the other, as many entries meet the one as the other
only if the same do. -/
theorem length_filter_eq_iff {p q : α → Bool} (implies : ∀ a, p a = true → q a = true) :
    (l.filter p).length = (l.filter q).length ↔ ∀ a ∈ l, q a = true → p a = true := by
  have refined : l.filter p = (l.filter q).filter p := by
    rw [List.filter_filter]
    exact List.filter_congr fun a _ => by
      cases meets : p a with
      | false => rfl
      | true => simp [implies a meets]
  rw [refined, List.length_filter_eq_length_iff]
  constructor
  · exact fun all a member meets => all a (List.mem_filter.mpr ⟨member, meets⟩)
  · intro all a member
    obtain ⟨member, meets⟩ := List.mem_filter.mp member
    exact all a member meets

/-- Replacing an entry moves the sum by the difference. -/
theorem sum_set {l : List Nat} {m n : Nat} (entry : l[i]? = some m) :
    (l.set i n).sum + m = l.sum + n := by
  induction l generalizing i with
  | nil => cases entry
  | cons a l ih =>
      cases i with
      | zero =>
          obtain rfl := Option.some.inj entry
          simp only [List.set_cons_zero, List.sum_cons]
          omega
      | succ i =>
          have rest := ih (i := i) entry
          simp only [List.set_cons_succ, List.sum_cons]
          omega

/-- It moves a count by one at most. -/
theorem countP_set {p : α → Bool} (entry : l[i]? = some a) :
    (l.set i b).countP p + (if p a then 1 else 0) = l.countP p + if p b then 1 else 0 := by
  induction l generalizing i with
  | nil => cases entry
  | cons c l ih =>
      cases i with
      | zero =>
          obtain rfl := Option.some.inj entry
          simp only [List.set_cons_zero, List.countP_cons]
          omega
      | succ i =>
          have rest := ih (i := i) entry
          simp only [List.set_cons_succ, List.countP_cons]
          omega

/-- What one entry comes to hold in addition, they all hold in addition. -/
theorem flatMap_set {β : Type} {f : α → List β} {b : α} {m : List β} (entry : l[i]? = some a)
    (more : f b = f a ++ m) : ((l.set i b).flatMap f).Perm (l.flatMap f ++ m) := by
  induction l generalizing i with
  | nil => cases entry
  | cons c l ih =>
      cases i with
      | zero =>
          obtain rfl := Option.some.inj entry
          simp only [List.set_cons_zero, List.flatMap_cons, more, List.append_assoc]
          exact List.perm_append_comm.append_left (f c)
      | succ i =>
          have rest := ih (i := i) entry
          simp only [List.set_cons_succ, List.flatMap_cons, List.append_assoc]
          exact rest.append_left (f c)

/-- The entries from the first one on that meets `p`. -/
def since (p : α → Bool) (l : List α) : List α := l.dropWhile fun a => !p a

/-- Once such an entry is there, a longer list only adds to what follows it. -/
theorem since_append_of_mem {p : α → Bool} {m : List α} (mark : ∃ a ∈ l, p a = true) :
    since p (l ++ m) = since p l ++ m := by
  obtain ⟨a, member, holds⟩ := mark
  induction l with
  | nil => cases member
  | cons b l ih =>
      unfold since at ih ⊢
      by_cases first : p b = true
      · simp [first]
      · have rest : a ∈ l := by
          refine (List.mem_cons.mp member).resolve_left ?_
          rintro rfl
          exact first holds
        simpa [first] using ih rest

/-- As long as there is none, what follows is looked for in the new entries. -/
theorem since_append_of_not_mem {p : α → Bool} {m : List α} (unmarked : ∀ a ∈ l, p a = false) :
    since p (l ++ m) = since p m :=
  List.dropWhile_append_of_pos fun a member => by simp [unmarked a member]

end ListFacts
