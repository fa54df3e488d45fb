import Mathlib.Algebra.BigOperators.Group.List.Lemmas
import Mathlib.Algebra.GroupWithZero.Nat
import Mathlib.Algebra.Order.BigOperators.Group.List
import Mathlib.Algebra.Order.Group.Nat
import Mathlib.Data.List.Dedup
import Backfill.Misc.Paging

/-!
# The largest groups of a list

`GROUP BY` with `COUNT(*)`, sorted by the count and cut off. Groups of one size come in any order,
so it is open which of them are cut off; what is known of those that are left is the same in
each.
-/

namespace Grouping

open Paging

variable {α : Type} [DecidableEq α] {xs : List α} {order : List (α × Nat)} {a : α} {m limit : Nat}

/-- Each value with the number of its occurrences. -/
def groups (xs : List α) : List (α × Nat) := xs.dedup.map fun a => (a, xs.count a)

theorem mem_groups : (a, m) ∈ groups xs ↔ a ∈ xs ∧ m = xs.count a := by
  simp only [groups, List.mem_map, List.mem_dedup, Prod.mk.injEq]
  constructor
  · rintro ⟨b, member, rfl, rfl⟩
    exact ⟨member, rfl⟩
  · rintro ⟨member, rfl⟩
    exact ⟨a, member, rfl, rfl⟩

theorem map_fst_groups : (groups xs).map Prod.fst = xs.dedup := by
  simp [groups, Function.comp_def]

/-- The groups are the whole list. -/
theorem sum_groups : ((groups xs).map Prod.snd).sum = xs.length := by
  simpa [groups, Function.comp_def] using xs.sum_map_count_dedup_eq_length

/-- The `limit` largest groups, in one of the orders in which they may come. -/
structure Largest (limit : Nat) (xs : List α) (top : List (α × Nat)) : Prop where
  distinct : (top.map Prod.fst).Nodup
  descending : top.Pairwise fun a b => b.2 ≤ a.2
  counted : ∀ a m, (a, m) ∈ top → m = xs.count a ∧ 0 < m
  length : top.length = min limit xs.dedup.length
  complete : ∀ a ∈ xs, (∃ m, (a, m) ∈ top) ∨ top.length = limit ∧ ∀ b m, (b, m) ∈ top →
    xs.count a ≤ m
  sum_le : (top.map Prod.snd).sum ≤ xs.length
  sum_eq_iff : (top.map Prod.snd).sum = xs.length ↔ xs.dedup.length ≤ limit

/-- The sum of what is left and of what is cut off. -/
theorem sum_take_add_drop (arranged : Arranged Prod.snd (groups xs) order) (limit : Nat) :
    ((order.take limit).map Prod.snd).sum + ((order.drop limit).map Prod.snd).sum = xs.length := by
  rw [← List.sum_append, ← List.map_append, List.take_append_drop, ← sum_groups]
  exact (arranged.perm.map Prod.snd).sum_eq

theorem largest_take (arranged : Arranged Prod.snd (groups xs) order) (limit : Nat) :
    Largest limit xs (order.take limit) := by
  have total := sum_take_add_drop arranged limit
  have size : order.length = xs.dedup.length := by
    rw [arranged.perm.length_eq, groups, List.length_map]
  have counted : ∀ a m, (a, m) ∈ order → m = xs.count a ∧ 0 < m := by
    intro a m among
    obtain ⟨member, rfl⟩ := mem_groups.mp (arranged.perm.mem_iff.mp among)
    exact ⟨rfl, List.count_pos_iff.mpr member⟩
  have shorter : (order.take limit).length = min limit xs.dedup.length := by
    rw [List.length_take, size]
  refine ⟨?_, ?_, fun a m among => counted a m (List.mem_of_mem_take among), shorter, ?_, ?_, ?_⟩
  · have distinct : (order.map Prod.fst).Nodup := by
      rw [(arranged.perm.map Prod.fst).nodup_iff, map_fst_groups]
      exact List.nodup_dedup xs
    exact distinct.sublist ((List.take_sublist limit order).map Prod.fst)
  · exact arranged.sorted.sublist (List.take_sublist limit order)
  · intro a member
    have among : (a, xs.count a) ∈ order :=
      arranged.perm.mem_iff.mpr (mem_groups.mpr ⟨member, rfl⟩)
    rw [← List.take_append_drop limit order] at among
    rcases List.mem_append.mp among with kept | cut
    · exact .inl ⟨_, kept⟩
    · refine .inr ⟨?_, fun b m largest => ?_⟩
      · have more := List.length_pos_of_mem cut
        rw [List.length_drop] at more
        omega
      · have sorted := arranged.sorted
        rw [← List.take_append_drop limit order] at sorted
        exact (List.pairwise_append.mp sorted).2.2 _ largest _ cut
  · omega
  · constructor
    · intro whole
      by_contra more
      obtain ⟨group, cut⟩ : ∃ group, group ∈ order.drop limit :=
        List.exists_mem_of_length_pos (by rw [List.length_drop]; omega)
      have positive := (counted group.1 group.2 (List.mem_of_mem_drop cut)).2
      have part := List.le_sum_of_mem (List.mem_map_of_mem (f := Prod.snd) cut)
      omega
    · intro few
      rw [List.take_of_length_le (by omega)]
      rw [← sum_groups]
      exact (arranged.perm.map Prod.snd).sum_eq

end Grouping
