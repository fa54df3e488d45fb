import Mathlib.Data.List.Perm.Basic
import Mathlib.Data.List.Nodup
import Mathlib.Data.List.Pairwise
import Mathlib.Data.List.Sort
import Mathlib.Order.Lattice

/-!
# Pages of rows that are sorted by a key

A query that sorts by `key`, the greatest first, puts rows with one key in any order, and in
another order the next time. Pages that come from different queries partition the rows as long as
no page begins between two rows with one key, and the first rows have the same labels every time as
long as no label depends on how the last of them are chosen.
-/

namespace Paging

variable {α β : Type} {rows order order' : List α} {limit b k m n : Nat}

/-- `LIMIT limit OFFSET k * limit`. -/
def page (limit k : Nat) (order : List α) : List α := (order.drop (k * limit)).take limit

/-- The pages of one order, one after the other. -/
theorem flatMap_page (order : List α) (limit m : Nat) :
    ((List.range m).flatMap fun k => page limit k order) = order.take (m * limit) := by
  induction m with
  | zero => simp
  | succ m ih =>
      rw [List.range_succ, List.flatMap_append, ih, List.flatMap_singleton, page, Nat.succ_mul,
        List.take_add]

variable [LinearOrder β] {key : α → β}

/-- An order in which the rows may come. -/
structure Arranged (key : α → β) (rows order : List α) : Prop where
  perm : order.Perm rows
  sorted : order.Pairwise fun a b => key b ≤ key a

/-- Position `b` is past the rows, or it follows all rows with a key above some bound. -/
def Unsplit (key : α → β) (rows : List α) (b : Nat) : Prop :=
  rows.length ≤ b ∨ ∃ bound, (rows.filter fun a => bound < key a).length = b

/-- In a sorted list the rows above a bound come first. -/
theorem take_above (sorted : order.Pairwise fun a b => key b ≤ key a) (bound : β) :
    order.take (order.filter fun a => bound < key a).length =
      order.filter fun a => bound < key a := by
  induction order with
  | nil => rfl
  | cons a order ih =>
      obtain ⟨first, sorted⟩ := List.pairwise_cons.mp sorted
      by_cases above : bound < key a
      · rw [List.filter_cons_of_pos (by simpa using above), List.length_cons, List.take_succ_cons,
          ih sorted]
      · have none : (a :: order).filter (fun a => bound < key a) = [] := by
          rw [List.filter_eq_nil_iff]
          intro c member
          rcases List.mem_cons.mp member with rfl | later
          · simpa using above
          · simpa using (first c later).trans (not_lt.mp above)
        rw [none, List.length_nil, List.take_zero]

/-- The same rows come before an unsplit position in every order. -/
theorem Arranged.take_perm (arranged : Arranged key rows order)
    (arranged' : Arranged key rows order') (unsplit : Unsplit key rows b) :
    (order.take b).Perm (order'.take b) := by
  rcases unsplit with past | ⟨bound, count⟩
  · rw [List.take_of_length_le (arranged.perm.length_eq ▸ past),
      List.take_of_length_le (arranged'.perm.length_eq ▸ past)]
    exact arranged.perm.trans arranged'.perm.symm
  · have above := arranged.perm.filter fun a => bound < key a
    have above' := arranged'.perm.filter fun a => bound < key a
    have first := take_above arranged.sorted bound
    have first' := take_above arranged'.sorted bound
    rw [above.length_eq, count] at first
    rw [above'.length_eq, count] at first'
    rw [first, first']
    exact above.trans above'.symm

/-- The rows between two unsplit positions are the same in every order. -/
theorem Arranged.page_perm (arranged : Arranged key rows order)
    (arranged' : Arranged key rows order') (start : Unsplit key rows (k * limit))
    (stop : Unsplit key rows ((k + 1) * limit)) :
    (page limit k order).Perm (page limit k order') := by
  have before := arranged.take_perm arranged' start
  have upTo := arranged.take_perm arranged' stop
  rw [Nat.succ_mul, List.take_add, List.take_add] at upTo
  exact (List.perm_append_left_iff _).mp ((before.symm.append_right _).trans upTo)

/-- A position within the rows is unsplit, or the rows on its two sides have one key. -/
theorem Arranged.unsplit_or (arranged : Arranged key rows order) (inside : b < rows.length) :
    Unsplit key rows b ∨
      ∃ before x y after, order = before ++ x :: y :: after ∧ before.length + 1 = b ∧
        key x = key y := by
  have inside' : b < order.length := arranged.perm.length_eq.symm ▸ inside
  have count : ∀ bound, (order.filter fun a => bound < key a).length = b →
      Unsplit key rows b := fun bound same =>
    .inr ⟨bound, (arranged.perm.filter _).length_eq.symm.trans same⟩
  have sorted := arranged.sorted
  cases b with
  | zero =>
      cases order with
      | nil => simp at inside'
      | cons y after =>
          refine .inl (count (key y) ?_)
          obtain ⟨first, -⟩ := List.pairwise_cons.mp sorted
          rw [List.length_eq_zero_iff, List.filter_eq_nil_iff]
          intro c member
          rcases List.mem_cons.mp member with rfl | later
          · simp
          · simpa using first c later
  | succ i =>
      have split : order = order.take i ++ order[i] :: order[i + 1] :: order.drop (i + 2) := by
        rw [← List.drop_eq_getElem_cons inside', ← List.drop_eq_getElem_cons (by omega),
          List.take_append_drop]
      have length : (order.take i).length = i := by
        rw [List.length_take]
        omega
      generalize order.take i = before at split length
      generalize order[i] = x at split
      generalize order[i + 1] = y at split
      generalize order.drop (i + 2) = after at split
      subst split
      obtain ⟨-, rest, across⟩ := List.pairwise_append.mp sorted
      obtain ⟨low, rest⟩ := List.pairwise_cons.mp rest
      obtain ⟨last, -⟩ := List.pairwise_cons.mp rest
      rcases (low y (List.mem_cons_self ..)).lt_or_eq with below | tied
      · refine .inl (count (key y) ?_)
        have kept : before.filter (fun a => key y < key a) = before := by
          rw [List.filter_eq_self]
          intro c member
          simpa using below.trans_le (across c member x (List.mem_cons_self ..))
        have dropped : (y :: after).filter (fun a => key y < key a) = [] := by
          rw [List.filter_eq_nil_iff]
          intro c member
          rcases List.mem_cons.mp member with rfl | later
          · simp
          · simpa using last c later
        rw [List.filter_append, kept, List.filter_cons_of_pos (by simpa using below), dropped,
          List.length_append, List.length_singleton, length]
      · exact .inr ⟨before, x, y, after, rfl, by rw [length], tied.symm⟩

/-- Neighbours with one key may change places. -/
theorem Arranged.swap {before after : List α} {x y : α}
    (arranged : Arranged key rows (before ++ x :: y :: after)) (tied : key x = key y) :
    Arranged key rows (before ++ y :: x :: after) := by
  refine ⟨((List.Perm.swap x y after).append_left before).trans arranged.perm, ?_⟩
  obtain ⟨first, rest, across⟩ := List.pairwise_append.mp arranged.sorted
  obtain ⟨low, rest⟩ := List.pairwise_cons.mp rest
  obtain ⟨last, sorted⟩ := List.pairwise_cons.mp rest
  refine List.pairwise_append.mpr ⟨first, ?_, ?_⟩
  · refine List.pairwise_cons.mpr ⟨fun c member => ?_, List.pairwise_cons.mpr ⟨?_, sorted⟩⟩
    · rcases List.mem_cons.mp member with rfl | later
      · exact tied.le
      · exact last c later
    · exact fun c member => low c (List.mem_cons_of_mem _ member)
  · intro c member d later
    refine across c member d ?_
    simp only [List.mem_cons] at later ⊢
    tauto

variable {orders : Nat → List α}

/-- Pages that begin at unsplit positions partition the rows, whatever order each comes in. -/
theorem walk_perm (arranged : ∀ k < m, Arranged key rows (orders k))
    (enough : rows.length ≤ m * limit)
    (unsplit : ∀ k, k * limit < rows.length → Unsplit key rows (k * limit)) :
    ((List.range m).flatMap fun k => page limit k (orders k)).Perm rows := by
  have everywhere : ∀ k, Unsplit key rows (k * limit) := fun k =>
    (Nat.lt_or_ge (k * limit) rows.length).elim (unsplit k) .inl
  cases m with
  | zero =>
      have none : rows = [] := List.length_eq_zero_iff.mp (by omega)
      simp [none]
  | succ m =>
      have first := arranged 0 (Nat.succ_pos m)
      have pages : ((List.range (m + 1)).flatMap fun k => page limit k (orders k)).Perm
          ((List.range (m + 1)).flatMap fun k => page limit k (orders 0)) :=
        List.Perm.flatMap_left _ fun k member =>
          (arranged k (List.mem_range.mp member)).page_perm first (everywhere k)
            (everywhere (k + 1))
      refine pages.trans ?_
      rw [flatMap_page, List.take_of_length_le (first.perm.length_eq ▸ enough)]
      exact first.perm

/-- A page may begin with the row the page before it ends with, if it begins at a split
position. -/
theorem exists_repeated (arranged : Arranged key rows order) (inside : k * limit < rows.length)
    (split : ¬ Unsplit key rows (k * limit)) :
    0 < k ∧ ∃ order', Arranged key rows order' ∧
      ∃ x ∈ page limit (k - 1) order, x ∈ page limit k order' := by
  rcases arranged.unsplit_or inside with unsplit | ⟨before, x, y, after, rfl, position, tied⟩
  · exact absurd unsplit split
  · obtain ⟨k, rfl⟩ : ∃ i, k = i + 1 := Nat.exists_eq_succ_of_ne_zero fun zero => by
      rw [zero, Nat.zero_mul] at position
      omega
    have positive : 0 < limit := Nat.pos_of_ne_zero fun zero => by
      rw [zero, Nat.mul_zero] at position
      omega
    refine ⟨Nat.succ_pos k, _, arranged.swap tied, x, ?_, ?_⟩
    · rw [Nat.succ_mul] at position
      have index : before.length = k * limit + (limit - 1) := by omega
      refine List.mem_of_getElem? (i := limit - 1) ?_
      rw [page, Nat.add_sub_cancel, List.getElem?_take_of_lt (by omega), List.getElem?_drop,
        ← index]
      simp
    · have rest : before ++ y :: x :: after = (before ++ [y]) ++ x :: after := by simp
      have length : (before ++ [y]).length = (k + 1) * limit := by simpa using position
      rw [page, rest, List.drop_left' length]
      obtain ⟨j, rfl⟩ := Nat.exists_eq_succ_of_ne_zero (Nat.ne_of_gt positive)
      exact List.mem_cons_self ..

/-- Where the rows are distinct, a walk partitions them for all orders its pages may come in
exactly when no page begins between two rows with one key. -/
theorem walk_perm_iff (distinct : rows.Nodup) (arranged : Arranged key rows order)
    (enough : rows.length ≤ m * limit) :
    (∀ orders : Nat → List α, (∀ k < m, Arranged key rows (orders k)) →
      ((List.range m).flatMap fun k => page limit k (orders k)).Perm rows) ↔
      ∀ k, k * limit < rows.length → Unsplit key rows (k * limit) := by
  refine ⟨fun partitions k inside => ?_, fun unsplit orders each => walk_perm each enough unsplit⟩
  by_contra split
  obtain ⟨positive, order', arranged', x, ends, begins⟩ := exists_repeated arranged inside split
  have among : k < m := Nat.lt_of_mul_lt_mul_right (Nat.lt_of_lt_of_le inside enough)
  have walked := partitions (fun j => if j = k then order' else order) fun j _ => by
    by_cases same : j = k
    · rw [if_pos same]
      exact arranged'
    · rw [if_neg same]
      exact arranged
  have disjoint := (List.nodup_flatMap.mp (walked.nodup_iff.mpr distinct)).2
  have apart := List.pairwise_iff_getElem.mp disjoint (k - 1) k (by simp; omega) (by simpa)
    (by omega)
  simp only [List.getElem_range, Function.onFun, if_neg (show k - 1 ≠ k by omega), if_pos] at apart
  exact apart ends begins

/-- In a sorted list a row that shares its key with no other one stands where the rows above it
end. -/
theorem getElem?_above {x : α} (sorted : order.Pairwise fun a b => key b ≤ key a)
    (member : x ∈ order) (apart : ∀ y ∈ order, key y = key x → y = x) :
    order[(order.filter fun a => key x < key a).length]? = some x := by
  induction order with
  | nil => cases member
  | cons a order ih =>
      obtain ⟨first, sorted⟩ := List.pairwise_cons.mp sorted
      by_cases above : key x < key a
      · have later : x ∈ order := by
          rcases List.mem_cons.mp member with rfl | later
          · exact absurd above (lt_irrefl _)
          · exact later
        rw [List.filter_cons_of_pos (by simpa using above), List.length_cons,
          List.getElem?_cons_succ]
        exact ih sorted later fun y among => apart y (List.mem_cons_of_mem _ among)
      · have none : (a :: order).filter (fun c => key x < key c) = [] := by
          rw [List.filter_eq_nil_iff]
          intro c among
          rcases List.mem_cons.mp among with rfl | later
          · simpa using above
          · simpa using (first c later).trans (not_lt.mp above)
        have same : a = x := by
          rcases List.mem_cons.mp member with rfl | later
          · rfl
          · exact apart a (List.mem_cons_self ..) (le_antisymm (not_lt.mp above) (first x later))
        rw [none, List.length_nil, List.getElem?_cons_zero, same]

/-- Such a row is on the page that its position falls on, in every order. -/
theorem Arranged.mem_page (arranged : Arranged key rows order) {x : α} (member : x ∈ rows)
    (apart : ∀ y ∈ rows, key y = key x → y = x)
    (start : k * limit ≤ (rows.filter fun a => key x < key a).length)
    (stop : (rows.filter fun a => key x < key a).length < (k + 1) * limit) :
    x ∈ page limit k order := by
  have position := getElem?_above arranged.sorted (arranged.perm.mem_iff.mpr member)
    fun y among => apart y (arranged.perm.mem_iff.mp among)
  rw [(arranged.perm.filter _).length_eq] at position
  refine List.mem_of_getElem? (i := (rows.filter fun a => key x < key a).length - k * limit) ?_
  rw [Nat.succ_mul] at stop
  rw [page, List.getElem?_take_of_lt (by omega), List.getElem?_drop, Nat.add_sub_cancel' start]
  exact position

/-! ### What the first rows have in common -/

/-- In a sorted list fewer than `n` elements come before each of the first `n`. -/
theorem length_filter_lt {r : α → α → Prop} {z : α} {p : α → Bool} (sorted : order.Pairwise r)
    (among : z ∈ order.take n) (self : p z = false) (first : ∀ a, p a = true → ¬ r z a) :
    (order.filter p).length < n := by
  obtain ⟨before, after, rfl, inside⟩ : ∃ before after, order = before ++ z :: after ∧
      before.length < n := by
    obtain ⟨before, after, split⟩ := List.append_of_mem among
    refine ⟨before, after ++ order.drop n, ?_, ?_⟩
    · rw [← List.cons_append, ← List.append_assoc, ← split, List.take_append_drop]
    · have length := congrArg List.length split
      simp only [List.length_take, List.length_append, List.length_cons] at length
      omega
  obtain ⟨-, rest, -⟩ := List.pairwise_append.mp sorted
  obtain ⟨later, -⟩ := List.pairwise_cons.mp rest
  have none : (z :: after).filter p = [] := by
    rw [List.filter_eq_nil_iff]
    intro a member picked
    rcases List.mem_cons.mp member with rfl | among
    · exact absurd (self.symm.trans picked) Bool.false_ne_true
    · exact first a picked (later a among)
  rw [List.filter_append, none, List.append_nil]
  exact lt_of_le_of_lt (List.length_filter_le _ _) inside

/-- What is not among the first `n` elements has `n` elements before it. -/
theorem take_before_of_not_mem {r : α → α → Prop} {x : α} (sorted : order.Pairwise r)
    (member : x ∈ order) (past : x ∉ order.take n) :
    (order.take n).length = n ∧ ∀ a ∈ order.take n, r a x := by
  have later : x ∈ order.drop n := by
    rw [← List.take_append_drop n order] at member
    exact (List.mem_append.mp member).resolve_left past
  have long : n < order.length := by
    by_contra short
    rw [List.drop_eq_nil_of_le (not_lt.mp short)] at later
    cases later
  rw [← List.take_append_drop n order] at sorted
  refine ⟨by rw [List.length_take]; omega, fun a among => ?_⟩
  exact (List.pairwise_append.mp sorted).2.2 a among x later

variable {γ : Type} [DecidableEq γ] {label : α → γ}

/-- Whatever order the rows come in, the label of a row that may be among the first `n` is on one
of them: a row above it has the label, or the rows above it and those beside it with other labels
are too few to fill the `n`. -/
def LabelsSettled (key : α → β) (label : α → γ) (rows : List α) (n : Nat) : Prop :=
  ∀ x ∈ rows, (rows.filter fun a => key x < key a).length < n →
    (∃ a ∈ rows, key x < key a ∧ label a = label x) ∨
      (rows.filter fun a => key x < key a ∨ key a = key x ∧ label a ≠ label x).length < n

/-- A row with fewer than `n` rows above it is among the first `n` of some order, or one with its
label is: that of the order which puts its label first. -/
theorem LabelsSettled.mem (settled : LabelsSettled key label rows n)
    (arranged : Arranged key rows order) {x : α} (member : x ∈ rows)
    (above : (rows.filter fun a => key x < key a).length < n) :
    ∃ a ∈ order.take n, label a = label x := by
  -- a row that is passed over has `n` rows before it, none of them below it
  have passed : ∀ {y}, y ∈ rows → y ∉ order.take n → (order.take n).length = n ∧
      ∀ a ∈ order.take n, key y ≤ key a := fun among past =>
    take_before_of_not_mem arranged.sorted (arranged.perm.mem_iff.mpr among) past
  have fits : ∀ (p : α → Bool), (∀ a ∈ order.take n, p a = true) → (order.take n).length = n →
      n ≤ (rows.filter p).length := by
    intro p all full
    have kept : (order.take n).filter p = order.take n := List.filter_eq_self.mpr all
    rw [← full, ← (arranged.perm.filter p).length_eq]
    nth_rewrite 1 [← kept]
    exact ((List.take_sublist n order).filter p).length_le
  by_contra none
  rcases settled x member above with ⟨y, among, higher, same⟩ | few
  · have past : y ∉ order.take n := fun first => none ⟨y, first, same⟩
    obtain ⟨full, bounds⟩ := passed among past
    have many := fits (fun a => decide (key x < key a))
      (fun a first => decide_eq_true (higher.trans_le (bounds a first))) full
    omega
  · have past : x ∉ order.take n := fun first => none ⟨x, first, rfl⟩
    obtain ⟨full, bounds⟩ := passed member past
    have many := fits (fun a => decide (key x < key a ∨ key a = key x ∧ label a ≠ label x))
      (fun a first => decide_eq_true ?_) full
    · omega
    · rcases (bounds a first).lt_or_eq with higher | tied
      · exact .inl higher
      · exact .inr ⟨tied.symm, fun same => none ⟨a, first, same⟩⟩

/-- The rows come in an order in which, among equals, those come first that `p` picks. -/
theorem exists_arranged (key : α → β) (rows : List α) (p : α → Bool) :
    ∃ order : List α, Arranged key rows order ∧ order.Pairwise fun a b =>
      key b < key a ∨ key a = key b ∧ (p b = true → p a = true) := by
  classical
  let r : α → α → Prop := fun a b => key b < key a ∨ key a = key b ∧ (p b = true → p a = true)
  have total : Std.Total r := by
    refine ⟨fun a b => ?_⟩
    rcases lt_trichotomy (key a) (key b) with low | tied | high
    · exact .inr (.inl low)
    · cases picked : p a with
      | true => exact .inl (.inr ⟨tied, fun _ => picked⟩)
      | false => exact .inr (.inr ⟨tied.symm, fun picked' => by simp [picked] at picked'⟩)
    · exact .inl (.inl high)
  have trans : IsTrans α r := by
    refine ⟨fun a b c first second => ?_⟩
    rcases first with high | ⟨tied, picks⟩ <;> rcases second with high' | ⟨tied', picks'⟩
    · exact .inl (high'.trans high)
    · exact .inl (tied' ▸ high)
    · exact .inl (tied ▸ high')
    · exact .inr ⟨tied.trans tied', picks ∘ picks'⟩
  have sorted : (rows.insertionSort r).Pairwise r := List.pairwise_insertionSort ..
  exact ⟨_, ⟨List.perm_insertionSort .., sorted.imp fun first =>
    first.elim le_of_lt fun tied => tied.1.symm.le⟩, sorted⟩

variable {x : α}

/-- A row with fewer than `n` rows above it may be among the first `n`, or at least its label. -/
theorem exists_labelled (member : x ∈ rows)
    (above : (rows.filter fun a => key x < key a).length < n) :
    ∃ order, Arranged key rows order ∧ ∃ a ∈ order.take n, label a = label x := by
  obtain ⟨order, arranged, sorted⟩ := exists_arranged key rows fun a => decide (label a = label x)
  refine ⟨order, arranged, ?_⟩
  by_contra none
  have past : x ∉ order.take n := fun first => none ⟨x, first, rfl⟩
  obtain ⟨full, before⟩ := take_before_of_not_mem sorted (arranged.perm.mem_iff.mpr member) past
  have higher : ∀ a ∈ order.take n, decide (key x < key a) = true := by
    intro a first
    rcases before a first with higher | ⟨-, picks⟩
    · exact decide_eq_true higher
    · exact absurd ⟨a, first, of_decide_eq_true (picks (decide_eq_true rfl))⟩ none
  have kept := ((List.take_sublist n order).filter fun a => decide (key x < key a)).length_le
  rw [List.filter_eq_self.mpr higher, full, (arranged.perm.filter _).length_eq] at kept
  exact absurd above (not_lt.mpr kept)

/-- A label that no row above has may be missing from the first `n` rows if the others suffice. -/
theorem exists_unlabelled (unlabelled : ¬ ∃ a ∈ rows, key x < key a ∧ label a = label x)
    (many : n ≤ (rows.filter fun a =>
      key x < key a ∨ key a = key x ∧ label a ≠ label x).length) :
    ∃ order, Arranged key rows order ∧ ∀ a ∈ order.take n, label a ≠ label x := by
  obtain ⟨order, arranged, sorted⟩ := exists_arranged key rows fun a => decide (label a ≠ label x)
  refine ⟨order, arranged, fun z first labelled => ?_⟩
  have low : ¬ key x < key z := fun higher =>
    unlabelled ⟨z, arranged.perm.mem_iff.mp (List.mem_of_mem_take first), higher, labelled⟩
  have others : ∀ a, decide (key x < key a ∨ key a = key x ∧ label a ≠ label x) = true →
      ¬ (key a < key z ∨ key z = key a ∧
        (decide (label a ≠ label x) = true → decide (label z ≠ label x) = true)) := by
    rintro a picked (below | ⟨tied, picks⟩)
    · rcases of_decide_eq_true picked with higher | ⟨tied, -⟩
      · exact low (higher.trans below)
      · exact low (tied ▸ below)
    · rcases of_decide_eq_true picked with higher | ⟨-, other⟩
      · exact low (tied ▸ higher)
      · exact of_decide_eq_true (picks (decide_eq_true other)) labelled
  have self : decide (key x < key z ∨ key z = key x ∧ label z ≠ label x) = false :=
    decide_eq_false (not_or.mpr ⟨low, fun other => other.2 labelled⟩)
  have before := length_filter_lt sorted first self others
  rw [(arranged.perm.filter _).length_eq] at before
  exact absurd before (not_lt.mpr many)

/-- The first `n` rows have the same labels in every order exactly when the labels are settled. -/
theorem labels_take_iff :
    (∀ order order', Arranged key rows order → Arranged key rows order' →
      ∀ a ∈ order.take n, ∃ b ∈ order'.take n, label b = label a) ↔
      LabelsSettled key label rows n := by
  constructor
  · intro same x member above
    by_contra unsettled
    obtain ⟨unlabelled, many⟩ := not_or.mp unsettled
    obtain ⟨order, arranged, z, first, labelled⟩ :
        ∃ order, Arranged key rows order ∧ ∃ a ∈ order.take n, label a = label x :=
      exists_labelled member above
    obtain ⟨order', arranged', without⟩ := exists_unlabelled unlabelled (not_lt.mp many)
    obtain ⟨z', first', labelled'⟩ := same order order' arranged arranged' z first
    exact without z' first' (labelled'.trans labelled)
  · intro settled order order' arranged arranged' a first
    have member : a ∈ rows := arranged.perm.mem_iff.mp (List.mem_of_mem_take first)
    refine settled.mem arranged' member ?_
    have before := length_filter_lt arranged.sorted first (p := fun b => decide (key a < key b))
      (decide_eq_false (lt_irrefl _)) fun b higher => not_le.mpr (of_decide_eq_true higher)
    rwa [(arranged.perm.filter _).length_eq] at before

end Paging
