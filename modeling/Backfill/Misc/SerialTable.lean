import Mathlib.Data.List.Basic
import Mathlib.Data.List.Pairwise

/-!
# Tables with a serial primary key and a unique partial index

A `SerialTable id index` is the list of rows of a relation whose primary key `id` is
drawn from a sequence and whose column `index` is unique where it is not null. Both
constraints are fields of the table, so every operation below has to keep them and
no later proof states them again. The order of `rows` is the physical order of the
relation; nothing but the tie-breaking of a sort ever depends on it.
-/

/-- Two rows that may not stand in one table: equal keys, or one non-null index value. -/
def Clash {ρ ι : Type} (id : ρ → Int) (index : ρ → Option ι) (a b : ρ) : Prop :=
  id a = id b ∨ (index a ≠ none ∧ index a = index b)

instance {ρ ι : Type} [DecidableEq ι] (id : ρ → Int) (index : ρ → Option ι) (a b : ρ) :
    Decidable (Clash id index a b) :=
  inferInstanceAs (Decidable (_ ∨ _))

structure SerialTable {ρ ι : Type} (id : ρ → Int) (index : ρ → Option ι) where
  rows : List ρ
  /-- The next value of the sequence behind the key. -/
  nextId : Int
  id_lt : ∀ r ∈ rows, id r < nextId
  apart : rows.Pairwise fun a b => ¬ Clash id index a b

/-- A change of the columns of a row other than its key; the index value may stay or
become null. -/
structure RowEdit {ρ ι : Type} (id : ρ → Int) (index : ρ → Option ι) where
  apply : ρ → ρ
  id_eq : ∀ r, id (apply r) = id r
  index_eq : ∀ r, index (apply r) = none ∨ index (apply r) = index r

/-- A row that waits for its key. -/
structure RowDraft {ρ ι : Type} (id : ρ → Int) (index : ρ → Option ι) where
  row : Int → ρ
  indexValue : Option ι
  id_eq : ∀ n, id (row n) = n
  index_eq : ∀ n, index (row n) = indexValue

/-- The edit that changes nothing. -/
def RowEdit.refl {ρ ι : Type} (id : ρ → Int) (index : ρ → Option ι) : RowEdit id index where
  apply r := r
  id_eq _ := rfl
  index_eq _ := .inr rfl

theorem Clash.symm {ρ ι : Type} {id : ρ → Int} {index : ρ → Option ι} {a b : ρ}
    (clash : Clash id index a b) : Clash id index b a := by
  rcases clash with same | ⟨present, same⟩
  · exact .inl same.symm
  · exact .inr ⟨same ▸ present, same.symm⟩

/-- Edited rows clash only if the rows they come from did. -/
theorem Clash.of_edit {ρ ι : Type} {id : ρ → Int} {index : ρ → Option ι} {a b a' b' : ρ}
    (ida : id a' = id a) (idb : id b' = id b)
    (inda : index a' = none ∨ index a' = index a) (indb : index b' = none ∨ index b' = index b)
    (clash : Clash id index a' b') : Clash id index a b := by
  rcases clash with same | ⟨present, same⟩
  · exact .inl (by rw [← ida, ← idb, same])
  · have keptA := inda.resolve_left present
    have keptB := indb.resolve_left (same ▸ present)
    exact .inr ⟨keptA ▸ present, by rw [← keptA, ← keptB, same]⟩

namespace SerialTable

variable {ρ ι : Type} {id : ρ → Int} {index : ρ → Option ι}

/-- The row with a given key, if there is one. -/
def get? (t : SerialTable id index) (key : Int) : Option ρ :=
  t.rows.find? fun r => id r = key

/-- A table without rows whose sequence starts at `1`. -/
def empty : SerialTable id index where
  rows := []
  nextId := 1
  id_lt := by simp
  apart := .nil

/-- `DELETE ... WHERE p`. -/
def delete (t : SerialTable id index) (p : ρ → Bool) : SerialTable id index where
  rows := t.rows.filter fun r => !p r
  nextId := t.nextId
  id_lt r member := t.id_lt r (List.mem_of_mem_filter member)
  apart := t.apart.filter _

/-- `UPDATE ... SET e WHERE p`. -/
def update (t : SerialTable id index) (p : ρ → Bool) (e : RowEdit id index) :
    SerialTable id index where
  rows := t.rows.map fun r => if p r then e.apply r else r
  nextId := t.nextId
  id_lt r member := by
    obtain ⟨old, oldMember, rfl⟩ := List.mem_map.mp member
    have below := t.id_lt old oldMember
    split
    · rwa [e.id_eq]
    · exact below
  apart := by
    rw [List.pairwise_map]
    refine t.apart.imp fun {a b} apart clash => apart ?_
    have edited : ∀ r, id (if p r then e.apply r else r) = id r ∧
        (index (if p r then e.apply r else r) = none ∨
          index (if p r then e.apply r else r) = index r) := by
      intro r
      split
      · exact ⟨e.id_eq r, e.index_eq r⟩
      · exact ⟨rfl, .inr rfl⟩
    exact clash.of_edit (edited a).1 (edited b).1 (edited a).2 (edited b).2

/-- `INSERT` of a row whose index value no other row holds; the row is appended and
the sequence advances. -/
def insert (t : SerialTable id index) (d : RowDraft id index)
    (fresh : ∀ r ∈ t.rows, d.indexValue = none ∨ index r ≠ d.indexValue) :
    SerialTable id index where
  rows := t.rows ++ [d.row t.nextId]
  nextId := t.nextId + 1
  id_lt r member := by
    rcases List.mem_append.mp member with old | new
    · have below := t.id_lt r old
      omega
    · rw [List.mem_singleton.mp new, d.id_eq]
      omega
  apart := by
    refine List.pairwise_append.mpr ⟨t.apart, List.pairwise_singleton _ _, ?_⟩
    rintro a memberA b memberB clash
    rw [List.mem_singleton.mp memberB] at clash
    rcases clash with same | ⟨present, same⟩
    · have below := t.id_lt a memberA
      rw [same, d.id_eq] at below
      omega
    · rw [d.index_eq] at same
      rcases fresh a memberA with absent | other
      · exact present (same.trans absent)
      · exact other same

/-- Advance the sequence without inserting a row. -/
def skip (t : SerialTable id index) : SerialTable id index where
  rows := t.rows
  nextId := t.nextId + 1
  id_lt r member := by
    have below := t.id_lt r member
    omega
  apart := t.apart

/-- Whether a row already holds the index value `value`. -/
def holds [DecidableEq ι] (t : SerialTable id index) (value : Option ι) : Bool :=
  value.isSome && t.rows.any fun r => index r = value

theorem fresh_of_not_holds [DecidableEq ι] {t : SerialTable id index} {value : Option ι}
    (absent : ¬ t.holds value) : ∀ r ∈ t.rows, value = none ∨ index r ≠ value := by
  intro r member
  cases value with
  | none => exact .inl rfl
  | some v =>
      refine .inr fun same => absent ?_
      simpa [holds] using ⟨r, member, same⟩

/-- `INSERT ... ON CONFLICT (index) WHERE index IS NOT NULL DO UPDATE SET e`. The
key of the proposed row is drawn before the conflict is looked for, so the sequence
advances in both arms. -/
def upsert [DecidableEq ι] (t : SerialTable id index) (d : RowDraft id index)
    (e : RowEdit id index) : SerialTable id index :=
  if h : t.holds d.indexValue then (t.update (fun r => index r = d.indexValue) e).skip
  else t.insert d (fresh_of_not_holds h)

/-- The row an upsert returns: the edited one or the inserted one. -/
def upserted [DecidableEq ι] (t : SerialTable id index) (d : RowDraft id index)
    (e : RowEdit id index) : ρ :=
  match t.rows.find? fun r => d.indexValue.isSome && index r = d.indexValue with
  | some old => e.apply old
  | none => d.row t.nextId

variable {t : SerialTable id index} {p : ρ → Bool} {e : RowEdit id index} {d : RowDraft id index}
  {r r' : ρ} {key : Int}

instance : Std.Symm fun a b => ¬ Clash id index a b where
  symm _ _ apart clash := apart clash.symm

/-- An update depends on its condition only at the rows that are there. -/
theorem update_congr {q : ρ → Bool} (same : ∀ r ∈ t.rows, p r = q r) :
    t.update p e = t.update q e := by
  simp only [update, mk.injEq, and_true]
  exact List.map_congr_left fun r member => by rw [same r member]

/-- Rows of one table that clash are the same row. -/
theorem eq_of_clash (t : SerialTable id index) (member : r ∈ t.rows) (member' : r' ∈ t.rows)
    (clash : Clash id index r r') : r = r' := by
  by_contra differ
  exact t.apart.forall member member' differ clash

/-- A key names at most one row. -/
theorem eq_of_id_eq (t : SerialTable id index) (member : r ∈ t.rows) (member' : r' ∈ t.rows)
    (same : id r = id r') : r = r' :=
  t.eq_of_clash member member' (.inl same)

/-- A non-null index value names at most one row. -/
theorem eq_of_index_eq (t : SerialTable id index) (member : r ∈ t.rows) (member' : r' ∈ t.rows)
    (present : index r ≠ none) (same : index r = index r') : r = r' :=
  t.eq_of_clash member member' (.inr ⟨present, same⟩)

/-- No row stands in a table twice. -/
theorem nodup (t : SerialTable id index) : t.rows.Nodup :=
  t.apart.imp fun apart same => apart (.inl (congrArg id same))

theorem get?_eq_some : t.get? key = some r ↔ r ∈ t.rows ∧ id r = key := by
  constructor
  · intro found
    exact ⟨List.mem_of_find?_eq_some found, by simpa using List.find?_some found⟩
  · rintro ⟨member, rfl⟩
    cases found : t.get? (id r) with
    | none =>
        have absent := List.find?_eq_none.mp found r member
        simp at absent
    | some other =>
        have same := List.find?_some found
        rw [t.eq_of_id_eq (List.mem_of_find?_eq_some found) member (by simpa using same)]

theorem get?_eq_none : t.get? key = none ↔ ∀ r ∈ t.rows, id r ≠ key := by
  simp [get?, List.find?_eq_none]

@[simp] theorem mem_delete : r ∈ (t.delete p).rows ↔ r ∈ t.rows ∧ p r = false := by
  simp [delete]

/-- An update that meets no row. -/
theorem update_of_unmet (unmet : ∀ r ∈ t.rows, p r = false) : t.update p e = t := by
  have rows : t.rows.map (fun r => if p r then e.apply r else r) = t.rows :=
    (List.map_congr_left fun r member => by simp [unmet r member]).trans (List.map_id' _)
  cases t
  simp only [update, mk.injEq, and_true]
  exact rows

/-- A delete that meets no row. -/
theorem delete_of_unmet (unmet : ∀ r ∈ t.rows, p r = false) : t.delete p = t := by
  have rows : t.rows.filter (fun r => !p r) = t.rows :=
    List.filter_eq_self.mpr fun r member => by simp [unmet r member]
  cases t
  simp only [delete, mk.injEq, and_true]
  exact rows

/-- Two deletes in a row. -/
theorem delete_delete {q : ρ → Bool} : (t.delete p).delete q = t.delete fun r => p r || q r := by
  simp only [delete, mk.injEq, and_true, List.filter_filter]
  exact List.filter_congr fun r _ => by rw [Bool.not_or, Bool.and_comm]

theorem mem_update :
    r ∈ (t.update p e).rows ↔ ∃ old ∈ t.rows, r = if p old then e.apply old else old := by
  simp only [update, List.mem_map, eq_comm]

/-- An update keeps every row under its id. -/
theorem kept_update (member : r ∈ t.rows) : ∃ r' ∈ (t.update p e).rows, id r' = id r := by
  refine ⟨_, mem_update.mpr ⟨r, member, rfl⟩, ?_⟩
  split
  · exact e.id_eq r
  · rfl

/-- An update loses no row and adds none. -/
theorem map_id_update (t : SerialTable id index) :
    (t.update p e).rows.map id = t.rows.map id := by
  simp only [update, List.map_map]
  refine List.map_congr_left fun r _ => ?_
  simp only [Function.comp_apply]
  split
  · exact e.id_eq r
  · rfl

/-- The keys a delete has taken out are those of the rows it met. -/
theorem filter_gone_delete :
    t.rows.filter (fun r => decide (id r ∉ (t.delete p).rows.map id)) = t.rows.filter p := by
  refine List.filter_congr fun r member => ?_
  cases met : p r with
  | true =>
      refine decide_eq_true fun kept => ?_
      obtain ⟨other, there, same⟩ := List.mem_map.mp kept
      obtain ⟨otherMember, unmet⟩ := mem_delete.mp there
      rw [t.eq_of_id_eq otherMember member same, met] at unmet
      cases unmet
  | false =>
      have kept : id r ∈ (t.delete p).rows.map id :=
        List.mem_map_of_mem (mem_delete.mpr ⟨member, met⟩)
      simp only [kept, not_true_eq_false, decide_false]

/-- The rows that meet a condition only one row meets. -/
theorem filter_eq_singleton (member : r ∈ t.rows) (only : ∀ r' ∈ t.rows, p r' = true ↔ r' = r) :
    t.rows.filter p = [r] := by
  refine List.perm_singleton.mp ((List.perm_ext_iff_of_nodup (t.nodup.filter _)
    (List.pairwise_singleton _ r)).mpr fun r' => ?_)
  rw [List.mem_filter, List.mem_singleton]
  constructor
  · rintro ⟨there, met⟩
    exact (only r' there).mp met
  · rintro rfl
    exact ⟨member, (only r' member).mpr rfl⟩

/-- A key names the row that is found under it. -/
theorem filter_id_eq (key : Int) :
    t.rows.filter (fun r => decide (id r = key)) = (t.get? key).toList := by
  cases found : t.get? key with
  | none => exact List.filter_eq_nil_iff.mpr fun r member => by simp [get?_eq_none.mp found r member]
  | some r =>
      obtain ⟨member, same⟩ := get?_eq_some.mp found
      refine filter_eq_singleton member fun r' there => ?_
      rw [decide_eq_true_eq]
      exact ⟨fun same' => t.eq_of_id_eq there member (same'.trans same.symm), fun is => is ▸ same⟩

/-- A non-null index value names one row at most. -/
theorem length_filter_index_le [DecidableEq ι] (value : ι) :
    (t.rows.filter fun r => decide (index r = some value)).length ≤ 1 := by
  by_cases held : ∃ r ∈ t.rows, index r = some value
  · obtain ⟨r, member, same⟩ := held
    have only := filter_eq_singleton (p := fun r => decide (index r = some value)) member
      fun r' there => by
        rw [decide_eq_true_eq]
        exact ⟨fun same' => t.eq_of_index_eq there member (same' ▸ Option.some_ne_none value)
          (same'.trans same.symm), fun is => is ▸ same⟩
    exact Nat.le_of_eq (congrArg List.length only)
  · have none : t.rows.filter (fun r => decide (index r = some value)) = [] :=
      List.filter_eq_nil_iff.mpr fun r member => by
        simpa using fun same => held ⟨r, member, same⟩
    simp [none]

/-- An update that takes a property from every row it meets. -/
theorem countP_update {q : ρ → Bool} (had : ∀ r ∈ t.rows, p r = true → q r = true)
    (lost : ∀ r, q (e.apply r) = false) :
    (t.update p e).rows.countP q + (t.rows.filter p).length = t.rows.countP q := by
  have each : ∀ rows : List ρ, (∀ r ∈ rows, p r = true → q r = true) →
      (rows.map fun r => if p r then e.apply r else r).countP q + (rows.filter p).length =
        rows.countP q := by
    intro rows had
    induction rows with
    | nil => rfl
    | cons r rows ih =>
        obtain ⟨here, later⟩ := List.forall_mem_cons.mp had
        have rest := ih later
        by_cases met : p r = true
        · simp only [List.map_cons, if_pos met, List.countP_cons, lost, List.filter_cons,
            List.length_cons, here met]
          simpa [← Nat.add_assoc] using rest
        · simp only [List.map_cons, List.countP_cons, List.filter_cons, if_neg met]
          omega
  exact each t.rows had

@[simp] theorem mem_insert {fresh : ∀ r ∈ t.rows, d.indexValue = none ∨ index r ≠ d.indexValue} :
    r ∈ (t.insert d fresh).rows ↔ r ∈ t.rows ∨ r = d.row t.nextId := by
  simp [insert]

theorem holds_iff [DecidableEq ι] {value : Option ι} :
    t.holds value ↔ value ≠ none ∧ ∃ r ∈ t.rows, index r = value := by
  cases value <;> simp [holds]

/-- An upsert either leaves the rows and edits the one that holds the index value, or
appends a row. -/
theorem mem_upsert [DecidableEq ι] : r ∈ (t.upsert d e).rows ↔
    (t.holds d.indexValue = true ∧
      ∃ old ∈ t.rows, r = if index old = d.indexValue then e.apply old else old) ∨
    (t.holds d.indexValue = false ∧ (r ∈ t.rows ∨ r = d.row t.nextId)) := by
  by_cases held : t.holds d.indexValue
  · simp [upsert, held, skip, mem_update]
  · simp [upsert, held]

/-- A row with another index value is not touched by an upsert. -/
theorem mem_upsert_of_ne [DecidableEq ι] (member : r ∈ t.rows)
    (differ : d.indexValue = none ∨ index r ≠ d.indexValue) : r ∈ (t.upsert d e).rows := by
  rw [mem_upsert]
  cases held : t.holds d.indexValue with
  | false => exact .inr ⟨rfl, .inl member⟩
  | true =>
      have present := (holds_iff.mp held).1
      exact .inl ⟨rfl, r, member, by rw [if_neg (differ.resolve_left present)]⟩

/-- So does an upsert. -/
theorem kept_upsert [DecidableEq ι] (member : r ∈ t.rows) :
    ∃ r' ∈ (t.upsert d e).rows, id r' = id r := by
  by_cases held : t.holds d.indexValue
  · rw [upsert, dif_pos held]
    exact kept_update member
  · exact ⟨r, mem_upsert.mpr (.inr ⟨Bool.eq_false_iff.mpr held, .inl member⟩), rfl⟩

/-- The returned row is the edited holder of the index value, or the new row if there is
none. -/
theorem upserted_cases [DecidableEq ι] (t : SerialTable id index) (d : RowDraft id index)
    (e : RowEdit id index) :
    (∃ old ∈ t.rows, d.indexValue ≠ none ∧ index old = d.indexValue ∧
      t.holds d.indexValue = true ∧ t.upserted d e = e.apply old) ∨
    (t.holds d.indexValue = false ∧ t.upserted d e = d.row t.nextId) := by
  unfold upserted
  split
  next old found =>
    have matched := List.find?_some found
    simp only [Bool.and_eq_true, decide_eq_true_eq, Option.isSome_iff_ne_none] at matched
    have member := List.mem_of_find?_eq_some found
    exact .inl ⟨old, member, matched.1, matched.2,
      holds_iff.mpr ⟨matched.1, old, member, matched.2⟩, rfl⟩
  next absent =>
    refine .inr ⟨?_, rfl⟩
    rw [Bool.eq_false_iff]
    intro held
    obtain ⟨present, old, member, same⟩ := holds_iff.mp held
    have unmatched := List.find?_eq_none.mp absent old member
    simp [Option.isSome_iff_ne_none.mpr present, same] at unmatched

theorem upserted_mem [DecidableEq ι] : t.upserted d e ∈ (t.upsert d e).rows := by
  rw [mem_upsert]
  rcases t.upserted_cases d e with ⟨old, member, -, same, held, copy⟩ | ⟨free, copy⟩
  · exact .inl ⟨held, old, member, by rw [copy, if_pos same]⟩
  · exact .inr ⟨free, .inr copy⟩

/-- Either arm of an upsert advances the sequence. -/
theorem nextId_upsert [DecidableEq ι] : (t.upsert d e).nextId = t.nextId + 1 := by
  unfold upsert
  split <;> rfl

/-- An upsert concerns only the row it returns. -/
theorem mem_upsert_of_id_ne [DecidableEq ι] (other : id r ≠ id (t.upserted d e)) :
    r ∈ (t.upsert d e).rows ↔ r ∈ t.rows := by
  rcases t.upserted_cases d e with ⟨old, oldMember, keyed, sameKey, held, copy⟩ | ⟨free, copy⟩
  · rw [copy, e.id_eq] at other
    have holder : ∀ o ∈ t.rows, index o = d.indexValue → o = old := fun o member same =>
      t.eq_of_index_eq member oldMember (same ▸ keyed) (same.trans sameKey.symm)
    constructor
    · intro after
      rcases mem_upsert.mp after with ⟨-, o, member, rfl⟩ | ⟨free, -⟩
      · split at other
        next same => exact absurd (by rw [e.id_eq, holder o member same]) other
        next differ => rwa [if_neg differ]
      · exact absurd held (Bool.eq_false_iff.mp free)
    · intro before
      refine mem_upsert_of_ne before (.inr fun same => other ?_)
      rw [holder r before same]
  · rw [copy] at other
    constructor
    · intro after
      rcases mem_upsert.mp after with ⟨held, -⟩ | ⟨-, before | rfl⟩
      · exact absurd held (Bool.eq_false_iff.mp free)
      · exact before
      · exact absurd rfl other
    · exact fun before => mem_upsert.mpr (.inr ⟨free, .inl before⟩)

end SerialTable
