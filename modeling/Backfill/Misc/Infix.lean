import Mathlib.Data.List.Infix

/-!
# Contiguous sublists across a separator

A search for a pattern in a text that was put together from pieces falls apart into
searches of the pieces, as soon as some element between them cannot occur in the pattern.
-/

namespace Infix

variable {α : Type} {p a b : List α} {c : α}

/-- A prefix of a list whose head does not occur in it is empty. -/
theorem eq_nil_of_prefix_cons (absent : c ∉ p) (start : p <+: c :: b) : p = [] := by
  rcases List.prefix_cons_iff.mp start with empty | ⟨rest, rfl, _⟩
  · exact empty
  · exact absurd (List.mem_cons_self ..) absent

/-- Only the part behind an element that does not occur in the pattern counts. -/
theorem cons_iff (absent : c ∉ p) : p <:+: c :: b ↔ p <:+: b := by
  constructor
  · intro found
    rcases List.infix_cons_iff.mp found with start | later
    · rw [eq_nil_of_prefix_cons absent start]
      exact List.nil_infix
    · exact later
  · exact fun found => List.infix_cons_iff.mpr (.inr found)

/-- A pattern is found in two pieces with a separator between them only if it is found in
one of them. -/
theorem append_cons_iff (absent : c ∉ p) : p <:+: a ++ c :: b ↔ p <:+: a ∨ p <:+: b := by
  constructor
  · intro found
    rcases List.infix_append_iff.mp found with left | right | ⟨l, r, rfl, atEnd, atStart⟩
    · exact .inl left
    · exact .inr ((cons_iff absent).mp right)
    · -- an occurrence across the border would begin its second half with the separator
      have empty := eq_nil_of_prefix_cons (fun member => absent (List.mem_append_right _ member))
        atStart
      rw [empty, List.append_nil]
      exact .inl atEnd.isInfix
  · rintro (left | right)
    · exact List.infix_append_of_infix_left left
    · exact List.infix_append_of_infix_right ((cons_iff absent).mpr right)

/-- A pattern that does not start with an element is not found at it. -/
theorem cons_iff_of_head (differ : p.head? ≠ some c) : p <:+: c :: b ↔ p <:+: b := by
  constructor
  · intro found
    rcases List.infix_cons_iff.mp found with start | later
    · rcases List.prefix_cons_iff.mp start with rfl | ⟨rest, rfl, _⟩
      · exact List.nil_infix
      · exact absurd List.head?_cons differ
    · exact later
  · exact fun found => List.infix_cons_iff.mpr (.inr found)

end Infix

/-- The decimal rendering of an integer has digits and a sign only. -/
theorem not_mem_toString {c : Char} (digit : c.isDigit = false) (sign : c ≠ '-') (n : Int) :
    c ∉ (toString n).toList := by
  have digits : ∀ m : Nat, c ∉ m.repr.toList := by
    intro m among
    rw [Nat.toList_repr] at among
    have found := Nat.isDigit_of_mem_toDigits (by decide) (by decide) among
    simp [digit] at found
  rw [Int.toString_eq_repr, Int.repr_eq_if]
  split
  · exact digits _
  · rw [String.toList_append, List.mem_append]
    rintro (first | among)
    · exact sign (List.mem_singleton.mp first)
    · exact digits _ among
