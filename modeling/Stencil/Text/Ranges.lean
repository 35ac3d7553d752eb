/-!
# `Stencil.Text.Ranges`: sets of code points as ascending ranges

A class of characters that the Unicode standard fixes is data: some hundreds of
ranges of code points. This module holds the type of such a table and the lookup.
The lookup walks the ranges in order and stops at the first one that lies above the
code point, which is right for a table that ascends. `contains_eq_true_iff` says
so: for an ascending table the lookup agrees with plain membership.
-/

set_option autoImplicit false

namespace Stencil.Text

/-- A set of code points, as ranges given by their first and last member. -/
abbrev Ranges := List (Nat × Nat)

namespace Ranges

/-- The ranges are non-empty, ascend, and no two of them share a code point. -/
def Ascending : Ranges → Prop
  | [] => True
  | [r] => r.1 ≤ r.2
  | r :: q :: rest => r.1 ≤ r.2 ∧ r.2 < q.1 ∧ Ascending (q :: rest)

instance Ascending.decide : (table : Ranges) → Decidable (Ascending table)
  | [] => .isTrue trivial
  | [r] => inferInstanceAs (Decidable (r.1 ≤ r.2))
  | r :: q :: rest =>
    have := Ascending.decide (q :: rest)
    inferInstanceAs (Decidable (r.1 ≤ r.2 ∧ r.2 < q.1 ∧ Ascending (q :: rest)))

/-- Looks a code point up. The walk ends at the first range above the code
point, so the common characters, which lie low, are found in a few steps. -/
def contains : Ranges → Nat → Bool
  | [], _ => false
  | (first, last) :: rest, n =>
    if n < first then false else if n ≤ last then true else contains rest n

/-- Every range of an ascending table starts at or above the first one. -/
theorem Ascending.first_le {r : Nat × Nat} {rest : Ranges} (h : Ascending (r :: rest)) :
    ∀ q ∈ r :: rest, r.1 ≤ q.1 := by
  induction rest generalizing r with
  | nil =>
    intro q hq
    obtain rfl := List.mem_singleton.mp hq
    exact Nat.le_refl _
  | cons s tail ih =>
    intro q hq
    obtain ⟨hr, hrs, hs⟩ := h
    rcases List.mem_cons.mp hq with rfl | hq
    · exact Nat.le_refl _
    · have := ih hs q hq; omega

/-- What follows the first range of an ascending table ascends too. -/
theorem Ascending.tail {r : Nat × Nat} {rest : Ranges} (h : Ascending (r :: rest)) :
    Ascending rest := by
  cases rest with
  | nil => trivial
  | cons s tail => exact h.2.2

/-- On an ascending table, stopping early loses nothing: a code point is found
exactly when some range of the table covers it. -/
theorem contains_eq_true_iff {table : Ranges} (h : Ascending table) (n : Nat) :
    contains table n = true ↔ ∃ r ∈ table, r.1 ≤ n ∧ n ≤ r.2 := by
  induction table with
  | nil => simp [contains]
  | cons r rest ih =>
    obtain ⟨first, last⟩ := r
    have hfirst := h.first_le
    have ih := ih h.tail
    unfold contains
    split
    · rename_i hlt
      simp only [Bool.false_eq_true, false_iff, not_exists, not_and]
      intro q hq hle
      have := hfirst q hq
      simp only at this
      omega
    · split
      · rename_i hge hle
        simp only [true_iff]
        exact ⟨(first, last), by simp, by simp only; omega, hle⟩
      · rename_i hge hgt
        simp only [ih, List.mem_cons, exists_eq_or_imp]
        constructor
        · exact Or.inr
        · rintro (⟨_, hle⟩ | hrest)
          · exact absurd hle (by simpa using hgt)
          · exact hrest

end Ranges

end Stencil.Text
