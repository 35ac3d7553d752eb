import Stencil.Text.Class

/-!
# `Stencil.Proofs.Text.Class`: the character classes are apart

White space, the characters of identifiers and the delimiters of the
grammar have no character in common. Every argument that a reader
stops where it should rests on this: a run of white space ends at a
delimiter or at a path, a path ends at white space or at a delimiter.

The classes are tables, so the facts are about tables. `Ranges.Apart`
says that no range of one table meets a range of another, and can be
decided. `Ranges.Apart.contains_eq_false` carries that over to the
lookup. What the rest of the theory uses are
`isIdentifierPart_eq_false_of_isSpace` and `delimiter_apart`.
-/

set_option autoImplicit false

namespace Stencil.Text

/-- No range of the one table meets a range of the other. -/
def Ranges.Apart (a b : Ranges) : Prop :=
  ∀ r ∈ a, ∀ q ∈ b, r.2 < q.1 ∨ q.2 < r.1

instance (a b : Ranges) : Decidable (Ranges.Apart a b) :=
  inferInstanceAs (Decidable (∀ r ∈ a, ∀ q ∈ b, r.2 < q.1 ∨ q.2 < r.1))

/-- A code point in one of two tables that are apart is not in the
other. -/
theorem Ranges.Apart.contains_eq_false {a b : Ranges} (h : Apart a b)
    (ha : a.Ascending) (hb : b.Ascending) {n : Nat} (hn : a.contains n = true) :
    b.contains n = false := by
  rw [Bool.eq_false_iff]
  intro hm
  -- The code point lies in a range of either table, and these two would meet.
  obtain ⟨r, hr, hr1, hr2⟩ := (contains_eq_true_iff ha n).mp hn
  obtain ⟨q, hq, hq1, hq2⟩ := (contains_eq_true_iff hb n).mp hm
  have := h r hr q hq
  omega

theorem Table.space_apart_identifierStart : Table.space.Apart Table.identifierStart := by
  decide +kernel

theorem Table.space_apart_identifierExtra : Table.space.Apart Table.identifierExtra := by
  decide +kernel

/-- White space never stands inside an identifier. -/
theorem isIdentifierPart_eq_false_of_isSpace {c : Char} (h : isSpace c = true) :
    isIdentifierPart c = false := by
  have hstart : isIdentifierStart c = false :=
    Table.space_apart_identifierStart.contains_eq_false Table.space_ascending
      Table.identifierStart_ascending h
  have hextra : Table.identifierExtra.contains c.toNat = false :=
    Table.space_apart_identifierExtra.contains_eq_false Table.space_ascending
      Table.identifierExtra_ascending h
  rw [isIdentifierPart, hstart, hextra, Bool.or_false]

/-- A character of an identifier is not white space. -/
theorem isSpace_eq_false_of_isIdentifierPart {c : Char} (h : isIdentifierPart c = true) :
    isSpace c = false := by
  rw [Bool.eq_false_iff]
  intro hs
  rw [isIdentifierPart_eq_false_of_isSpace hs] at h
  exact absurd h (by decide)

/-- The letters of names are not white space. -/
theorem isSpace_eq_false_of_isLowercase {c : Char} (h : isLowercase c = true) :
    isSpace c = false := by
  have hc : 97 ≤ c.toNat ∧ c.toNat ≤ 122 := by
    simp only [isLowercase, Bool.and_eq_true, decide_eq_true_eq, Char.le_def,
      UInt32.le_iff_toNat_le] at h
    exact h
  rw [isSpace, Bool.eq_false_iff]
  intro hs
  -- The letters are the code points from 97 to 122. Every range of white space lies
  -- below or above them.
  obtain ⟨r, hr, hr1, hr2⟩ :=
    (Ranges.contains_eq_true_iff Table.space_ascending c.toNat).mp hs
  have : r.2 < 97 ∨ 122 < r.1 :=
    (by decide : ∀ r ∈ Table.space, r.2 < 97 ∨ 122 < r.1) r hr
  omega

/-- The characters that begin, part and end the constructs of the
language and the signs of conditions. -/
def delimiters : Text :=
  ['%', '\x7b', '\x7d', '<', '>', '#', '/', '(', ')', '.', '=', '!', '&', '|']

/-- A delimiter belongs to none of the classes. -/
theorem delimiter_apart : ∀ c ∈ delimiters,
    isSpace c = false ∧ isIdentifierPart c = false ∧ isLowercase c = false := by
  have hall : (delimiters.all fun c =>
      !isSpace c && (!isIdentifierPart c && !isLowercase c)) = true := by decide
  intro c hc
  simpa using List.all_eq_true.mp hall c hc

section Delimiter

variable {c : Char}

theorem isSpace_delimiter (h : c ∈ delimiters) : isSpace c = false :=
  (delimiter_apart c h).1

theorem isIdentifierPart_delimiter (h : c ∈ delimiters) : isIdentifierPart c = false :=
  (delimiter_apart c h).2.1

theorem isLowercase_delimiter (h : c ∈ delimiters) : isLowercase c = false :=
  (delimiter_apart c h).2.2

end Delimiter

/-- What may begin an identifier is no delimiter. -/
theorem not_mem_delimiters_of_isIdentifierStart {c : Char}
    (h : isIdentifierStart c = true) : c ∉ delimiters := by
  intro hc
  have hpart := isIdentifierPart_of_isIdentifierStart h
  rw [isIdentifierPart_delimiter hc] at hpart
  exact absurd hpart (by decide)

end Stencil.Text
