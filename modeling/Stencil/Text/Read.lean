import Stencil.Text.Basic
import Stencil.Text.Class

/-!
# `Stencil.Text.Read`: the lexical readers

The smallest readers, from which the grammar of paths, conditions and templates is
put together: one given character, one given word, white space, identifiers and
names. Each takes as much as it can and never gives any of it back.

Beside each reader stands the one fact that termination of the larger readers
rests on: what it leaves is a suffix of what it was given, and a shorter one
wherever the reader cannot succeed on nothing.
-/

set_option autoImplicit false

namespace Stencil.Text

/-- Takes one given character. -/
def char? (c : Char) : Text → Option Text
  | [] => none
  | d :: rest => if d = c then some rest else none

/-- Takes a given word, character by character. The empty word is always there. -/
def word? : Text → Text → Option Text
  | [], s => some s
  | c :: word, s => (char? c s).bind (word? word)

/-- Leaves out the white space at the front, if there is any. -/
def skipSpace (s : Text) : Text :=
  s.dropWhile isSpace

/-- Takes the white space at the front, of which there must be some. -/
def space? : Text → Option Text
  | [] => none
  | c :: rest => if isSpace c then some (skipSpace rest) else none

/-- Takes the longest identifier at the front. -/
def identifier? : Reader Text
  | [] => none
  | c :: rest =>
    if isIdentifierStart c then
      some (c :: rest.takeWhile isIdentifierPart, rest.dropWhile isIdentifierPart)
    else none

/-- Takes the longest run of the letters `a` to `z` at the front, of which there
must be one. -/
def name? : Reader Text
  | [] => none
  | c :: rest =>
    if isLowercase c then
      some (c :: rest.takeWhile isLowercase, rest.dropWhile isLowercase)
    else none

/-! ### What the readers leave -/

theorem suffix_of_char? {c : Char} {s rest : Text} (h : char? c s = some rest) :
    s = c :: rest := by
  cases s with
  | nil => simp [char?] at h
  | cons d tail =>
    simp only [char?] at h
    split at h
    · rename_i hd; cases h; rw [hd]
    · cases h

@[simp] theorem char?_cons_self (c : Char) (rest : Text) : char? c (c :: rest) = some rest := by
  simp [char?]

/-- A word is found exactly where the text begins with it. -/
theorem word?_eq_some_iff {word s rest : Text} :
    word? word s = some rest ↔ s = word ++ rest := by
  induction word generalizing s with
  | nil => simp [word?]
  | cons c word ih =>
    cases s with
    | nil => simp [word?, char?]
    | cons d tail =>
      by_cases hd : d = c
      · subst hd; simp [word?, char?, ih]
      · simp [word?, char?, hd]

theorem skipSpace_suffix (s : Text) : skipSpace s <:+ s :=
  List.dropWhile_suffix _

theorem length_skipSpace_le (s : Text) : (skipSpace s).length ≤ s.length :=
  (skipSpace_suffix s).length_le

theorem suffix_of_space? {s rest : Text} (h : space? s = some rest) :
    rest <:+ s ∧ rest.length < s.length := by
  cases s with
  | nil => simp [space?] at h
  | cons c tail =>
    simp only [space?] at h
    split at h
    · cases h
      have := length_skipSpace_le tail
      exact ⟨(skipSpace_suffix tail).trans (List.suffix_cons c tail), by
        simp only [List.length_cons]; omega⟩
    · cases h

/-- The remainder after a run that began with one more character. -/
theorem dropWhile_advances (p : Char → Bool) (c : Char) (tail : Text) :
    tail.dropWhile p <:+ c :: tail ∧ (tail.dropWhile p).length < (c :: tail).length := by
  have hs : tail.dropWhile p <:+ tail := List.dropWhile_suffix _
  have := hs.length_le
  exact ⟨hs.trans (List.suffix_cons c tail), by simp only [List.length_cons]; omega⟩

theorem identifier?_advances : Reader.Advances identifier? := by
  intro s a rest h
  cases s with
  | nil => simp [identifier?] at h
  | cons c tail =>
    simp only [identifier?] at h
    split at h
    · cases h; exact dropWhile_advances _ c tail
    · cases h

theorem name?_advances : Reader.Advances name? := by
  intro s a rest h
  cases s with
  | nil => simp [name?] at h
  | cons c tail =>
    simp only [name?] at h
    split at h
    · cases h; exact dropWhile_advances _ c tail
    · cases h

end Stencil.Text
