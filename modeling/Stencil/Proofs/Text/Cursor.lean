import Stencil.Text.Cursor

/-!
# `Stencil.Proofs.Text.Cursor`: the text between two places

A reader that succeeds at a cursor gives a second cursor, behind what it
took. Here the two are related by the text that lies between them.
`Cursor.Between` says of two cursors that they stand in one text and which
text is between them.

`Cursor.moveTo_eq_iff` turns a statement on what a reader leaves into one on
places. It is about readers that take something. Of those it is enough to
know that what they took stands in front of what they leave.

The other two lemmas are about any reader. One that advances moves the cursor
ahead (`Cursor.read?_ahead`). And a reader does the same in a text that has
another one in front (`Cursor.read?_after`), because all that it sees is what
follows the cursor.
-/

set_option autoImplicit false

namespace Stencil.Cursor

/-- The two cursors stand in one text, the second one not past its end, and
what lies between them is the given text. -/
structure Between (c d : Cursor) (taken : Text) : Prop where
  text : d.text = c.text
  inside : d.offset ≤ d.text.length
  since : d.since c = taken

section

variable {α : Type} {c d : Cursor} {taken left : Text}

/-- Reading at a cursor is reading what follows it. -/
theorem read?_eq_some_iff {read : Reader α} {a : α} :
    c.read? read = some (a, d) ↔ ∃ left, read c.rest = some (a, left) ∧ c.moveTo left = d := by
  simp only [read?, Option.map_eq_some_iff, Prod.exists, Prod.mk.injEq]
  constructor
  · intro h
    obtain ⟨_, left, hread, rfl, hd⟩ := h
    exact ⟨left, hread, hd⟩
  · intro h
    obtain ⟨left, hread, hd⟩ := h
    exact ⟨a, left, hread, rfl, hd⟩

/-- A reader fails at a cursor if it fails on what follows. -/
theorem read?_eq_none_iff {read : Reader α} : c.read? read = none ↔ read c.rest = none := by
  simp [read?]

/-- What lies between two cursors is cut out of what follows the first. -/
theorem since_eq (c d : Cursor) : d.since c = (d.text.drop c.offset).take (d.offset - c.offset) :=
  List.drop_take

/-- The offset behind a text that stands at the cursor. -/
theorem moveTo_of_rest_eq (h : c.rest = taken ++ left) :
    c.moveTo left = { c with offset := c.offset + taken.length } := by
  rw [moveTo, h, List.length_append, Nat.add_sub_cancel]

/-- **What is taken at a cursor lies between it and the next one**, and what
is left follows the next one. -/
theorem moveTo_eq_iff (htaken : taken ≠ []) :
    c.rest = taken ++ left ∧ c.moveTo left = d ↔ c.Between d taken ∧ d.rest = left := by
  have hpos : 0 < taken.length := List.length_pos_iff.mpr htaken
  constructor
  · intro h
    obtain ⟨hrest, rfl⟩ := h
    rw [moveTo_of_rest_eq hrest]
    have hlength := congrArg List.length hrest
    rw [rest, List.length_drop, List.length_append] at hlength
    unfold rest at hrest
    refine ⟨⟨rfl, ?_, ?_⟩, ?_⟩
    · show c.offset + taken.length ≤ c.text.length
      omega
    · show Cursor.since { c with offset := c.offset + taken.length } c = taken
      rw [since_eq, hrest, Nat.add_sub_cancel_left, List.take_left]
    · show c.text.drop (c.offset + taken.length) = left
      rw [← List.drop_drop, hrest, List.drop_left]
  · intro h
    obtain ⟨⟨htext, hinside, hsince⟩, rfl⟩ := h
    rw [since_eq, htext] at hsince
    rw [htext] at hinside
    -- The text between the two is not empty, so the second cursor comes later.
    have hlater : c.offset ≤ d.offset := by
      refine Nat.le_of_not_lt fun hearlier => htaken ?_
      rw [← hsince, Nat.sub_eq_zero_of_le (Nat.le_of_lt hearlier), List.take_zero]
    have hdrest : d.rest = (c.text.drop c.offset).drop (d.offset - c.offset) := by
      rw [rest, htext, List.drop_drop]
      congr 1
      omega
    have hrest : c.rest = taken ++ d.rest := by
      rw [← hsince, hdrest, List.take_append_drop]
      rfl
    have hlength := congrArg List.length hsince
    rw [List.length_take, List.length_drop] at hlength
    refine ⟨hrest, ?_⟩
    rw [moveTo_of_rest_eq hrest]
    obtain ⟨text, offset⟩ := d
    obtain rfl : text = c.text := htext
    have hoffset : c.offset + taken.length = offset := by
      simp only at hlength hlater hinside
      omega
    rw [hoffset]

end

/-! ### Going ahead -/

/-- The second cursor stands in the same text and later, but not past the
end. -/
structure Ahead (c d : Cursor) : Prop where
  text : d.text = c.text
  later : c.offset < d.offset
  inside : d.offset ≤ d.text.length

section

variable {α : Type} {c d : Cursor} {left : Text}

theorem length_rest (c : Cursor) : c.rest.length = c.text.length - c.offset :=
  List.length_drop

/-- Further ahead there is less left. -/
theorem Ahead.length_rest_lt (h : c.Ahead d) : d.rest.length < c.rest.length := by
  obtain ⟨htext, hlater, hinside⟩ := h
  rw [length_rest, length_rest, htext]
  rw [htext] at hinside
  omega

/-- What was left follows the new place. -/
theorem rest_moveTo (h : left <:+ c.rest) : (c.moveTo left).rest = left := by
  show c.text.drop (c.offset + (c.rest.length - left.length)) = left
  rw [← List.drop_drop]
  exact (List.suffix_iff_eq_drop.mp h).symm

/-- What follows a later place is cut out of what follows an earlier one. -/
theorem rest_later {offset : Nat} (h : c.offset ≤ offset) :
    rest { c with offset } = c.rest.drop (offset - c.offset) := by
  rw [rest, rest, List.drop_drop, Nat.add_sub_cancel' h]

theorem ahead_moveTo (h : left.length < c.rest.length) : c.Ahead (c.moveTo left) := by
  refine ⟨rfl, ?_, ?_⟩
  · show c.offset < c.offset + (c.rest.length - left.length)
    omega
  · show c.offset + (c.rest.length - left.length) ≤ c.text.length
    rw [length_rest] at h ⊢
    omega

/-- **A reader that advances moves the cursor ahead.** -/
theorem read?_ahead {read : Reader α} {a : α} (hread : read.Advances)
    (h : c.read? read = some (a, d)) : c.Ahead d := by
  obtain ⟨left, hleft, rfl⟩ := read?_eq_some_iff.mp h
  exact ahead_moveTo (hread hleft).2

/-- One character further on is where the rest without it follows. -/
theorem advance_eq_moveTo {next : Char} (h : c.rest = next :: left) :
    c.advance = c.moveTo left := by
  have hinside : ¬ c.text.length ≤ c.offset := by
    have hlength := congrArg List.length h
    rw [length_rest, List.length_cons] at hlength
    omega
  rw [advance, if_neg (by simpa [atEnd] using hinside), moveTo, h, List.length_cons,
    Nat.add_sub_cancel_left]

end

/-! ### A longer text -/

/-- The same place in the text that has `u` in front. -/
def after (c : Cursor) (u : Text) : Cursor :=
  ⟨u ++ c.text, u.length + c.offset⟩

section

variable {α : Type} (c : Cursor) (u : Text)

@[simp] theorem offset_after : (c.after u).offset = u.length + c.offset := rfl

/-- What follows the place is the same. -/
@[simp] theorem rest_after : (c.after u).rest = c.rest :=
  List.drop_length_add_append _

theorem moveTo_after (left : Text) : (c.after u).moveTo left = (c.moveTo left).after u := by
  simp only [moveTo, rest_after]
  simp only [after, Nat.add_assoc]

theorem atEnd_after : (c.after u).atEnd = c.atEnd := by
  simp [atEnd, after]

theorem advance_after : (c.after u).advance = c.advance.after u := by
  unfold advance
  rw [atEnd_after]
  split
  · rfl
  · simp only [after, Nat.add_assoc]

/-- **A reader does not see what stands before the cursor.** -/
theorem read?_after (read : Reader α) :
    (c.after u).read? read = (c.read? read).map fun (a, d) => (a, d.after u) := by
  simp only [read?, rest_after, moveTo_after, Option.map_map]
  rfl

end

end Stencil.Cursor
