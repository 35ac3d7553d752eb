import Stencil.Proofs.Condition.RoundTrip
import Stencil.Proofs.Text.Cursor

/-!
# `Stencil.Proofs.Condition.Limit`: what the limit on nesting does to a reader

A reader of conditions is told how many groups and negations are around the
place where it begins. That number has no part in what is read, only in
whether it is read. `read_at_depth` says so: what is read inside of some
groups and negations is read inside of any other number of them, with the
same value and the same end, as long as the nesting of the text that is taken
stays within the limit. Past the limit nothing is read, and no shorter
condition in its place.

How deep a text nests is a fact about the text alone. `Depths` gives a number
to each character of a text that is a condition, perhaps with white space
around it, and `depths_iff` says that there is one way only to do so.
-/

set_option autoImplicit false

namespace Stencil.Condition

open Text (Blank)

/-! ### The depths of a text -/

namespace Spelling

/-- How many groups and negations enclose each character, with the white space
around a spelling, which is outside of all of them. -/
def depthsWithin (before : Blank) (e : Spelling) (after : Blank) : List Nat :=
  (before.1.map fun _ => 0) ++ (e.depths ++ after.1.map fun _ => 0)

/-- White space around a spelling makes it no deeper. -/
theorem max?_depthsWithin (before : Blank) (e : Spelling) (after : Blank) :
    (e.depthsWithin before after).max? = some e.nesting := by
  refine List.max?_eq_some_iff.mpr ⟨?_, fun d hd => ?_⟩
  · exact List.mem_append_right _ (List.mem_append_left _ e.nesting_mem_depths)
  · rw [depthsWithin, List.mem_append, List.mem_append] at hd
    rcases hd with hd | hd | hd
    · obtain ⟨_, -, rfl⟩ := List.mem_map.mp hd
      exact Nat.zero_le _
    · exact le_nesting_of_mem_depths hd
    · obtain ⟨_, -, rfl⟩ := List.mem_map.mp hd
      exact Nat.zero_le _

/-- A spelling is not empty. -/
theorem text_ne_nil {e : Spelling} (he : e.IsProper) : e.text ≠ [] := by
  obtain ⟨c, tail, htext, -⟩ := exists_cons_text he
  simp [htext]

end Spelling

/-- The text is a condition with white space around it, and these are the
numbers of groups and negations that enclose its characters. -/
def Depths (s : Text) (depths : List Nat) : Prop :=
  ∃ (before : Blank) (e : Spelling) (after : Blank), e.IsProper ∧
    s = before.1 ++ (e.text ++ after.1) ∧ depths = e.depthsWithin before after

/-- **A text has its depths in one way only**, because it has one spelling. -/
theorem depths_iff {before after : Blank} {e : Spelling} (he : e.IsProper) {depths : List Nat} :
    Depths (before.1 ++ (e.text ++ after.1)) depths ↔ depths = e.depthsWithin before after := by
  constructor
  · intro h
    obtain ⟨before', e', after', he', htext, rfl⟩ := h
    obtain ⟨rfl, hrest⟩ := Text.blank_append_inj (Spelling.stopsAt_isSpace_text he _)
      (Spelling.stopsAt_isSpace_text he' _) htext
    obtain ⟨rfl, hafter⟩ := Spelling.eq_of_text_append_eq he he' (boundary_blank after)
      (boundary_blank after') hrest
    rw [Subtype.ext hafter]
  · rintro rfl
    exact ⟨before, e, after, he, rfl, rfl⟩

/-- The depths of a spelling without white space around it. -/
theorem depths_text_iff {e : Spelling} (he : e.IsProper) {depths : List Nat} :
    Depths e.text depths ↔ depths = e.depths := by
  have h : Depths (Blank.none.1 ++ (e.text ++ Blank.none.1)) depths ↔
      depths = e.depthsWithin Blank.none Blank.none := depths_iff he
  simpa [Spelling.depthsWithin] using h

/-! ### Readers at a depth -/

namespace Part

theorem level_le_two (part : Part) : part.level ≤ 2 := by
  cases part <;> decide

/-- The reader of a part of speech inside of as many groups and negations. -/
def read? (part : Part) (depth : Nat) : Reader Condition :=
  match part with
  | .factor => factor? (nestingLimit - depth)
  | .term => term? (nestingLimit - depth)
  | .condition => condition? (nestingLimit - depth)

theorem read?_eq (part : Part) (depth : Nat) :
    part.read? depth = readAt (nestingLimit - depth) part.level := by
  cases part <;> rfl

theorem read?_advances (part : Part) (depth : Nat) : (part.read? depth).Advances := by
  cases part with
  | factor => exact factor?_advances _
  | term => exact termOf_advances (factor?_advances _)
  | condition => exact condition?_advances _

variable {part : Part} {depth : Nat} {c : Cursor} {e : Spelling} {rest : Text}

/-- A spelling at a place is read if the limit leaves room for it. -/
theorem read?_text (he : e.IsProper) (hrest : c.rest = e.text ++ rest)
    (hlevel : e.level ≤ part.level) (hends : e.Ends part.level rest)
    (hroom : depth + e.nesting ≤ nestingLimit ∨ e.nesting = 0) :
    c.read? (part.read? depth) = some (e.value, c.moveTo rest) := by
  refine Cursor.read?_eq_some_iff.mpr ⟨rest, ?_, rfl⟩
  rw [read?_eq, hrest]
  exact readAt_text he (by omega) hlevel part.level_le_two hends

/-- Nothing is read there if it does not. -/
theorem read?_text_eq_none (he : e.IsProper) (hrest : c.rest = e.text ++ rest)
    (hlevel : e.level ≤ part.level) (hends : e.Ends part.level rest)
    (hroom : ¬(depth + e.nesting ≤ nestingLimit ∨ e.nesting = 0)) :
    c.read? (part.read? depth) = none := by
  rw [Cursor.read?_eq_none_iff, read?_eq, hrest]
  exact readAt_text_eq_none he (by omega) hlevel part.level_le_two hends

end Part

/-- **The depth where reading begins decides whether a text is read, and never
what is read.** Let something be read at a place inside of some groups and
negations. The text that is taken nests to some depth `n`. Inside of as many
other groups and negations as leave room for `n` more, the same is read, up to
the same place, and a text without any needs no room. If there is no room,
nothing is read. -/
theorem read_at_depth {part : Part} {depth : Nat} {c d : Cursor} {v : Condition}
    (h : c.read? (part.read? depth) = some (v, d)) :
    ∃ (depths : List Nat) (n : Nat),
      (∀ depths', Depths (d.since c) depths' ↔ depths' = depths) ∧ depths.max? = some n ∧
        ∀ depth' : Nat,
          (depth' + n ≤ nestingLimit ∨ n = 0 → c.read? (part.read? depth') = some (v, d)) ∧
          (¬(depth' + n ≤ nestingLimit ∨ n = 0) → c.read? (part.read? depth') = none) := by
  obtain ⟨left, hread, hd⟩ := Cursor.read?_eq_some_iff.mp h
  rw [Part.read?_eq] at hread
  obtain ⟨e, he, hlevel, -, rfl, hrest, hends⟩ := spelled_of_readAt part.level_le_two hread
  have hbetween := ((Cursor.moveTo_eq_iff (Spelling.text_ne_nil he)).mp ⟨hrest, hd⟩).1
  refine ⟨e.depths, e.nesting, fun depths' => ?_, e.max?_depths, fun depth' => ⟨?_, ?_⟩⟩
  · rw [hbetween.since]
    exact depths_text_iff he
  · rw [← hd]
    exact Part.read?_text he hrest hlevel hends
  · exact Part.read?_text_eq_none he hrest hlevel hends

/-- A group that is negated, before `&&`, and two characters into a text. It is
read with sixty-two groups and negations around it, and with sixty-three not
even its left half is. -/
theorem read_at_depth_not_group :
    let c : Cursor := ⟨['x', ' ', '!', '(', 'a', '<', 'b', ')', '&', '&', 'c', '=', '=', 'd', ')'],
      2⟩
    let v : Condition := .and (.not (.compare ⟨['a'], []⟩ .less ⟨['b'], []⟩))
      (.compare ⟨['c'], []⟩ .equal ⟨['d'], []⟩)
    c.read? (Part.condition.read? 0) = some (v, { c with offset := 14 }) ∧
      c.read? (Part.condition.read? 62) = some (v, { c with offset := 14 }) ∧
      c.read? (Part.condition.read? 63) = none := by
  intro c v
  let e : Spelling := .join .and
    (.not Blank.none (.group Blank.none (.compare ⟨['a'], []⟩ Blank.none .less Blank.none
      ⟨['b'], []⟩) Blank.none)) Blank.none Blank.none
    (.compare ⟨['c'], []⟩ Blank.none .equal Blank.none ⟨['d'], []⟩)
  have he : e.IsProper :=
    ⟨⟨by decide, by decide⟩, ⟨rfl, by decide, by decide⟩, by decide, by decide⟩
  have hends : e.Ends Part.condition.level [')'] :=
    Spelling.ends_of_boundary he (boundary_paren Blank.none []) _
  have h : c.read? (Part.condition.read? 0) = some (v, { c with offset := 14 }) :=
    Part.read?_text he rfl (by decide) hends (Or.inl (by decide))
  obtain ⟨depths, n, hdepths, hmax, hother⟩ := read_at_depth h
  have htext : Depths (Cursor.since { c with offset := 14 } c) e.depths :=
    (depths_text_iff he).mpr rfl
  rw [← (hdepths _).mp htext] at hmax
  obtain rfl : 2 = n := Option.some.inj hmax
  exact ⟨h, (hother 62).1 (by decide), (hother 63).2 (by decide)⟩

end Stencil.Condition
