import Stencil.Proofs.Path.Read
import Stencil.Condition.Read

/-!
# `Stencil.Proofs.Condition.Spelling`: how a condition may be written

A condition has many written forms: white space may stand around every
sign, and parentheses may stand around every part. A `Spelling` is a
condition together with what was chosen there, so it is a derivation
in the grammar of conditions, and the four functions on it are what
that grammar defines:

* `Spelling.text`, the text that is written;
* `Spelling.value`, the condition that it means;
* `Spelling.level`, the part of speech: a factor, two factors joined by
  `&&`, two terms joined by `||`;
* `Spelling.nesting`, the largest number of groups and negations around
  any point of the text.

`Spelling.IsProper` says that the grammar allows the spelling: the
operands of a sign are of a lower level, only a factor is negated, and
the names in paths are identifiers. The bound on the nesting is kept
apart from it, because what is said about the uniqueness of spellings
holds without any bound.

`Spelling.Ends` says what may not follow a spelling, so that a reader
that takes as much as it can stops where the spelling stops.
-/

set_option autoImplicit false

namespace Stencil.Condition

open Text (Blank StopsAt isSpace skipSpace word? delimiters)

/-! ### Signs that join -/

/-- The two signs that join conditions. -/
inductive Junction where
  | and
  | or
  deriving DecidableEq

namespace Junction

/-- How the sign is written. -/
def sign : Junction → Text
  | .and => ['&', '&']
  | .or => ['|', '|']

/-- The condition that the sign makes of two. -/
def join : Junction → Condition → Condition → Condition
  | .and => .and
  | .or => .or

/-- How weakly the sign binds. Its operands have to be of a lower
level. -/
def level : Junction → Nat
  | .and => 1
  | .or => 2

theorem level_pos (j : Junction) : 0 < j.level := by
  cases j <;> decide

theorem level_le_two (j : Junction) : j.level ≤ 2 := by
  cases j <;> decide

/-- The level tells the sign. -/
theorem level_inj {j k : Junction} (h : j.level = k.level) : j = k := by
  cases j <;> cases k <;> first | rfl | exact absurd h (by decide)

/-- A sign begins with a delimiter. -/
theorem exists_cons_sign (j : Junction) : ∃ c more, j.sign = c :: more ∧ c ∈ delimiters := by
  cases j with
  | and => exact ⟨'&', ['&'], rfl, by decide⟩
  | or => exact ⟨'|', ['|'], rfl, by decide⟩

/-- Two signs that begin alike are the same. -/
theorem sign_append_inj {j k : Junction} {s s' : Text} (h : j.sign ++ s = k.sign ++ s') :
    j = k ∧ s = s' := by
  cases j <;> cases k <;> simp_all [sign]

/-- No white space stands before a sign. -/
theorem stopsAt_isSpace_sign (j : Junction) (s : Text) : StopsAt isSpace (j.sign ++ s) := by
  obtain ⟨c, more, hsign, hc⟩ := j.exists_cons_sign
  rw [hsign, List.cons_append, Text.stopsAt_cons]
  exact Text.isSpace_delimiter hc

/-- No path goes on with a sign that joins. -/
theorem stopsAt_mayContinue_sign (j : Junction) (s : Text) :
    StopsAt Path.mayContinue (j.sign ++ s) := by
  cases j <;> exact Text.stopsAt_cons.mpr (by decide)

/-- The sign does not follow, not even behind white space. -/
def Absent (j : Junction) (rest : Text) : Prop :=
  ∀ (w : Blank) (s : Text), rest ≠ w.1 ++ (j.sign ++ s)

theorem word?_sign_eq_some_iff {j : Junction} {s rest : Text} :
    word? j.sign (skipSpace s) = some rest ↔ ∃ w : Blank, s = w.1 ++ (j.sign ++ rest) := by
  obtain ⟨c, more, hsign, hc⟩ := j.exists_cons_sign
  rw [hsign]
  exact Text.word?_skipSpace_eq_some_iff hc

theorem word?_sign_eq_none_iff {j : Junction} {s : Text} :
    word? j.sign (skipSpace s) = none ↔ j.Absent s := by
  rw [Option.eq_none_iff_forall_ne_some]
  constructor
  · intro h w rest hs
    exact h rest (word?_sign_eq_some_iff.mpr ⟨w, hs⟩)
  · intro h rest hs
    obtain ⟨w, hw⟩ := word?_sign_eq_some_iff.mp hs
    exact h w rest hw

/-- Something follows where a sign does. -/
theorem append_sign_ne_nil (j : Junction) (w s : Text) : w ++ (j.sign ++ s) ≠ [] := by
  cases j <;> simp [sign]

/-- Where one sign follows, the other does not. -/
theorem absent_of_ne {j k : Junction} (h : j ≠ k) (w : Blank) (s : Text) :
    k.Absent (w.1 ++ (j.sign ++ s)) := by
  intro w' s' hs
  obtain ⟨-, hsign⟩ := Text.blank_append_inj (stopsAt_isSpace_sign j s)
    (stopsAt_isSpace_sign k s') hs
  exact h (sign_append_inj hsign).1

end Junction

/-! ### Spellings -/

/-- A condition as it is written, with the white space and the
parentheses that were chosen. -/
inductive Spelling where
  | compare (left : Path) (before : Blank) (op : Comparator) (after : Blank) (right : Path)
  | group (before : Blank) (inner : Spelling) (after : Blank)
  | not (after : Blank) (inner : Spelling)
  | join (junction : Junction) (left : Spelling) (before after : Blank) (right : Spelling)

namespace Spelling

/-- The text that is written. -/
def text : Spelling → Text
  | .compare left before op after right =>
    left.print ++ (before.1 ++ (op.symbol ++ (after.1 ++ right.print)))
  | .group before inner after => '(' :: (before.1 ++ (inner.text ++ (after.1 ++ [')'])))
  | .not after inner => '!' :: (after.1 ++ inner.text)
  | .join junction left before after right =>
    left.text ++ (before.1 ++ (junction.sign ++ (after.1 ++ right.text)))

/-- The condition that is meant. A group only says what belongs
together. -/
def value : Spelling → Condition
  | .compare left _ op _ right => .compare left op right
  | .group _ inner _ => inner.value
  | .not _ inner => .not inner.value
  | .join junction left _ _ right => junction.join left.value right.value

/-- How weakly the spelling binds: a factor not at all, a join as its
sign does. -/
def level : Spelling → Nat
  | .join junction .. => junction.level
  | _ => 0

/-- How many groups and negations enclose one another. -/
def nesting : Spelling → Nat
  | .compare .. => 0
  | .group _ inner _ => inner.nesting + 1
  | .not _ inner => inner.nesting + 1
  | .join _ left _ _ right => max left.nesting right.nesting

/-- The grammar allows the spelling. -/
def IsProper : Spelling → Prop
  | .compare left _ _ _ right => left.isLexical = true ∧ right.isLexical = true
  | .group _ inner _ => inner.IsProper
  | .not _ inner => inner.level = 0 ∧ inner.IsProper
  | .join junction left _ _ right =>
    (left.level < junction.level ∧ right.level < junction.level) ∧
      left.IsProper ∧ right.IsProper

theorem level_le_two (e : Spelling) : e.level ≤ 2 := by
  cases e with
  | join junction left before after right => exact junction.level_le_two
  | _ => exact Nat.zero_le 2

/-- A spelling begins with the first character of a path or with one of
the signs `(` and `!`. -/
theorem exists_cons_text {e : Spelling} (h : e.IsProper) :
    ∃ c tail, e.text = c :: tail ∧
      (Text.isIdentifierStart c = true ∨ c = '(' ∨ c = '!') := by
  induction e with
  | compare left before op after right =>
    obtain ⟨c, tail, hleft, hc⟩ := Path.exists_cons_print h.1
    refine ⟨c, tail ++ (before.1 ++ (op.symbol ++ (after.1 ++ right.print))), ?_, Or.inl hc⟩
    rw [text, hleft, List.cons_append]
  | group before inner after => exact ⟨'(', _, rfl, Or.inr (Or.inl rfl)⟩
  | not after inner => exact ⟨'!', _, rfl, Or.inr (Or.inr rfl)⟩
  | join junction left before after right ihl ihr =>
    obtain ⟨c, tail, hleft, hc⟩ := ihl h.2.1
    refine ⟨c, tail ++ (before.1 ++ (junction.sign ++ (after.1 ++ right.text))), ?_, hc⟩
    rw [text, hleft, List.cons_append]

/-- No white space stands before a spelling. -/
theorem stopsAt_isSpace_text {e : Spelling} (h : e.IsProper) (rest : Text) :
    StopsAt isSpace (e.text ++ rest) := by
  obtain ⟨c, tail, htext, hc⟩ := exists_cons_text h
  rw [htext, List.cons_append, Text.stopsAt_cons]
  rcases hc with hc | rfl | rfl
  · exact Text.isSpace_eq_false_of_isIdentifierPart
      (Text.isIdentifierPart_of_isIdentifierStart hc)
  · decide
  · decide

/-! ### What may follow -/

/-- What follows could not belong to the last part of the spelling. A
group is over with its parenthesis. A join is over when its right
operand is, and no sign follows that the operand could still take. -/
def IsOver : Spelling → Text → Prop
  | .compare _ _ _ _ right, rest => right.Ends rest
  | .group .., _ => True
  | .not _ inner, rest => inner.IsOver rest
  | .join junction _ _ _ right, rest =>
    right.IsOver rest ∧
      ∀ k : Junction, right.level < k.level → k.level < junction.level → k.Absent rest

/-- What follows could not belong to the spelling, for a reader that
takes signs up to the given level. -/
def Ends (e : Spelling) (level : Nat) (rest : Text) : Prop :=
  e.IsOver rest ∧ ∀ k : Junction, e.level < k.level → k.level ≤ level → k.Absent rest

theorem isOver_join {junction : Junction} {left right : Spelling} {before after : Blank}
    {rest : Text} : (join junction left before after right).IsOver rest ↔
      right.Ends (junction.level - 1) rest := by
  have hpos := junction.level_pos
  have hlevel : ∀ k : Junction, k.level < junction.level ↔ k.level ≤ junction.level - 1 :=
    fun k => by omega
  simp only [IsOver, Ends, hlevel]

end Spelling

/-- Nothing that follows could belong to any condition before it: neither
the rest of a path nor a sign that joins. -/
def Boundary (rest : Text) : Prop :=
  StopsAt Path.mayContinue rest ∧
    ∀ k : Junction, k.Absent rest

namespace Spelling

/-- A spelling is over where a path is, if none of the signs follows that
a reader of this level takes. -/
theorem ends_of_stopsAt {e : Spelling} {n : Nat} {rest : Text} (he : e.IsProper)
    (hlevel : e.level ≤ n)
    (hstop : StopsAt Path.mayContinue rest)
    (habsent : ∀ k : Junction, k.level ≤ n → k.Absent rest) : e.Ends n rest := by
  refine ⟨?_, fun k _ hk => habsent k hk⟩
  induction e with
  | compare left before op after right => exact Path.Ends.of_stopsAt hstop
  | group before inner after => trivial
  | not after inner ih => exact ih he.2 (he.1 ▸ Nat.zero_le n)
  | join junction left before after right ihl ihr =>
    -- The right operand binds more strongly than its sign, so the same signs are absent
    -- behind it.
    have hright : right.level ≤ n := Nat.le_trans (Nat.le_of_lt he.1.2) hlevel
    refine ⟨ihr he.2.2 hright, fun k _ hk => habsent k ?_⟩
    exact Nat.le_trans (Nat.le_of_lt hk) hlevel

/-- Every spelling is over at a boundary. -/
theorem ends_of_boundary {e : Spelling} {rest : Text} (he : e.IsProper) (h : Boundary rest)
    (level : Nat) : e.Ends level rest :=
  ⟨(ends_of_stopsAt he e.level_le_two h.1 fun k _ => h.2 k).1, fun k _ _ => h.2 k⟩

/-- The left operand of a sign is over before it. -/
theorem ends_of_sign {e : Spelling} {j : Junction} (he : e.IsProper) (hlevel : e.level < j.level)
    (w : Blank) (s : Text) : e.Ends (j.level - 1) (w.1 ++ (j.sign ++ s)) := by
  have hpos := j.level_pos
  refine ends_of_stopsAt he (by omega) ?_ fun k hk => ?_
  · exact Text.stopsAt_blank_append (fun c hc => Path.mayContinue_eq_false_of_isSpace hc) w
      (j.stopsAt_mayContinue_sign s)
  · refine Junction.absent_of_ne ?_ w s
    rintro rfl
    omega

end Spelling

/-- The end of the text is a boundary. -/
theorem boundary_nil : Boundary [] :=
  ⟨Text.stopsAt_nil, fun k w s hs => k.append_sign_ne_nil w.1 s hs.symm⟩

/-- A closing parenthesis is a boundary, also behind white space. -/
theorem boundary_paren (w : Blank) (s : Text) : Boundary (w.1 ++ ')' :: s) := by
  refine ⟨?_, fun k w' s' hs => ?_⟩
  · exact Text.stopsAt_blank_append (fun c hc => Path.mayContinue_eq_false_of_isSpace hc) w
      (Text.stopsAt_cons.mpr (by decide))
  -- A sign behind the white space would have to be the parenthesis.
  have hparen : StopsAt isSpace (')' :: s) := Text.isSpace_delimiter (by decide)
  obtain ⟨-, hsign⟩ := Text.blank_append_inj hparen (k.stopsAt_isSpace_sign s') hs
  cases k <;> simp [Junction.sign] at hsign

end Stencil.Condition
