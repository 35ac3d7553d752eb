import Stencil.Proofs.Condition.Limit

/-!
# `Stencil.Proofs.Condition.Doubling`: how deep the canonical form gets

Reading forgets the parentheses of a text, and writing puts others in their
place. There may be more of them. A negation is written `!(..)` around
everything but a comparison, and an operand that is a join is written
`(..)` even where the levels of the signs tell what belongs together.

`print_at_most_doubles` says by how much this can make a text deeper: `n`
groups and negations around a point become at most `2 * n + 1`. The bound
takes what comes from the levels into account. A condition in the place of
an operand nests to at most `2 * n` and its level on top
(`operandNesting_value_le`), so each group of the text pays for the two
levels within it.

No smaller bound holds. In a `Spelling.staircase` each group has both signs
within it, and then both levels need parentheses when it is written back.
-/

set_option autoImplicit false

namespace Stencil.Condition

open Text (Blank)

/-! ### The bound -/

/-- How deep a condition nests as an operand, where a join is enclosed. -/
def operandNesting (c : Condition) : Nat :=
  c.nesting + if c.isJoin then 1 else 0

namespace Junction

variable (j : Junction) (left right : Condition)

theorem isJoin_join : (j.join left right).isJoin = true := by
  cases j <;> rfl

theorem nesting_join :
    (j.join left right).nesting = max left.operandNesting right.operandNesting := by
  cases j <;> rfl

/-- A join is no deeper than the deeper of its operands, and needs
parentheses to be an operand itself. -/
theorem operandNesting_join :
    (j.join left right).operandNesting = max left.operandNesting right.operandNesting + 1 := by
  rw [operandNesting, isJoin_join, nesting_join, if_pos rfl]

end Junction

namespace Spelling

/-- **As an operand, what a spelling means nests to at most twice the nesting
of the spelling**, and one more for each level. -/
theorem operandNesting_value_le {e : Spelling} (he : e.IsProper) :
    e.value.operandNesting ≤ 2 * e.nesting + e.level := by
  induction e with
  | compare left before op after right => exact Nat.le_refl 0
  | group before inner after ih =>
    -- The group itself pays for the two levels that there are.
    have hinner := ih he
    have hlevel := inner.level_le_two
    simp only [value, nesting, level]
    omega
  | not after inner ih =>
    have hinner := ih he.2
    rw [he.1, operandNesting] at hinner
    simp only [value, operandNesting, Condition.nesting, isJoin, nesting, level,
      Bool.false_eq_true, if_false]
    split <;> omega
  | join junction left before after right ihl ihr =>
    -- Both operands are of a lower level, which leaves one for the parentheses.
    have hleft := ihl he.2.1
    have hright := ihr he.2.2
    have hlevels := he.1
    rw [value, Junction.operandNesting_join]
    simp only [nesting, level]
    omega

/-- A spelling that is no factor means a join. -/
theorem isJoin_value {e : Spelling} (h : 0 < e.level) : e.value.isJoin = true := by
  cases e with
  | join junction left before after right => exact Junction.isJoin_join ..
  | _ => exact absurd h (Nat.lt_irrefl 0)

/-- **What a spelling means nests to at most twice its nesting and one.** -/
theorem nesting_value_le {e : Spelling} (he : e.IsProper) :
    e.value.nesting ≤ 2 * e.nesting + 1 := by
  have hoperand := operandNesting_value_le he
  have hlevel := e.level_le_two
  rw [operandNesting] at hoperand
  cases hjoin : e.value.isJoin with
  | true =>
    rw [hjoin, if_pos rfl] at hoperand
    omega
  | false =>
    have hfactor : ¬0 < e.level := fun hpos => by simp [isJoin_value hpos] at hjoin
    omega

end Spelling

/-! ### Conditions that attain it -/

namespace Spelling

/-- The comparison `a==b`. -/
def names : Spelling :=
  .compare ⟨['a'], []⟩ Blank.none .equal Blank.none ⟨['b'], []⟩

theorem isProper_names : names.IsProper :=
  ⟨by decide, by decide⟩

/-- A factor joined by both signs. -/
def climb (e : Spelling) : Spelling :=
  .join .or (.join .and e Blank.none Blank.none names) Blank.none Blank.none names

theorem isProper_climb {e : Spelling} (he : e.IsProper) (hlevel : e.level = 0) :
    e.climb.IsProper := by
  have hand : (join .and e Blank.none Blank.none names).IsProper :=
    ⟨⟨by simp [hlevel, Junction.level], by decide⟩, he, isProper_names⟩
  exact ⟨⟨Nat.one_lt_two, by decide⟩, hand, isProper_names⟩

theorem nesting_climb (e : Spelling) : e.climb.nesting = e.nesting := by
  simp [climb, names, nesting]

theorem isJoin_value_climb (e : Spelling) : e.climb.value.isJoin = true :=
  rfl

/-- Each sign brings one pair of parentheses, but the outer one not for
itself. -/
theorem nesting_value_climb (e : Spelling) :
    e.climb.value.nesting = e.value.operandNesting + 1 := by
  rw [climb, value, Junction.nesting_join, value, Junction.operandNesting_join]
  simp [names, value, operandNesting, Condition.nesting, isJoin]

/-- Conditions with both signs, each within a group of the next one:
`(a==b&&a==b||a==b)&&a==b||a==b` has one step above the ground. -/
def staircase : Nat → Spelling
  | 0 => names.climb
  | n + 1 => (Spelling.group Blank.none (staircase n) Blank.none).climb

theorem isProper_staircase (n : Nat) : (staircase n).IsProper := by
  induction n with
  | zero => exact isProper_climb isProper_names rfl
  | succ n ih => exact isProper_climb ih rfl

theorem nesting_staircase (n : Nat) : (staircase n).nesting = n := by
  induction n with
  | zero => rw [staircase, nesting_climb, names, nesting]
  | succ n ih => rw [staircase, nesting_climb, nesting, ih]

theorem isJoin_value_staircase (n : Nat) : (staircase n).value.isJoin = true := by
  cases n <;> exact isJoin_value_climb _

/-- The canonical form of a staircase has two groups for each of its steps,
and one on the ground. -/
theorem nesting_value_staircase (n : Nat) : (staircase n).value.nesting = 2 * n + 1 := by
  induction n with
  | zero => rw [staircase, nesting_value_climb]; rfl
  | succ n ih =>
    rw [staircase, nesting_value_climb, value, operandNesting, isJoin_value_staircase, ih,
      if_pos rfl]
    omega

end Spelling

/-! ### What was read and what is written -/

/-- The canonical form has the depths of the canonical spelling. -/
theorem depths_print_iff {c : Condition} (h : c.isLexical = true) {depths : List Nat} :
    Depths c.print depths ↔ depths = c.canonical.depths := by
  rw [← text_canonical]
  exact depths_text_iff (isProper_canonical h)

/-- The deepest point of the canonical form. -/
theorem max?_depths_canonical (c : Condition) : c.canonical.depths.max? = some c.nesting := by
  rw [Spelling.max?_depths, nesting_canonical]

/-- **Writing back what was read at most doubles the nesting**, and adds one.
If no more than `n` groups and negations enclose any point of the text, no
more than `2 * n + 1` enclose any point of the canonical form of what was
read, so that it is read again as long as `n` is at most 31. Each of these
bounds is attained by a text that is read. -/
theorem print_at_most_doubles :
    (∀ (s : Text) (c : Condition), parse s = .ok c →
      ∃ written printed : List Nat,
        (∀ depths, Depths s depths ↔ depths = written) ∧
        (∀ depths, Depths c.print depths ↔ depths = printed) ∧
        ∀ n : Nat, (∀ d ∈ written, d ≤ n) →
          (∀ d ∈ printed, d ≤ 2 * n + 1) ∧ (n ≤ 31 → parse c.print = .ok c)) ∧
    ∀ n ≤ nestingLimit, ∃ (s : Text) (c : Condition) (written printed : List Nat),
      parse s = .ok c ∧ Depths s written ∧ written.max? = some n ∧
        Depths c.print printed ∧ printed.max? = some (2 * n + 1) := by
  constructor
  · intro s c h
    have hlexical := isLexical_of_parse h
    obtain ⟨before, e, after, he, -, rfl, rfl⟩ :=
      writtenForm_iff.mp (parse_eq_ok_iff_writtenForm.mp h)
    refine ⟨e.depthsWithin before after, e.value.canonical.depths, fun _ => depths_iff he,
      fun _ => depths_print_iff hlexical, fun n hn => ?_⟩
    have hdeepest := List.max?_eq_some_iff.mp (e.max?_depthsWithin before after)
    have hnesting : e.value.nesting ≤ 2 * n + 1 := by
      have hle := hn e.nesting hdeepest.1
      have hvalue := Spelling.nesting_value_le he
      omega
    refine ⟨fun d hd => ?_, fun hfew => parse_print_of_le hlexical ?_⟩
    · have hprinted := Spelling.le_nesting_of_mem_depths hd
      rw [nesting_canonical] at hprinted
      exact Nat.le_trans hprinted hnesting
    · have hlimit : 2 * 31 + 1 ≤ nestingLimit := by decide
      omega
  · intro n hn
    have he := Spelling.isProper_staircase n
    have hread : parse (Spelling.staircase n).text = .ok (Spelling.staircase n).value :=
      parse_text_of_le he (by rwa [Spelling.nesting_staircase])
    refine ⟨_, _, _, _, hread, (depths_text_iff he).mpr rfl, ?_,
      (depths_print_iff (isLexical_of_parse hread)).mpr rfl, ?_⟩
    · rw [Spelling.max?_depths, Spelling.nesting_staircase]
    · rw [max?_depths_canonical, Spelling.nesting_value_staircase]

end Stencil.Condition
