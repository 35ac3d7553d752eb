import Stencil.Proofs.Condition.Spelling
import Stencil.Condition.Print

/-!
# `Stencil.Proofs.Condition.Canonical`: the canonical form is a spelling

`Condition.print` writes a condition in its canonical form.
`Condition.canonical` is the spelling behind that form: one blank around
`&&` and `||`, none elsewhere, and parentheses around a join that is an
operand and around whatever is negated and is no comparison.

Whatever the condition, the canonical spelling writes the canonical
form, means the condition, and is proper if the names are identifiers.
What it may fail is the limit on nesting, since it has parentheses that
nobody wrote. `Condition.nesting` is how deep they nest, and
`nesting_canonical` says that this is the nesting of the spelling.
-/

set_option autoImplicit false

namespace Stencil.Condition

open Text (Blank)

/-- How deep groups and negations enclose one another in the canonical
form. A negated comparison needs no group, and neither does an operand
that is no join. -/
def nesting : Condition → Nat
  | .compare .. => 0
  | .not inner => if inner.isComparison then 1 else 2 + inner.nesting
  | .and left right | .or left right =>
    max (left.nesting + if left.isJoin then 1 else 0)
      (right.nesting + if right.isJoin then 1 else 0)

/-- Puts a spelling between parentheses where that is asked for. -/
def Spelling.enclosed (wanted : Bool) (e : Spelling) : Spelling :=
  if wanted then .group Blank.none e Blank.none else e

/-- The spelling that is the canonical form. -/
def canonical : Condition → Spelling
  | .compare left op right => .compare left Blank.none op Blank.none right
  | .not inner => .not Blank.none (inner.canonical.enclosed (!inner.isComparison))
  | .and left right =>
    .join .and (left.canonical.enclosed left.isJoin) Blank.single Blank.single
      (right.canonical.enclosed right.isJoin)
  | .or left right =>
    .join .or (left.canonical.enclosed left.isJoin) Blank.single Blank.single
      (right.canonical.enclosed right.isJoin)

namespace Spelling

variable {wanted : Bool} {e : Spelling}

theorem text_enclosed : (e.enclosed wanted).text = enclose wanted e.text := by
  cases wanted <;> simp [enclosed, enclose, text]

theorem value_enclosed : (e.enclosed wanted).value = e.value := by
  cases wanted <;> simp [enclosed, value]

theorem isProper_enclosed : (e.enclosed wanted).IsProper ↔ e.IsProper := by
  cases wanted <;> simp [enclosed, IsProper]

theorem nesting_enclosed :
    (e.enclosed wanted).nesting = e.nesting + if wanted then 1 else 0 := by
  cases wanted <;> simp [enclosed, nesting]

/-- What is enclosed, or is a factor already, is a factor. -/
theorem level_enclosed (h : wanted = false → e.level = 0) :
    (e.enclosed wanted).level = 0 := by
  cases wanted with
  | true => rfl
  | false => exact h rfl

/-- The names in what a proper spelling means are identifiers. -/
theorem isLexical_value {e : Spelling} (h : e.IsProper) : e.value.isLexical = true := by
  induction e with
  | compare left before op after right => simp [value, isLexical, h.1, h.2]
  | group before inner after ih => exact ih h
  | not after inner ih => exact ih h.2
  | join junction left before after right ihl ihr =>
    have hl := ihl h.2.1
    have hr := ihr h.2.2
    cases junction <;> simp [value, Junction.join, isLexical, hl, hr]

end Spelling

open Spelling

/-- The canonical spelling writes the canonical form. -/
theorem text_canonical (c : Condition) : c.canonical.text = c.print := by
  induction c with
  | compare left op right => simp [canonical, text, print]
  | not inner ih => simp [canonical, text, print, text_enclosed, ih]
  | and left right ihl ihr => simp [canonical, text, print, text_enclosed, ihl, ihr, Junction.sign]
  | or left right ihl ihr => simp [canonical, text, print, text_enclosed, ihl, ihr, Junction.sign]

/-- The canonical spelling means the condition. -/
theorem value_canonical (c : Condition) : c.canonical.value = c := by
  induction c with
  | compare left op right => rfl
  | not inner ih => rw [canonical, value, value_enclosed, ih]
  | and left right ihl ihr =>
    rw [canonical, value, value_enclosed, value_enclosed, ihl, ihr, Junction.join]
  | or left right ihl ihr =>
    rw [canonical, value, value_enclosed, value_enclosed, ihl, ihr, Junction.join]

/-- Only the canonical spelling of a join is no factor. -/
theorem level_canonical {c : Condition} (h : c.isJoin = false) : c.canonical.level = 0 := by
  cases c with
  | and left right => exact absurd h (by simp [isJoin])
  | or left right => exact absurd h (by simp [isJoin])
  | _ => rfl

/-- Where the operands of a sign are enclosed if they are joins, they are
factors. -/
theorem isProper_join {left right : Condition} (j : Junction)
    (hl : left.canonical.IsProper) (hr : right.canonical.IsProper) :
    (Spelling.join j (left.canonical.enclosed left.isJoin) Blank.single Blank.single
      (right.canonical.enclosed right.isJoin)).IsProper := by
  refine ⟨⟨?_, ?_⟩, isProper_enclosed.mpr hl, isProper_enclosed.mpr hr⟩
  · rw [level_enclosed level_canonical]
    exact j.level_pos
  · rw [level_enclosed level_canonical]
    exact j.level_pos

/-- The canonical spelling is proper if the names are identifiers. -/
theorem isProper_canonical {c : Condition} (h : c.isLexical = true) : c.canonical.IsProper := by
  induction c with
  | compare left op right => simpa [isLexical, canonical, IsProper] using h
  | not inner ih =>
    refine ⟨level_enclosed fun hcompare => ?_, isProper_enclosed.mpr (ih h)⟩
    cases inner with
    | compare left op right => rfl
    | _ => exact absurd hcompare (by simp [isComparison])
  | and left right ihl ihr =>
    simp only [isLexical, Bool.and_eq_true] at h
    exact isProper_join .and (ihl h.1) (ihr h.2)
  | or left right ihl ihr =>
    simp only [isLexical, Bool.and_eq_true] at h
    exact isProper_join .or (ihl h.1) (ihr h.2)

/-- The nesting of the canonical form is that of its spelling. -/
theorem nesting_canonical (c : Condition) : c.canonical.nesting = c.nesting := by
  induction c with
  | compare left op right => rfl
  | not inner ih =>
    rw [canonical, Spelling.nesting, nesting_enclosed, ih, Condition.nesting]
    cases inner with
    | compare left op right => simp [isComparison, Condition.nesting]
    | _ =>
      simp only [isComparison, Bool.not_false, if_true, Bool.false_eq_true, if_false]
      omega
  | and left right ihl ihr =>
    rw [canonical, Spelling.nesting, nesting_enclosed, nesting_enclosed, ihl, ihr,
      Condition.nesting]
  | or left right ihl ihr =>
    rw [canonical, Spelling.nesting, nesting_enclosed, nesting_enclosed, ihl, ihr,
      Condition.nesting]

end Stencil.Condition
