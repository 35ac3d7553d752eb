import Stencil.Condition.Basic
import Stencil.Path.Read

/-!
# `Stencil.Condition.Read`: the grammar of conditions

    CONDITION  = TERM ("||" TERM)?
    TERM       = FACTOR ("&&" FACTOR)?
    FACTOR     = "(" CONDITION ")" | "!" FACTOR | COMPARISON
    COMPARISON = PATH COMPARATOR PATH

White space may stand around every sign. Each of `&&` and `||` joins two operands
and no more: a chain needs parentheses. After `&&`, `||`, `!` or an opening
parenthesis the reader is committed, and a failure there makes everything fail.

Groups and negations may enclose one another `nestingLimit` deep and no deeper. A
reader is told how many more may be opened, its *allowance*, and the recursion is
on that number.

`Condition.parse` reads a whole text. What can go wrong with it is a
`ConditionError`.
-/

set_option autoImplicit false

namespace Stencil

open Text (char? word? skipSpace)

/-- Takes the sign of a comparison. A lone `=` or `!` is none. -/
def comparator? : Reader Comparator
  | '=' :: '=' :: rest => some (.equal, rest)
  | '!' :: '=' :: rest => some (.notEqual, rest)
  | '>' :: '=' :: rest => some (.greaterOrEqual, rest)
  | '>' :: rest => some (.greater, rest)
  | '<' :: '=' :: rest => some (.lessOrEqual, rest)
  | '<' :: rest => some (.less, rest)
  | _ => none

namespace Condition

/-- How many groups and negations may enclose one another in a condition. -/
def nestingLimit : Nat := 64

/-- Takes a comparison of two paths. -/
def comparison? : Reader Condition := fun s => do
  let (left, rest) ← path? s
  let (op, rest) ← comparator? (skipSpace rest)
  let (right, rest) ← path? (skipSpace rest)
  some (.compare left op right, rest)

/-- Takes one operand, or two with the given sign between them. Once the sign is
there, the second operand has to be there too. -/
def oneOrJoined (sign : Text) (join : Condition → Condition → Condition)
    (operand : Reader Condition) : Reader Condition := fun s => do
  let (left, rest) ← operand s
  match word? sign (skipSpace rest) with
  | none => some (left, rest)
  | some afterSign => do
    let (right, rest) ← operand (skipSpace afterSign)
    some (join left right, rest)

/-- One factor, or two joined by `&&`. -/
def termOf (factor : Reader Condition) : Reader Condition :=
  oneOrJoined ['&', '&'] .and factor

/-- One term, or two joined by `||`. -/
def conditionOf (factor : Reader Condition) : Reader Condition :=
  oneOrJoined ['|', '|'] .or (termOf factor)

/-- Takes a group, a negation or a comparison. With no allowance left only a
comparison can stand here, because neither `(` nor `!` begins one. -/
def factor? : Nat → Reader Condition
  | 0, s => comparison? s
  | allowance + 1, '(' :: rest => do
    let (inner, rest) ← conditionOf (factor? allowance) (skipSpace rest)
    let rest ← char? ')' (skipSpace rest)
    some (inner, rest)
  | allowance + 1, '!' :: rest => do
    let (inner, rest) ← factor? allowance (skipSpace rest)
    some (.not inner, rest)
  | _ + 1, s => comparison? s

/-- Takes a term inside which as many more groups and negations may be opened. -/
def term? (allowance : Nat) : Reader Condition :=
  termOf (factor? allowance)

/-- Takes a condition inside which as many more groups and negations may be
opened. -/
def condition? (allowance : Nat) : Reader Condition :=
  conditionOf (factor? allowance)

end Condition

/-! ### Whole texts -/

/-- Why a text is not a condition, and at which offset that shows. -/
inductive ConditionError where
  /-- No condition stands at the front. -/
  | invalid (text : Text) (position : Nat)
  /-- A condition stands at the front, but something else follows it. -/
  | leftover (rest : Text) (position : Nat)
  deriving DecidableEq, Repr

namespace ConditionError

/-- The offset at which the error shows. -/
def position : ConditionError → Nat
  | .invalid _ position | .leftover _ position => position

/-- What is wrong, for a person to read. -/
def detail : ConditionError → String
  | .invalid text _ => "Invalid expression '" ++ String.ofList text ++ "'"
  | .leftover rest _ => "Unexpected input '" ++ String.ofList rest ++ "'"

/-- What is wrong and where. -/
def message (e : ConditionError) : String :=
  atOffset e.position e.detail

end ConditionError

/-- Reads a text as a condition, with white space allowed around it. -/
def Condition.parse (s : Text) : Except ConditionError Condition :=
  let front := skipSpace s
  match condition? nestingLimit front with
  | none => .error (.invalid s (s.length - front.length))
  | some (condition, rest) =>
    let left := skipSpace rest
    if left.isEmpty then .ok condition
    else .error (.leftover left (s.length - left.length))

/-! ### What the readers leave -/

theorem comparator?_advances : Reader.Advances comparator? := by
  intro s op rest h
  unfold comparator? at h
  split at h <;>
    simp only [Option.some.injEq, Prod.mk.injEq, reduceCtorEq] at h <;>
    obtain ⟨-, rfl⟩ := h <;>
    exact ⟨by simp [List.suffix_cons_iff], by simp only [List.length_cons]; omega⟩

namespace Condition

theorem comparison?_advances : Reader.Advances comparison? := by
  intro s c rest h
  simp only [comparison?, Option.bind_eq_bind, Option.bind_eq_some_iff, Option.some.injEq,
    Prod.exists, Prod.mk.injEq] at h
  obtain ⟨left, afterLeft, hleft, op, afterOp, hop, right, afterRight, hright, -, rfl⟩ := h
  have h1 := path?_advances hleft
  have h2 := comparator?_advances hop
  have h3 := path?_advances hright
  have s1 := Text.skipSpace_suffix afterLeft
  have s2 := Text.skipSpace_suffix afterOp
  have := s1.length_le
  have := s2.length_le
  exact ⟨h3.1.trans (s2.trans (h2.1.trans (s1.trans h1.1))), by omega⟩

theorem oneOrJoined_advances {sign : Text} {join : Condition → Condition → Condition}
    {operand : Reader Condition} (hoperand : operand.Advances) :
    Reader.Advances (oneOrJoined sign join operand) := by
  intro s c rest h
  simp only [oneOrJoined, Option.bind_eq_bind, Option.bind_eq_some_iff, Prod.exists] at h
  obtain ⟨left, afterLeft, hleft, h⟩ := h
  have h1 := hoperand hleft
  split at h
  · -- No sign follows, so the first operand is all there is.
    simp only [Option.some.injEq, Prod.mk.injEq] at h
    rw [← h.2]
    exact h1
  · -- Each reader leaves a suffix of what the one before it left.
    rename_i afterSign hsign
    simp only [Option.bind_eq_some_iff, Option.some.injEq, Prod.exists, Prod.mk.injEq] at h
    obtain ⟨right, afterRight, hright, -, rfl⟩ := h
    rw [Text.word?_eq_some_iff] at hsign
    have h2 := hoperand hright
    have s1 := Text.skipSpace_suffix afterLeft
    have s2 := Text.skipSpace_suffix afterSign
    rw [hsign] at s1
    have s1 := (List.suffix_append sign afterSign).trans s1
    have := s1.length_le
    have := s2.length_le
    exact ⟨h2.1.trans (s2.trans (s1.trans h1.1)), by omega⟩

theorem termOf_advances {factor : Reader Condition} (h : factor.Advances) :
    Reader.Advances (termOf factor) :=
  oneOrJoined_advances h

theorem conditionOf_advances {factor : Reader Condition} (h : factor.Advances) :
    Reader.Advances (conditionOf factor) :=
  oneOrJoined_advances (termOf_advances h)

theorem factor?_advances (allowance : Nat) : Reader.Advances (factor? allowance) := by
  induction allowance with
  | zero => exact comparison?_advances
  | succ allowance ih =>
    intro s c rest h
    unfold factor? at h
    split at h
    · exact absurd ‹allowance + 1 = 0› (Nat.succ_ne_zero _)
    · -- A group: white space, a condition, white space and the closing parenthesis.
      rename_i n inner hn
      cases hn
      simp only [Option.bind_eq_bind, Option.bind_eq_some_iff, Option.some.injEq,
        Prod.exists, Prod.mk.injEq] at h
      obtain ⟨c', left, hinner, left', hclose, -, rfl⟩ := h
      have h1 := conditionOf_advances ih hinner
      have h2 := Text.skipSpace_suffix left
      have h3 := Text.skipSpace_suffix inner
      rw [Text.suffix_of_char? hclose] at h2
      have h2 := (List.suffix_cons _ _).trans h2
      have := h2.length_le
      have := h3.length_le
      exact ⟨h2.trans (h1.1.trans (h3.trans (List.suffix_cons _ _))), by
        simp only [List.length_cons]; omega⟩
    · -- A negation: white space and one factor.
      rename_i n inner hn
      cases hn
      simp only [Option.bind_eq_bind, Option.bind_eq_some_iff, Option.some.injEq,
        Prod.exists, Prod.mk.injEq] at h
      obtain ⟨c', left, hinner, -, rfl⟩ := h
      have h1 := ih hinner
      have h3 := Text.skipSpace_suffix inner
      have := h3.length_le
      exact ⟨h1.1.trans (h3.trans (List.suffix_cons _ _)), by
        simp only [List.length_cons]; omega⟩
    · exact comparison?_advances h

theorem condition?_advances (allowance : Nat) : Reader.Advances (condition? allowance) :=
  conditionOf_advances (factor?_advances allowance)

end Condition

end Stencil
