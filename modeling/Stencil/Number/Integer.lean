import Stencil.Text.Basic

/-!
# `Stencil.Number.Integer`: integers in messages

The offsets and counts in a message are small. Other integers come from outside and
may have any number of digits, and a message that shows one is as long as the number
is. So an integer is written out up to `Integer.digitLimit` digits and no further. A
message with a longer one in it cannot be given.
-/

set_option autoImplicit false

namespace Stencil.Integer

/-- How many digits are written out at most. A sign is not one of them. -/
def digitLimit : Nat := 4300

/-- The integer has more digits than are written out. -/
def IsLong (n : Int) : Prop :=
  digitLimit < (Nat.toDigits 10 n.natAbs).length

instance (n : Int) : Decidable (IsLong n) :=
  inferInstanceAs (Decidable (digitLimit < (Nat.toDigits 10 n.natAbs).length))

/-- How an integer is written, unless it is too long for that. -/
def written? (n : Int) : Option Text :=
  if IsLong n then none else some (toString n).toList

theorem written?_eq_none_iff {n : Int} : written? n = none ↔ IsLong n := by
  unfold written?
  split <;> simp [*]

/-- A number has more than `k` digits from the `k`-th power of ten on. -/
theorem lt_length_toDigits_iff {n k : Nat} (hk : 0 < k) :
    k < (Nat.toDigits 10 n).length ↔ Nat.pow 10 k ≤ n := by
  rw [← Nat.not_le, Nat.length_toDigits_le_iff (by decide) hk]
  exact Nat.not_lt

/-- The long integers are those from a power of ten on, in either direction. -/
theorem isLong_iff {n : Int} : IsLong n ↔ Nat.pow 10 digitLimit ≤ n.natAbs :=
  lt_length_toDigits_iff (by decide)

/-- The negative number that this power of ten gives is long. -/
theorem isLong_neg_pow : IsLong (-(Nat.pow 10 digitLimit)) := by
  have hsize : (-(Nat.pow 10 digitLimit) : Int).natAbs = Nat.pow 10 digitLimit := by
    rw [Int.natAbs_neg, Int.natAbs_natCast]
  exact isLong_iff.mpr (Nat.le_of_eq hsize.symm)

/-- An integer of a few digits is written out. -/
theorem not_isLong_of_natAbs_lt {n : Int} (h : n.natAbs < 1000) : ¬ IsLong n := by
  have hlength : (Nat.toDigits 10 n.natAbs).length ≤ 3 :=
    (Nat.length_toDigits_le_iff (by decide) (by decide)).mpr h
  exact Nat.not_lt.mpr (Nat.le_trans hlength (by decide))

end Stencil.Integer
