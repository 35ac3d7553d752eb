import Stencil.Number.Binary

/-!
# `Stencil.Number.Shortest`: the fewest digits that read back

Between a double and its neighbours lie decimal numbers that all read as that
double. This module finds those with the fewest digits, and among them the one
nearest to the double. For one digit, two digits and so on it looks at the two
numbers of that many digits on either side of the double. Seventeen digits always
suffice. All arithmetic is on natural numbers and exact.

How the digits are then written, with a point or with an exponent, is for the
module that writes a value to say.
-/

set_option autoImplicit false

namespace Stencil

/-- A positive decimal number: `0.d₁d₂d₃…` times `10 ^ point`, for its digits. -/
structure Digits where
  digits : List Char
  point : Int
  deriving DecidableEq, Repr

namespace Binary.Reach

/-- Compares `digits * 10 ^ exponent` with a fraction over the denominator of the
reach. -/
def compareAt (r : Reach) (digits : Nat) (exponent : Int) (fraction : Nat) : Ordering :=
  compare (digits * Nat.pow 10 exponent.toNat * r.denominator)
    (fraction * Nat.pow 10 (-exponent).toNat)

/-- The number `digits * 10 ^ exponent` lies within reach. -/
def covers (r : Reach) (digits : Nat) (exponent : Int) : Bool :=
  if r.closed then
    r.compareAt digits exponent r.low != .lt && r.compareAt digits exponent r.high != .gt
  else
    r.compareAt digits exponent r.low == .gt && r.compareAt digits exponent r.high == .lt

/-- How many digits stand before the point in the middle of the reach, negative for
zeros after it. The power of ten keeps even the smallest double above one. -/
def magnitude (r : Reach) : Int :=
  (Nat.toDigits 10 (r.middle * Nat.pow 10 400 / r.denominator)).length - (400 : Int)

/-- A number of so many digits within reach: of the two that lie on either side of
the middle the one within reach, and of two within reach the nearer. On a tie the
even one is taken. -/
def withDigits? (r : Reach) (count : Nat) : Option (Nat × Int) :=
  let exponent := r.magnitude - count
  let below := r.middle * Nat.pow 10 (-exponent).toNat /
    (r.denominator * Nat.pow 10 exponent.toNat)
  match r.covers below exponent, r.covers (below + 1) exponent with
  | false, false => none
  | true, false => some (below, exponent)
  | false, true => some (below + 1, exponent)
  | true, true =>
    match r.compareAt (2 * below + 1) exponent (2 * r.middle) with
    | .gt => some (below, exponent)
    | .lt => some (below + 1, exponent)
    | .eq => some (if below % 2 = 0 then below else below + 1, exponent)

/-- The shortest number within reach, without zeros at its end. -/
def shortest (r : Reach) : Digits :=
  let (number, exponent) := ((List.range 17).findSome? fun n => r.withDigits? (n + 1)).getD (0, 0)
  let all := Nat.toDigits 10 number
  { digits := (all.reverse.dropWhile (· = '0')).reverse
    point := all.length + exponent }

end Binary.Reach

end Stencil
