/-!
# `Stencil.Number.Binary`: what a floating-point number stands for

A double is taken apart into what it denotes: an infinity, no number at all, or a
sign with a natural number times a power of two. From there on everything is exact
arithmetic. `Binary.reach` gives the real numbers that read as the same double: the
double itself, and on either side half the way to its neighbour.
-/

set_option autoImplicit false

namespace Stencil

/-- What a double denotes. -/
inductive Binary where
  | infinite (negative : Bool)
  | notANumber
  /-- The number `mantissa * 2 ^ exponent`, perhaps negated. -/
  | finite (negative : Bool) (mantissa : Nat) (exponent : Int)
  deriving DecidableEq, Repr

namespace Binary

/-- The least exponent a double can have. -/
def leastExponent : Int := -1074

/-- Takes a double apart, from its sign bit, its eleven exponent bits and its
fifty-two mantissa bits. -/
def ofFloat (x : Float) : Binary :=
  let bits : Nat := x.toBits.toNat
  let negative := bits / Nat.pow 2 63 = 1
  let exponent : Nat := bits / Nat.pow 2 52 % Nat.pow 2 11
  let fraction : Nat := bits % Nat.pow 2 52
  if exponent = 2047 then
    if fraction = 0 then .infinite negative else .notANumber
  else if exponent = 0 then .finite negative fraction leastExponent
  else .finite negative (Nat.pow 2 52 + fraction) (leastExponent - 1 + (exponent : Int))

/-- The integer that a double denotes, if it denotes one. -/
def toInt? : Binary → Option Int
  | .finite negative mantissa exponent =>
    let down : Nat := Nat.pow 2 (-exponent).toNat
    if mantissa % down = 0 then
      let size : Nat := mantissa * Nat.pow 2 exponent.toNat / down
      some (if negative then -(size : Int) else size)
    else none
  | _ => none

/-- The numbers that read as one double: an interval around it, as fractions over
one denominator. The ends belong to it if the mantissa is even. -/
structure Reach where
  low : Nat
  middle : Nat
  high : Nat
  denominator : Nat
  closed : Bool
  deriving DecidableEq, Repr

/-- The reach of `mantissa * 2 ^ exponent`, counted in quarters of its last place.
Below the least mantissa of an exponent the neighbour is only half as far. -/
def reach (mantissa : Nat) (exponent : Int) : Reach :=
  let below := if mantissa = Nat.pow 2 52 ∧ leastExponent < exponent then 1 else 2
  let quarter := exponent - 2
  let scale := Nat.pow 2 quarter.toNat
  { low := (4 * mantissa - below) * scale
    middle := 4 * mantissa * scale
    high := (4 * mantissa + 2) * scale
    denominator := Nat.pow 2 (-quarter).toNat
    closed := mantissa % 2 = 0 }

end Binary

end Stencil
