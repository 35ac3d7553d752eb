import Stencil.Text.Basic

/-!
# `Stencil.Number.Decimal`: reading decimal numbers

A decimal number is a run of digits, perhaps with a point in it, and perhaps with
an exponent. `Decimal.read?` takes one apart and `Decimal.toFloat` gives the double
nearest to it.
-/

set_option autoImplicit false

namespace Stencil

/-- The number `digits * 10 ^ exponent`, perhaps negated. -/
structure Decimal where
  negative : Bool
  digits : Nat
  exponent : Int
  deriving DecidableEq, Repr

namespace Decimal

/-- The value of a run of digits in a base, read from the left. -/
def value (base : Nat) (digits : Text) : Nat :=
  digits.foldl (fun n c => n * base + (if c.isDigit then c.toNat - '0'.toNat
    else c.toLower.toNat - 'a'.toNat + 10)) 0

/-- Takes a sign off the front, if there is one, and says whether it is a minus. -/
def sign : Text → Bool × Text
  | '-' :: rest => (true, rest)
  | '+' :: rest => (false, rest)
  | s => (false, s)

/-- Reads what may follow the digits of a number: nothing, or the letter `e` and an
exponent. -/
def exponent? : Text → Option Int
  | [] => some 0
  | c :: rest =>
    let (negative, digits) := sign rest
    if (c = 'e' ∨ c = 'E') ∧ digits ≠ [] ∧ digits.all Char.isDigit then
      some (if negative then -(value 10 digits : Int) else value 10 digits)
    else none

/-- Reads a text as a decimal number. There must be a digit before the exponent. -/
def read? (s : Text) : Option Decimal :=
  let (negative, s) := sign s
  let whole := s.takeWhile Char.isDigit
  let rest := s.dropWhile Char.isDigit
  let (part, rest) :=
    match rest with
    | '.' :: rest => (rest.takeWhile Char.isDigit, rest.dropWhile Char.isDigit)
    | _ => ([], rest)
  if whole ++ part = [] then none
  else (exponent? rest).map fun exponent =>
    { negative
      digits := value 10 (whole ++ part)
      exponent := exponent - part.length }

/-- Beyond this power of ten every double is zero or infinite. -/
def farExponent : Int := 400

/-- The double nearest to a decimal number. -/
def toFloat (d : Decimal) : Float :=
  let reaches := (Nat.toDigits 10 d.digits).length + d.exponent
  let size : Float :=
    if d.digits = 0 ∨ reaches < -farExponent then 0.0
    else if farExponent < reaches then 1.0 / 0.0
    else Float.ofScientific d.digits (d.exponent < 0) d.exponent.natAbs
  if d.negative then -size else size

/-- Reads a text as a double: a decimal number, or the word for an infinity or for
what is no number, with a sign if there is one. -/
def float? (s : Text) : Option Float :=
  let (negative, size) := sign s
  let word := String.ofList (size.map Char.toLower)
  if word = "inf" ∨ word = "infinity" then
    some (if negative then -(1.0 / 0.0) else 1.0 / 0.0)
  else if word = "nan" then some (0.0 / 0.0)
  else (read? s).map toFloat

end Decimal

end Stencil
