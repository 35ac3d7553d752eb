import Stencil.Number.Integer
import Stencil.Number.Shortest
import Stencil.Text.Quoted

/-!
# `Stencil.Settings.Value`: the values of a settings document

A settings document may hold any value: a file is free to put a list where a truth
value belongs. This module has these values, the way messages show them, and the
equality by which a mapping may not have the same key twice.
-/

set_option autoImplicit false

namespace Stencil

/-- A value in a settings document. A mapping keeps the order of its entries. -/
inductive Value where
  | null
  | bool (b : Bool)
  | integer (n : Int)
  | real (x : Float)
  | text (s : Text)
  | list (items : List Value)
  | map (entries : List (Value × Value))
  /-- A value of any further kind, such as a date or a set. All that matters of it is
  how a message shows it, if one can, and whether it counts as false. -/
  | other (shown : Option Text) (falsy : Bool)
  deriving Repr

namespace Value

/-- How the digits of a positive number are written. The point stands among the
digits, with at least one digit on either side, while the leading digit has an
exponent from -4 to 15; beyond that the exponent is written out with a sign and at
least two digits, and the point only where more digits follow the first. -/
def showDigits (d : Digits) : Text :=
  let leading := d.point - 1
  if -4 ≤ leading ∧ leading < 16 then
    if d.point ≤ 0 then
      '0' :: '.' :: List.replicate (-d.point).toNat '0' ++ d.digits
    else
      let before := d.point.toNat
      let whole := d.digits.take before ++ List.replicate (before - d.digits.length) '0'
      let part := d.digits.drop before
      whole ++ '.' :: (if part.isEmpty then ['0'] else part)
  else
    let mantissa := match d.digits with
      | first :: second :: more => first :: '.' :: second :: more
      | digits => digits
    let size := Nat.toDigits 10 leading.natAbs
    mantissa ++ 'e' :: (if leading < 0 then '-' else '+') ::
      (List.replicate (2 - size.length) '0' ++ size)

/-- How a floating-point number is written: the fewest digits that read back. Zero
keeps its sign. -/
def showReal (x : Float) : Text :=
  match Binary.ofFloat x with
  | .notANumber => "nan".toList
  | .infinite negative => (if negative then "-inf" else "inf").toList
  | .finite negative mantissa exponent =>
    let size :=
      if mantissa = 0 then ['0', '.', '0']
      else showDigits (Binary.reach mantissa exponent).shortest
    if negative then '-' :: size else size

/-- Sets texts one after the other, with a comma and a blank between them. -/
def commas (items : List Text) : Text :=
  List.intercalate [',', ' '] items

mutual

/-- How a message shows a value. None can if an integer in it is not written out. -/
def describe? : Value → Option Text
  | .null => some "None".toList
  | .bool b => some (if b then "True" else "False").toList
  | .integer n => Integer.written? n
  | .real x => some (showReal x)
  | .text s => some (Text.quoted s)
  | .list items => do
    let items ← describeAll? items
    some ('[' :: commas items ++ [']'])
  | .map entries => do
    let entries ← describeEntries? entries
    some ('\x7b' :: commas entries ++ ['\x7d'])
  | .other shown _ => shown

/-- How a message shows several values. -/
def describeAll? : List Value → Option (List Text)
  | [] => some []
  | v :: rest => do
    let shown ← v.describe?
    let more ← describeAll? rest
    some (shown :: more)

/-- How a message shows the entries of a mapping. A list in the place of a key is
shown in parentheses, and with a comma after it if it has one item only. -/
def describeEntries? : List (Value × Value) → Option (List Text)
  | [] => some []
  | (.list items, value) :: rest => do
    let items ← describeAll? items
    let key := match items with
      | [item] => '(' :: item ++ [',', ')']
      | items => '(' :: commas items ++ [')']
    let shown ← value.describe?
    let more ← describeEntries? rest
    some ((key ++ [':', ' '] ++ shown) :: more)
  | (key, value) :: rest => do
    let key ← key.describe?
    let shown ← value.describe?
    let more ← describeEntries? rest
    some ((key ++ [':', ' '] ++ shown) :: more)

end

/-- The value counts as false where a truth value is asked for: nothing, false,
zero, and whatever is empty. -/
def isFalsy : Value → Bool
  | .null => true
  | .bool b => !b
  | .integer n => n = 0
  | .real x => x == 0
  | .text s => s.isEmpty
  | .list items => items.isEmpty
  | .map entries => entries.isEmpty
  | .other _ falsy => falsy

/-- The integer that a value stands for as a key. A truth value is one or zero, and
a floating-point number may be an integer too. -/
def keyInteger? : Value → Option Int
  | .bool b => some (if b then 1 else 0)
  | .integer n => some n
  | .real x => (Binary.ofFloat x).toInt?
  | _ => none

mutual

/-- Two values are the same key. Numbers are compared by what they denote, whatever
their kind, and what is not a number differs from itself. -/
def sameKey : Value → Value → Bool
  | .null, .null => true
  | .text s, .text t => s = t
  | .list xs, .list ys => sameKeys xs ys
  | .real x, .real y => x == y
  | .other s _, .other t _ => s = t
  | a, b =>
    match a.keyInteger?, b.keyInteger? with
    | some m, some n => m = n
    | _, _ => false

/-- Two lists are the same key, item by item. -/
def sameKeys : List Value → List Value → Bool
  | [], [] => true
  | x :: xs, y :: ys => x.sameKey y && sameKeys xs ys
  | _, _ => false

end

/-- The value under a text as key. -/
def lookup? (key : Text) : List (Value × Value) → Option Value
  | [] => none
  | (.text k, value) :: rest => if k = key then some value else lookup? key rest
  | _ :: rest => lookup? key rest

end Value

end Stencil
