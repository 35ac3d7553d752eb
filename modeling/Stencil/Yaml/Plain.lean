import Stencil.Yaml.Place
import Stencil.Number.Decimal
import Stencil.Settings.Value

/-!
# `Stencil.Yaml.Plain`: scalars without quotes

A plain scalar is a run of words. It may go over several lines, and is then joined
again: one line break becomes a blank, and each further one a line break. It ends
before a comment, before a colon that counts, and where a line is not indented
enough to belong to it. Inside brackets it ends before brackets and commas as well.

What a plain scalar means depends on its form: nothing, a truth value, an integer or
a floating-point number, each in a few spellings, and a text in all other cases.
-/

set_option autoImplicit false

namespace Stencil.Yaml

/-! ### Words and the gaps between them -/

/-- The brackets and the comma, which end a plain scalar inside brackets. -/
def isFlowSign (c : Char) : Bool :=
  c = ',' || c = '[' || c = ']' || c = '\x7b' || c = '\x7d'

/-- The characters that cannot begin a plain scalar. -/
def isReserved (c : Char) : Bool :=
  isFlowSign c || c = '#' || c = '&' || c = '*' || c = '!' || c = '|' || c = '>' ||
    c = '\'' || c = '"' || c = '%' || c = '@' || c = '\x60'

/-- A plain scalar may begin here. Three indicators may begin one if they do not
count as indicators. -/
def beginsPlain (inBrackets : Bool) : Text → Bool
  | [] => false
  | c :: rest =>
    if c = '-' then !endsWord rest
    else if c = '?' || c = ':' then !inBrackets && !endsWord rest
    else !isBlank c && !isBreak c && !isReserved c

/-- Takes one word of a plain scalar, perhaps an empty one. Inside brackets a colon
right before a bracket or comma is refused. -/
def plainWord? (inBrackets : Bool) : Reader Text
  | [] => some ([], [])
  | c :: rest =>
    if isBlank c || isBreak c || (c = ':' && endsWord rest) || (inBrackets && isFlowSign c) then
      some ([], c :: rest)
    else if inBrackets && c = ':' && rest.head?.any (fun d => isFlowSign d || d = '?') then none
    else (plainWord? inBrackets rest).map fun (word, rest) => (c :: word, rest)

/-- What parts two words: blanks, or so many line breaks. -/
structure Between where
  blanks : Text
  breaks : Nat
  after : Place

/-- How the gap between two words is joined. -/
def Between.joined (g : Between) : Text :=
  match g.breaks with
  | 0 => g.blanks
  | 1 => [' ']
  | more + 2 => List.replicate (more + 1) '\n'

/-- Takes the gap between two words. A tab that would stand for indentation is
refused. -/
def between? (indent : Int) (p : Place) : Option Between :=
  go [] 0 p.line p.column p.rest
where
  /-- Follows the gap with the blanks so far, latest first, and the breaks so far. -/
  go (blanks : Text) (breaks line column : Nat) : Text → Option Between
    | [] => some ⟨blanks.reverse, breaks, ⟨line, column, []⟩⟩
    | c :: rest =>
      if isBreak c then go [] (breaks + 1) (line + 1) 0 rest
      else if isBlank c then
        if breaks = 0 then go (c :: blanks) 0 line (column + 1) rest
        else if c = '\t' && (column : Int) < indent then none
        else go [] breaks line (column + 1) rest
      else some ⟨blanks.reverse, breaks, ⟨line, column, c :: rest⟩⟩

/-- Takes the words that follow the first one of a plain scalar, each with the gap
before it, for at most so many words. -/
def plainWords? (inBrackets : Bool) (indent : Int) : Nat → Place → Option (Text × Place)
  | 0, p => some ([], p)
  | count + 1, p => do
    let gap ← between? indent p
    let q := gap.after
    if q.atEnd || q.atBoundary || q.rest.head? = some '#' ||
        (!inBrackets && (q.column : Int) < indent) then
      some ([], p)
    else do
      let (word, _) ← plainWord? inBrackets q.rest
      if word.isEmpty then some ([], p)
      else do
        let (words, stop) ← plainWords? inBrackets indent count (q.forward word.length)
        some (gap.joined ++ word ++ words, stop)

/-- Takes a plain scalar whose further lines are indented at least so much. Gives
its text and the place right after its last word. -/
def plain? (inBrackets : Bool) (indent : Int) (p : Place) : Option (Text × Place) :=
  if beginsPlain inBrackets p.rest then do
    let (word, _) ← plainWord? inBrackets p.rest
    let (words, stop) ←
      plainWords? inBrackets indent p.rest.length (p.forward word.length)
    some (word ++ words, stop)
  else none

/-! ### What a plain scalar means -/

/-- A digit of a base up to sixteen. -/
def isDigitOf (base : Nat) (c : Char) : Bool :=
  if c.isDigit then c.toNat - '0'.toNat < base
  else base = 16 && (('a' ≤ c && c ≤ 'f') || ('A' ≤ c && c ≤ 'F'))

/-- Reads digits of a base. Low lines may stand among them and do not count. -/
def digits? (base : Nat) (s : Text) : Option Nat :=
  let digits := s.filter (· != '_')
  if digits.isEmpty || !digits.all (isDigitOf base) then none
  else some (Decimal.value base digits)

/-- Reads the size of an integer: decimal, or in another base after `0b`, `0o` or
`0x`. Zeros in front of a decimal number mean nothing. -/
def integerSize? : Text → Option Nat
  | '0' :: 'b' :: digits => digits? 2 digits
  | '0' :: 'o' :: digits => digits? 8 digits
  | '0' :: 'x' :: digits => digits? 16 digits
  | digits => digits? 10 digits

/-- Reads an integer. It begins with a digit or a sign. -/
def integer? (s : Text) : Option Int :=
  let (negative, size) := Decimal.sign s
  if s.head? = some '_' then none
  else (integerSize? size).map fun n => if negative then -(n : Int) else n

/-- Reads a floating-point number: an infinity, no number, or digits with a point
or an exponent or both. Where no digit stands before the point, an exponent needs a
sign. -/
def real? (s : Text) : Option Float :=
  let (_, size) := Decimal.sign s
  let word := String.ofList size
  if word = ".inf" ∨ word = ".Inf" ∨ word = ".INF" then
    Decimal.float? (s.filter (· != '.'))
  else if s = ".nan".toList ∨ s = ".NaN".toList ∨ s = ".NAN".toList then
    Decimal.float? (s.filter (· != '.'))
  else
    let isPart := fun c : Char => c.isDigit || c = '_'
    let whole := size.takeWhile isPart
    let rest := size.dropWhile isPart
    let (point, rest) := match rest with
      | '.' :: rest => (true, rest.dropWhile isPart)
      | rest => (false, rest)
    let signed := match rest with
      | _ :: c :: _ => c = '-' || c = '+'
      | _ => false
    if whole.head? = some '_' then none
    else if rest.isEmpty && !point then none
    else if whole.isEmpty && !rest.isEmpty && !signed then none
    else if rest.contains '_' then none
    else (Decimal.read? (s.filter (· != '_'))).map Decimal.toFloat

/-- What a plain scalar means. -/
def plainValue (s : Text) : Value :=
  let word := String.ofList s
  if word = "~" ∨ word = "null" ∨ word = "Null" ∨ word = "NULL" then .null
  else if word = "true" ∨ word = "True" ∨ word = "TRUE" then .bool true
  else if word = "false" ∨ word = "False" ∨ word = "FALSE" then .bool false
  else match real? s with
    | some x => .real x
    | none =>
      match integer? s with
      | some n => .integer n
      | none => .text s

end Stencil.Yaml
