import Stencil.Yaml.Place
import Stencil.Number.Decimal

/-!
# `Stencil.Yaml.Quoted`: scalars between quotes

A scalar between single quotes holds everything as it is, and a quote in it is
written twice. Between double quotes a backslash begins an escape. Either may go
over several lines, which are joined as those of a plain scalar are: the blanks
around the line breaks go, one break becomes a blank, and each further one stays a
line break. A backslash at the end of a line takes that break away.
-/

set_option autoImplicit false

namespace Stencil.Yaml

/-- The characters that a backslash and one letter stand for. -/
def shortEscape? (c : Char) : Option Char :=
  match c with
  | '0' => some '\x00'
  | 'a' => some '\x07'
  | 'b' => some '\x08'
  | 't' | '\t' => some '\t'
  | 'n' => some '\n'
  | 'v' => some '\x0b'
  | 'f' => some '\x0c'
  | 'r' => some '\r'
  | 'e' => some '\x1b'
  | ' ' | '"' | '/' | '\\' => some c
  | 'N' => some '\u0085'
  | '_' => some '\u00a0'
  | 'L' => some '\u2028'
  | 'P' => some '\u2029'
  | _ => none

/-- How many hexadecimal digits follow the letter of a long escape. -/
def escapeWidth? (c : Char) : Option Nat :=
  match c with
  | 'x' => some 2
  | 'u' => some 4
  | 'U' => some 8
  | _ => none

/-- The character with a number, if there is one. -/
def charOf? (n : Nat) : Option Char :=
  if n.isValidChar then some (Char.ofNat n) else none

/-- Reads an escape from the character after the backslash on: the character it
stands for and how many characters it has after the backslash. -/
def escape? : Text → Option (Char × Nat)
  | [] => none
  | c :: rest =>
    match shortEscape? c, escapeWidth? c with
    | some d, _ => some (d, 1)
    | none, some width =>
      let digits := rest.take width
      let isHex := fun d : Char =>
        d.isDigit || ('a' ≤ d && d ≤ 'f') || ('A' ≤ d && d ≤ 'F')
      if digits.length = width && digits.all isHex then
        (charOf? (Decimal.value 16 digits)).map fun d => (d, width + 1)
      else none
    | none, none => none

/-- What has gathered since the last character that counts: blanks, latest first, or
line breaks. `escaped` says that a backslash took the first break away. -/
structure Fold where
  blanks : Text := []
  breaks : Nat := 0
  escaped : Bool := false

/-- What the gathered blanks or breaks become, latest first. -/
def Fold.joined (f : Fold) : Text :=
  match f.breaks, f.escaped with
  | 0, _ => f.blanks
  | more + 1, true => List.replicate more '\n'
  | 1, false => [' ']
  | more + 2, false => List.replicate (more + 1) '\n'

/-- Takes a quoted scalar from the character after its opening quote on, with the
text so far, latest character first. A line that looks like the beginning or end of
a document is refused. -/
def quoted? (mark : Char) (taken : Text) (fold : Fold) (p : Place) : Option (Text × Place) :=
  match _hrest : p.rest with
  | [] => none
  | c :: rest =>
    if p.atBoundary then none
    else if isBreak c then
      quoted? mark taken { fold with blanks := [], breaks := fold.breaks + 1 } p.step
    else if isBlank c then
      if fold.breaks = 0 then quoted? mark taken { fold with blanks := c :: fold.blanks } p.step
      else quoted? mark taken fold p.step
    else if c = mark then
      if mark = '\'' && rest.head? = some '\'' then
        quoted? mark (mark :: fold.joined ++ taken) {} (p.forward 2)
      else some ((fold.joined ++ taken).reverse, p.step)
    else if c = '\\' && mark = '"' then
      if rest.head?.any isBreak then
        quoted? mark (fold.joined ++ taken) { breaks := 1, escaped := true } p.step.step
      else
        match escape? rest with
        | none => none
        | some (d, width) =>
          quoted? mark (d :: fold.joined ++ taken) {} (p.forward (width + 1))
    else quoted? mark (c :: fold.joined ++ taken) {} p.step
termination_by p.rest.length
decreasing_by
  · exact Place.length_step_lt _hrest
  · exact Place.length_step_lt _hrest
  · exact Place.length_step_lt _hrest
  · exact Place.length_forward_lt _hrest 1
  · exact Nat.lt_of_le_of_lt (Place.length_step_le _) (Place.length_step_lt _hrest)
  · exact Place.length_forward_lt _hrest width
  · exact Place.length_step_lt _hrest

end Stencil.Yaml
