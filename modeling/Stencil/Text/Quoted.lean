import Stencil.Text.Basic
import Stencil.Text.Class

/-!
# `Stencil.Text.Quoted`: texts between quotes

The outline of a template and the messages about settings show a text between
quotes, on one line, with everything escaped that could not be told apart or would
break the line. Single quotes enclose it, unless the text has a single quote and no
double quote; then double quotes do, so that the common case needs no escape.
-/

set_option autoImplicit false

namespace Stencil.Text

/-- The quote that encloses a text. -/
def quoteMark (s : Text) : Char :=
  if s.contains '\'' && !s.contains '"' then '"' else '\''

/-- A number in lower-case hexadecimal, filled up with zeros to a least width. -/
def hex (width n : Nat) : Text :=
  let digits := Nat.toDigits 16 n
  List.replicate (width - digits.length) '0' ++ digits

/-- How a quoted text shows one character: the enclosing quote and the backslash
after a backslash, the tab and the two line ends by their letters, whatever else
cannot be printed by its code point, and all other characters as they are. -/
def escape (mark c : Char) : Text :=
  if c = mark ∨ c = '\\' then ['\\', c]
  else if c = '\n' then ['\\', 'n']
  else if c = '\r' then ['\\', 'r']
  else if c = '\t' then ['\\', 't']
  else if isPrintable c then [c]
  else if c.toNat < 0x100 then '\\' :: 'x' :: hex 2 c.toNat
  else if c.toNat < 0x10000 then '\\' :: 'u' :: hex 4 c.toNat
  else '\\' :: 'U' :: hex 8 c.toNat

/-- A text between quotes, with escapes. -/
def quoted (s : Text) : Text :=
  let mark := quoteMark s
  mark :: s.flatMap (escape mark) ++ [mark]

end Stencil.Text
