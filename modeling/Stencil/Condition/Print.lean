import Stencil.Condition.Basic

/-!
# `Stencil.Condition.Print`: the canonical form of a condition

A condition is written back with one blank on either side of `&&` and `||` and none
anywhere else. The grammar allows one `&&` and one `||` a level, so a half that is
itself a join always goes between parentheses, and so does whatever is negated and
is not a comparison.
-/

set_option autoImplicit false

namespace Stencil

/-- Puts a text between parentheses where that is asked for. -/
def enclose (wanted : Bool) (s : Text) : Text :=
  if wanted then '(' :: s ++ [')'] else s

/-- The canonical form of a condition. -/
def Condition.print : Condition → Text
  | .compare left op right => left.print ++ op.symbol ++ right.print
  | .not inner => '!' :: enclose (!inner.isComparison) inner.print
  | .and left right =>
    enclose left.isJoin left.print ++ [' ', '&', '&', ' '] ++ enclose right.isJoin right.print
  | .or left right =>
    enclose left.isJoin left.print ++ [' ', '|', '|', ' '] ++ enclose right.isJoin right.print

end Stencil
