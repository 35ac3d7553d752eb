import Stencil.Path.Basic

/-!
# `Stencil.Condition.Basic`: conditions

A condition decides whether the body of a conditional is shown. It compares two
paths, or joins or negates conditions. Parentheses leave no trace in it: they only
say how the parts belong together.
-/

set_option autoImplicit false

namespace Stencil

/-- How two values are compared. -/
inductive Comparator where
  | equal
  | notEqual
  | greater
  | greaterOrEqual
  | less
  | lessOrEqual
  deriving DecidableEq, Repr

/-- The sign of a comparison. -/
def Comparator.symbol : Comparator → Text
  | .equal => ['=', '=']
  | .notEqual => ['!', '=']
  | .greater => ['>']
  | .greaterOrEqual => ['>', '=']
  | .less => ['<']
  | .lessOrEqual => ['<', '=']

/-- A condition over the values that paths name. -/
inductive Condition where
  | compare (left : Path) (op : Comparator) (right : Path)
  | not (inner : Condition)
  | and (left right : Condition)
  | or (left right : Condition)
  deriving DecidableEq, Repr

namespace Condition

/-- The condition is a comparison of two paths. -/
def isComparison : Condition → Bool
  | .compare .. => true
  | _ => false

/-- The condition joins two conditions. -/
def isJoin : Condition → Bool
  | .and .. | .or .. => true
  | _ => false

/-- The sign that joins the two halves of a condition, if it has halves. -/
def symbol? : Condition → Option Text
  | .and .. => some ['&', '&']
  | .or .. => some ['|', '|']
  | _ => none

/-- All names in the condition are identifiers. -/
def isLexical : Condition → Bool
  | .compare left _ right => left.isLexical && right.isLexical
  | .not inner => inner.isLexical
  | .and left right | .or left right => left.isLexical && right.isLexical

end Condition

end Stencil
