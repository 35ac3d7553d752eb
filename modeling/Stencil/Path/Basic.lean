import Stencil.Text.Class

/-!
# `Stencil.Path.Basic`: paths and how they are written

A path names a value by a chain: a head, then members reached one from the other,
any of which may be a call without arguments, as in `user.name().first`. The head
is never a call.
-/

set_option autoImplicit false

namespace Stencil

/-- A member in a path, perhaps a call. -/
structure Segment where
  name : Text
  call : Bool := false
  deriving DecidableEq, Repr

/-- A head and the members that follow it. -/
structure Path where
  head : Text
  segments : List Segment := []
  deriving DecidableEq, Repr

/-- A member is written as its name, and a call has an empty pair of parentheses
after it. -/
def Segment.print (s : Segment) : Text :=
  if s.call then s.name ++ ['(', ')'] else s.name

/-- A path is written as its head and its members, each after a dot. -/
def Path.print (p : Path) : Text :=
  p.head ++ p.segments.flatMap fun s => '.' :: s.print

/-- All names of the path are identifiers. -/
def Path.isLexical (p : Path) : Bool :=
  Text.isIdentifier p.head && p.segments.all fun s => Text.isIdentifier s.name

end Stencil
