import Stencil.Template.Node

/-!
# `Stencil.Template.Source`: trees as template source and as text

`Node.source` writes a tree back as a template. Conditions and paths come out in
their canonical form, so the blanks that stood inside a construct are gone, while
literal text comes out as it was. `Node.text` keeps the literal text and nothing
else.

A bare node has no written form. `Node.source?` therefore gives an error for a tree
that has one anywhere.
-/

set_option autoImplicit false

namespace Stencil.Node

mutual

/-- The template source of a tree. -/
def source : Node Text → Text
  | .literal text => text
  | .interpolation path none => ['%', '\x7b'] ++ path.print ++ ['\x7d']
  | .interpolation path (some name) =>
    ['%', '\x7b'] ++ path.print ++ [' '] ++ name ++ ['\x7d']
  | .conditional condition children =>
    ['<', '#', 'i', 'f', '('] ++ condition.print ++ [')', '>'] ++ sources children ++
      ['<', '/', '#', 'i', 'f', '>']
  | .root children => sources children
  | .bare => []

/-- The template source of several trees, one after the other. -/
def sources : List (Node Text) → Text
  | [] => []
  | node :: rest => node.source ++ sources rest

end

/-- The template source of a tree, if all of it has a written form. -/
def source? (node : Node Text) : Except NodeError Text :=
  if node.isComplete then .ok node.source else .error .bare

mutual

/-- The literal text of a tree, without its interpolations but with the bodies of
all its conditionals. -/
def text {τ : Type} : Node τ → Text
  | .literal text => text
  | .interpolation .. | .bare => []
  | .conditional _ children | .root children => texts children

/-- The literal text of several trees, one after the other. -/
def texts {τ : Type} : List (Node τ) → Text
  | [] => []
  | node :: rest => node.text ++ texts rest

end

end Stencil.Node
