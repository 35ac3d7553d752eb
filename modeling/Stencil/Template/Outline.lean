import Stencil.Template.Node
import Stencil.Text.Quoted

/-!
# `Stencil.Template.Outline`: trees as indented lines

The outline of a tree has a line for every node, in the order of the template, and
a node stands two blanks further in than the node that holds it. A line names the
kind of its node and says what belongs to it alone. Literal text is shown quoted
and cut off after its first characters, so that it cannot break its line.
-/

set_option autoImplicit false

namespace Stencil.Node

/-- How many characters of a literal an outline shows. -/
def previewLength : Nat := 50

/-- What an outline shows of a literal: all of it, or its beginning and three dots,
between quotes. -/
def preview (s : Text) : Text :=
  Text.quoted <|
    if s.length > previewLength then s.take previewLength ++ ['.', '.', '.'] else s

/-- The line of a node, without indentation. -/
def caption : Node Text → Text
  | .literal text => "LiteralNode(".toList ++ preview text ++ ")".toList
  | .interpolation path none =>
    "InterpolationNode(path='".toList ++ path.print ++ "')".toList
  | .interpolation path (some name) =>
    "InterpolationNode(path='".toList ++ path.print ++ "', transform='".toList ++ name ++
      "')".toList
  | .conditional condition _ =>
    "ConditionalNode(condition='".toList ++ condition.print ++ "')".toList
  | .root _ => "RootNode".toList
  | .bare => "TemplateNode".toList

/-- The blanks before a line at a level. There are none at a negative level. -/
def indentation (level : Int) : Text :=
  List.replicate (2 * level.toNat) ' '

mutual

/-- The lines of a tree whose topmost node stands at a level. -/
def outlineLines (level : Int) : Node Text → List Text
  | .literal text => [indentation level ++ caption (.literal text)]
  | .interpolation path transform =>
    [indentation level ++ caption (.interpolation path transform)]
  | .conditional condition children =>
    (indentation level ++ caption (.conditional condition children)) ::
      outlineLinesAll (level + 1) children
  | .root children =>
    (indentation level ++ caption (.root children)) :: outlineLinesAll (level + 1) children
  | .bare => [indentation level ++ caption .bare]

/-- The lines of several trees at one level. -/
def outlineLinesAll (level : Int) : List (Node Text) → List Text
  | [] => []
  | node :: rest => node.outlineLines level ++ outlineLinesAll level rest

end

/-- The outline of a tree: its lines, with line ends between them. -/
def outline (node : Node Text) (level : Int) : Text :=
  List.intercalate ['\n'] (node.outlineLines level)

end Stencil.Node
