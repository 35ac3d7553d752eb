import Stencil.Template.Node
import Stencil.Json

/-!
# `Stencil.Template.Dictionary`: trees as JSON values

In its dictionary form every node is an object that names its type first and then
what belongs to the node. Paths and conditions stand in it as they are written, and
a transform as its name. A bare node has no such form, and neither has a tree that
holds one.
-/

set_option autoImplicit false

namespace Stencil.Node

/-- An object that begins with its type. -/
def typed (type : String) (members : List (String × Json)) : Json :=
  .object (("type".toList, .text type.toList) ::
    members.map fun (key, value) => (key.toList, value))

mutual

/-- The dictionary form of a tree. A bare node gives an object without a type. -/
def dictionary : Node Text → Json
  | .literal text => typed "literal" [("text", .text text)]
  | .interpolation path transform =>
    typed "interpolation"
      [("path", .text path.print), ("transform", (transform.map Json.text).getD .null)]
  | .conditional condition children =>
    typed "conditional"
      [("condition", .text condition.print), ("children", .array (dictionaries children))]
  | .root children => typed "root" [("children", .array (dictionaries children))]
  | .bare => .object []

/-- The dictionary forms of several trees. -/
def dictionaries : List (Node Text) → List Json
  | [] => []
  | node :: rest => node.dictionary :: dictionaries rest

end

/-- The dictionary form of a tree, if all of it has one. -/
def dictionary? (node : Node Text) : Except NodeError Json :=
  if node.isComplete then .ok node.dictionary else .error .bare

end Stencil.Node
