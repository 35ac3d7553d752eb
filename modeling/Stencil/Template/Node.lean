import Stencil.Condition.Print
import Stencil.Transform.Registry

/-!
# `Stencil.Template.Node`: template trees

A template is read into a tree. Its nodes are plain text, interpolations and
conditionals, the last with nodes of their own. A root holds the nodes of a whole
template. The kind `bare` stands for a node of no particular kind: reading never
gives one, and it has no written form.

The type of transforms is a parameter. A tree that was read carries transforms with
their functions; `Node.names` keeps the names alone. Two trees count as equal when
their named forms are, and those can be compared.
-/

set_option autoImplicit false

namespace Stencil

/-- A node of a template tree, with transforms of type `τ`. -/
inductive Node (τ : Type) where
  /-- Text that is shown as it is. -/
  | literal (text : Text)
  /-- The value that a path names, perhaps transformed. -/
  | interpolation (path : Path) (transform : Option τ)
  /-- Nodes that are shown if a condition holds. -/
  | conditional (condition : Condition) (children : List (Node τ))
  /-- The nodes of a whole template. -/
  | root (children : List (Node τ))
  /-- A node of no particular kind. -/
  | bare
  deriving Repr

namespace Node

variable {τ σ α : Type}

/-- The node is literal text. -/
def isLiteral : Node τ → Bool
  | .literal _ => true
  | _ => false

/-! ### The transforms of a tree -/

mutual

/-- Changes every transform of a tree and nothing else. -/
def map (f : τ → σ) : Node τ → Node σ
  | .literal text => .literal text
  | .interpolation path transform => .interpolation path (transform.map f)
  | .conditional condition children => .conditional condition (mapAll f children)
  | .root children => .root (mapAll f children)
  | .bare => .bare

/-- Changes every transform of several trees. -/
def mapAll (f : τ → σ) : List (Node τ) → List (Node σ)
  | [] => []
  | node :: rest => node.map f :: mapAll f rest

end

/-- The tree with the names of its transforms only. -/
def names (node : Node (Transform α)) : Node Text :=
  node.map Transform.name

/-! ### Equality -/

mutual

/-- Compares two trees. -/
def same [DecidableEq τ] : Node τ → Node τ → Bool
  | .literal s, .literal t => s = t
  | .interpolation p f, .interpolation q g => p = q && f = g
  | .conditional c xs, .conditional d ys => c = d && sameAll xs ys
  | .root xs, .root ys => sameAll xs ys
  | .bare, .bare => true
  | _, _ => false

/-- Compares two lists of trees. -/
def sameAll [DecidableEq τ] : List (Node τ) → List (Node τ) → Bool
  | [], [] => true
  | x :: xs, y :: ys => x.same y && sameAll xs ys
  | _, _ => false

end

mutual

/-- The comparison finds out whether two trees are equal. -/
theorem same_eq_true_iff [DecidableEq τ] (a b : Node τ) : a.same b = true ↔ a = b := by
  cases a with
  | conditional c xs => cases b <;> simp [same, sameAll_eq_true_iff xs]
  | root xs => cases b <;> simp [same, sameAll_eq_true_iff xs]
  | _ => cases b <;> simp [same]

/-- The comparison finds out whether two lists of trees are equal. -/
theorem sameAll_eq_true_iff [DecidableEq τ] (xs ys : List (Node τ)) :
    sameAll xs ys = true ↔ xs = ys := by
  cases xs with
  | nil => cases ys <;> simp [sameAll]
  | cons x xs =>
    cases ys with
    | nil => simp [sameAll]
    | cons y ys => simp [sameAll, same_eq_true_iff x y, sameAll_eq_true_iff xs ys]

end

instance [DecidableEq τ] : DecidableEq (Node τ) := fun a b =>
  decidable_of_iff (a.same b = true) (same_eq_true_iff a b)

/-! ### Bare nodes -/

mutual

/-- No node of the tree is bare. -/
def isComplete : Node τ → Bool
  | .literal _ | .interpolation .. => true
  | .conditional _ children | .root children => areComplete children
  | .bare => false

/-- No node of the trees is bare. -/
def areComplete : List (Node τ) → Bool
  | [] => true
  | node :: rest => node.isComplete && areComplete rest

end

end Node

/-- A node of no particular kind was met where a kind was needed. -/
inductive NodeError where
  | bare
  deriving DecidableEq, Repr

/-- What is wrong, for a person to read. -/
def NodeError.message : NodeError → String
  | .bare => "Unknown node type: TemplateNode"

end Stencil
