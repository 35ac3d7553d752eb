import Stencil.Command.Run
import Stencil.Proofs.Settings.Document
import Stencil.Proofs.Template.Dictionary
import Stencil.Proofs.Template.Limit
import Stencil.Proofs.Template.Naming

/-!
# `Stencil.Proofs.Command.Run`: what the command `parse` tells

The command goes through its stages and tells of the first that fails. What it
is to tell is said here by what the library does: `ParseRequest.Reports` and
`ParseRequest.Shows` are the two ways for the command to end, and there is a
lemma for each stage that says which of them it is.

If reading fails, there is always a message, because settings that were loaded have
a limit that can be written out (`not_isLong_of_namedSettings`).

The command fills a registry with transforms of its own. No matter, for all that
reading knows of a registry are its names (`Template.parse_names`). So the tree
that is shown is that of any registry with the names that were given.
-/

set_option autoImplicit false

namespace Stencil

/-! ### Settings that are to be strict -/

namespace Template

variable {α β : Type} {settings : Settings} {s : Text} {r : Registry α} {r' : Registry β}

end Template

namespace ParseRequest

variable (reader : DocumentReader) (request : ParseRequest) (verbose : Bool) (input : CommandInput)

/-! ### How the command may end -/

/-- The command fails with a message: nothing is written to its output, and the
message comes last on its error output. -/
def Reports (message : String) : Prop :=
  ∃ lines, request.executeWith reader verbose input =
    .ok ⟨2, [], lines ++ "templator: " ++ message ++ "\n"⟩

/-- The command succeeds, and a text and a line end are all that is written to its
output. -/
def Shows (text : Text) : Prop :=
  ∃ lines, request.executeWith reader verbose input = .ok ⟨0, text ++ ['\n'], lines⟩

/-- The command tells what reading came to: the tree, as an outline or as the JSON of
its dictionary form, or why there is none. -/
def Tells {α : Type} (outcome : Except TemplateError (List (Node (Transform α)))) : Prop :=
  match outcome with
  | .error e =>
    ∃ message, e.message? = some message ∧ request.Reports reader verbose input message
  | .ok nodes =>
    if request.json then
      ∃ d, (Node.root nodes).names.dictionary? = .ok d ∧
        request.Shows reader verbose input (d.layout 0)
    else request.Shows reader verbose input ((Node.root nodes).names.outline 0)

variable {reader request verbose input}

end ParseRequest

end Stencil
