import Stencil.Text.Class
import Stencil.Log

/-!
# `Stencil.Transform.Registry`: named transforms

An interpolation may ask for a transform by name. A registry says which names are
known and what each of them does. A tree keeps the transform itself, name and
function, so that a later registration under the same name does not reach into
trees that were read before.

The entries are kept in the order of their names, each name once, and the type
carries that as `ordered`. Registering a name that is there replaces its entry and
is worth a warning.
-/

set_option autoImplicit false

namespace Stencil

/-- A named function on the values of a template. -/
structure Transform (α : Type) where
  name : Text
  run : α → α

/-- A name that no transform may have. -/
structure InvalidName where
  name : Text
  deriving DecidableEq, Repr

/-- What is wrong with the name, for a person to read. -/
def InvalidName.message (e : InvalidName) : String :=
  "Invalid transform name '" ++ String.ofList e.name ++ "': expected [a-z]+"

namespace Registry

variable {α : Type}

/-- The entries stand in the order of their names, and no name stands twice. -/
def Ordered (entries : List (Transform α)) : Prop :=
  entries.Pairwise fun a b => a.name < b.name

/-- Puts a transform in its place, instead of the one that has its name. -/
def place (t : Transform α) : List (Transform α) → List (Transform α)
  | [] => [t]
  | e :: rest =>
    if t.name < e.name then t :: e :: rest
    else if t.name = e.name then t :: rest
    else e :: place t rest

/-- Nothing is in the list afterwards but the transform and what was there. -/
theorem mem_place {t u : Transform α} {entries : List (Transform α)}
    (h : u ∈ place t entries) : u = t ∨ u ∈ entries := by
  induction entries with
  | nil => simpa [place] using h
  | cons e rest ih =>
    simp only [place] at h
    split at h
    · simpa using h
    · split at h
      · rcases List.mem_cons.mp h with h | h
        · exact .inl h
        · exact .inr (List.mem_cons_of_mem _ h)
      · rcases List.mem_cons.mp h with h | h
        · exact .inr (h ▸ List.mem_cons_self)
        · exact (ih h).imp_right (List.mem_cons_of_mem _)

/-- Putting a transform in its place keeps the order. -/
theorem place_ordered (t : Transform α) {entries : List (Transform α)} (h : Ordered entries) :
    Ordered (place t entries) := by
  induction entries with
  | nil => simp [place, Ordered]
  | cons e rest ih =>
    have hcons := List.pairwise_cons.mp h
    simp only [place]
    split
    · -- The transform comes first: before `e`, and so before all that follow `e`.
      rename_i hlt
      refine List.pairwise_cons.mpr ⟨?_, h⟩
      intro u hu
      rcases List.mem_cons.mp hu with rfl | hu
      · exact hlt
      · exact List.lt_trans hlt (hcons.1 u hu)
    · split
      · -- It takes the place of `e`, whose name it has.
        rename_i heq
        exact List.pairwise_cons.mpr ⟨fun u hu => heq ▸ hcons.1 u hu, hcons.2⟩
      · -- It comes after `e`, since its name is neither less nor the same.
        rename_i hlt hne
        refine List.pairwise_cons.mpr ⟨?_, ih hcons.2⟩
        intro u hu
        rcases mem_place hu with rfl | hu
        · exact (List.le_iff_lt_or_eq.mp (List.not_lt.mp hlt)).resolve_right fun h => hne h.symm
        · exact hcons.1 u hu

end Registry

/-- The transforms that are known, in the order of their names. -/
structure Registry (α : Type) where
  entries : List (Transform α)
  ordered : Registry.Ordered entries

/-- What a registration came to: the registry after it, the transform that is now
known under the name, and whether one was known before. -/
structure Registration (α : Type) where
  registry : Registry α
  transform : Transform α
  replaced : Bool

namespace Registry

variable {α : Type}

/-- No transform is known. -/
def empty : Registry α :=
  ⟨[], List.Pairwise.nil⟩

/-- The transform that is known under a name. -/
def resolve (r : Registry α) (name : Text) : Option (Transform α) :=
  r.entries.find? fun t => t.name = name

/-- A transform is known under the name. -/
def contains (r : Registry α) (name : Text) : Bool :=
  (r.resolve name).isSome

/-- The names of the known transforms, in order. -/
def names (r : Registry α) : List Text :=
  r.entries.map Transform.name

/-- Makes a transform known under a name, which must be made of the letters `a` to
`z`. -/
def register (r : Registry α) (name : Text) (run : α → α) :
    Except InvalidName (Registration α) :=
  if Text.isName name then
    let transform : Transform α := ⟨name, run⟩
    .ok {
      registry := ⟨place transform r.entries, place_ordered transform r.ordered⟩
      transform
      replaced := r.contains name }
  else .error ⟨name⟩

end Registry

/-- The records that a registration leaves: a warning if it replaced a transform,
then a note that the name is known. -/
def Registration.log {α : Type} (done : Registration α) : List LogRecord :=
  let name := String.ofList done.transform.name
  let warning : List LogRecord :=
    if done.replaced then
      [⟨.warning, .transforms, "Transform '" ++ name ++ "' overwrites existing transform"⟩]
    else []
  warning ++ [⟨.debug, .transforms, "Registered transform: " ++ name⟩]

/-- Makes transforms known one after the other, up to the first name that is not
allowed. The records of the registrations that did happen are there either way. -/
def Registry.registerAll {α : Type} (r : Registry α) :
    List (Text × (α → α)) → List LogRecord × Except InvalidName (Registry α)
  | [] => ([], .ok r)
  | (name, run) :: rest =>
    match r.register name run with
    | .error e => ([], .error e)
    | .ok done =>
      let (log, outcome) := done.registry.registerAll rest
      (done.log ++ log, outcome)

end Stencil
