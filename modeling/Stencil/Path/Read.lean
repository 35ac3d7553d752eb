import Stencil.Path.Basic
import Stencil.Text.Read

/-!
# `Stencil.Path.Read`: the grammar of paths

    MEMBER = IDENTIFIER "()"?
    PATH   = IDENTIFIER ("." MEMBER)*

There is no white space inside a path. The reader takes the longest chain and does
not go back: a dot without a member after it, or a member with an opening
parenthesis that is not closed at once, makes the whole path fail. Only the head
may be followed by an opening parenthesis, which then is not part of the path.
-/

set_option autoImplicit false

namespace Stencil

open Text (identifier? word?)

/-- Takes a member: an identifier, which is a call if parentheses follow. -/
def segment? : Reader Segment := fun s => do
  let (name, rest) ← identifier? s
  match rest with
  | '(' :: _ => do
    let rest ← word? ['(', ')'] rest
    some (⟨name, true⟩, rest)
  | _ => some (⟨name, false⟩, rest)

theorem segment?_advances : Reader.Advances segment? := by
  intro s a rest h
  simp only [segment?, Option.bind_eq_bind, Option.bind_eq_some_iff, Prod.exists] at h
  obtain ⟨name, left, hname, h⟩ := h
  have hadv := Text.identifier?_advances hname
  split at h
  · -- A call leaves what follows its parentheses, which is shorter still.
    simp only [Option.bind_eq_some_iff, Text.word?_eq_some_iff, Option.some.injEq,
      Prod.mk.injEq] at h
    obtain ⟨left', hleft, -, rfl⟩ := h
    rw [hleft] at hadv
    refine ⟨(List.suffix_append _ _).trans hadv.1, ?_⟩
    have := hadv.2
    simp only [List.length_append] at this
    omega
  · simp only [Option.some.injEq, Prod.mk.injEq] at h
    rw [← h.2]
    exact hadv

/-- Takes the members that follow, each after a dot, as many as there are. -/
def segments? : Reader (List Segment)
  | '.' :: rest =>
    match _hseg : segment? rest with
    | none => none
    | some (seg, left) => do
      let (segs, left) ← segments? left
      some (seg :: segs, left)
  | s => some ([], s)
termination_by s => s.length
decreasing_by
  have := (segment?_advances _hseg).2
  simp only [List.length_cons]
  omega

/-- Takes a path. -/
def path? : Reader Path := fun s => do
  let (head, rest) ← identifier? s
  let (segments, rest) ← segments? rest
  some (⟨head, segments⟩, rest)

theorem segments?_suffix {s rest : Text} {segs : List Segment}
    (h : segments? s = some (segs, rest)) : rest <:+ s := by
  fun_induction segments? s generalizing segs rest with
  | case1 tail hnone => cases h
  | case2 tail seg left hseg ih =>
    simp only [Option.bind_eq_bind, Option.bind_eq_some_iff, Option.some.injEq, Prod.exists,
      Prod.mk.injEq] at h
    obtain ⟨more, left', hmore, -, rfl⟩ := h
    exact (ih hmore).trans
      ((segment?_advances hseg).1.trans (List.suffix_cons '.' tail))
  | case3 s hdot =>
    simp only [Option.some.injEq, Prod.mk.injEq] at h
    exact h.2 ▸ List.suffix_refl _

theorem path?_advances : Reader.Advances path? := by
  intro s p rest h
  simp only [path?, Option.bind_eq_bind, Option.bind_eq_some_iff, Option.some.injEq,
    Prod.exists, Prod.mk.injEq] at h
  obtain ⟨head, left, hhead, segs, left', hsegs, -, rfl⟩ := h
  have hadv := Text.identifier?_advances hhead
  have hsuf := segments?_suffix hsegs
  have := hsuf.length_le
  exact ⟨hsuf.trans hadv.1, by omega⟩

end Stencil
