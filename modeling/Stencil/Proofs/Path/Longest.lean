import Stencil.Proofs.Path.Read
import Stencil.Proofs.Text.Cursor

/-!
# `Stencil.Proofs.Path.Longest`: the longest path at a place

At a place of a text at most one path can be read, the longest one that
stands there. `Cursor.Reaches` says what that is, without a reader: the
written form of the path lies between two places, and the character at the
second place is none with which this path could go on. `read_path_iff` says
that the reader finds it where there is one, and fails where there is none.

What the next character may be depends on the path (`Path.ends_iff`). A dot
may never follow, because a path does not stop before a dot. Behind a name
no character of identifiers may follow, and behind the name of a member no
opening parenthesis either. A call is over with its parentheses, so anything
but a dot may follow it.
-/

set_option autoImplicit false

namespace Stencil

open Text (isIdentifierPart)

/-- A call is over in any case, and a name is where it cannot go on. -/
theorem Segment.ends_cons_iff {seg : Segment} {c : Char} {rest : Text} :
    seg.Ends (c :: rest) ↔ (seg.call = false → isIdentifierPart c = false ∧ c ≠ '(') := by
  cases hcall : seg.call <;> simp [Segment.Ends, hcall]

namespace Path

/-- The last member of the path is a call. -/
def endsInCall (p : Path) : Bool :=
  p.segments.getLast?.any Segment.call

/-- The path could not go on with the character. -/
structure Stops (p : Path) (c : Char) : Prop where
  dot : c ≠ '.'
  part : p.endsInCall = false → isIdentifierPart c = false
  paren : p.segments ≠ [] → p.endsInCall = false → c ≠ '('

/-- A path is not empty. -/
theorem print_ne_nil {p : Path} (h : p.isLexical = true) : p.print ≠ [] := by
  obtain ⟨c, tail, hprint, -⟩ := exists_cons_print h
  simp [hprint]

/-- **Where a path is over** is told by the next character, if there is
one. -/
theorem ends_iff {p : Path} {rest : Text} : p.Ends rest ↔ ∀ c ∈ rest.head?, p.Stops c := by
  obtain ⟨head, segs⟩ := p
  cases rest with
  | nil =>
    have hends : Path.Ends ⟨head, segs⟩ [] := Ends.of_stopsAt Text.stopsAt_nil
    simp [hends]
  | cons c rest =>
    have hnext : (∀ d ∈ (c :: rest).head?, Path.Stops ⟨head, segs⟩ d) ↔
        Path.Stops ⟨head, segs⟩ c := by simp
    rw [hnext]
    cases hlast : segs.getLast? with
    | none =>
      -- There is the head alone. A parenthesis behind it is left alone.
      obtain rfl : segs = [] := List.getLast?_eq_none_iff.mp hlast
      constructor
      · intro h
        exact ⟨by simpa using h.members.1, fun _ => h.head rfl, fun hne => absurd rfl hne⟩
      · intro h
        exact ⟨⟨by simpa using h.dot, by simp⟩, fun _ => h.part rfl⟩
    | some seg =>
      have hne : segs ≠ [] := by
        rintro rfl
        cases hlast
      have hcall : endsInCall ⟨head, segs⟩ = seg.call := by simp [endsInCall, hlast]
      constructor
      · intro h
        have hseg := Segment.ends_cons_iff.mp (h.members.2 seg hlast)
        refine ⟨by simpa using h.members.1, fun hname => ?_, fun _ hname => ?_⟩
        · exact (hseg (hcall.symm.trans hname)).1
        · exact (hseg (hcall.symm.trans hname)).2
      · intro h
        refine ⟨⟨by simpa using h.dot, ?_⟩, fun hnil => absurd hnil hne⟩
        intro last hlast'
        obtain rfl : seg = last := by simpa [hlast] using hlast'
        refine Segment.ends_cons_iff.mpr fun hname => ?_
        exact ⟨h.part (hcall.trans hname), h.paren hne (hcall.trans hname)⟩

end Path

namespace Cursor

/-- The path stands between the two places, and the character at the second
one, if there is one, could not belong to it. -/
structure Reaches (c d : Cursor) (p : Path) : Prop where
  lexical : p.isLexical = true
  between : c.Between d p.print
  stops : ∀ next ∈ d.current?, p.Stops next

/-- **A path is read between two places if and only if it stands there and
could not go on**, and none is read where there is none. -/
theorem read_path_iff (c : Cursor) :
    (∀ (p : Path) (d : Cursor), c.read? path? = some (p, d) ↔ c.Reaches d p) ∧
      (c.read? path? = none ↔ ¬ ∃ (p : Path) (d : Cursor), c.Reaches d p) := by
  have hread : ∀ (p : Path) (d : Cursor),
      c.read? path? = some (p, d) ↔ c.Reaches d p := by
    intro p d
    simp only [read?_eq_some_iff, path?_eq_some_iff, Path.ends_iff]
    constructor
    · intro h
      obtain ⟨left, ⟨hlexical, hrest, hstops⟩, hd⟩ := h
      obtain ⟨hbetween, rfl⟩ := (moveTo_eq_iff (Path.print_ne_nil hlexical)).mp ⟨hrest, hd⟩
      exact ⟨hlexical, hbetween, hstops⟩
    · intro h
      obtain ⟨hlexical, hbetween, hstops⟩ := h
      obtain ⟨hrest, hd⟩ :=
        (moveTo_eq_iff (Path.print_ne_nil hlexical)).mpr ⟨hbetween, rfl⟩
      exact ⟨d.rest, ⟨hlexical, hrest, hstops⟩, hd⟩
  refine ⟨hread, ?_⟩
  simp only [← hread, Option.eq_none_iff_forall_ne_some, Prod.forall, not_exists, ne_eq]

end Cursor

end Stencil
