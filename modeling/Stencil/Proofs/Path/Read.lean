import Stencil.Proofs.Text.Read
import Stencil.Path.Read

/-!
# `Stencil.Proofs.Path.Read`: the reader of paths reads what is printed

A path has one written form, so the grammar of paths is the set of the
forms `Path.print p` of the paths whose names are identifiers. The
reader takes the longest path there is. `path?_eq_some_iff` says both
at once: a path is read at the front of a text if and only if its
names are identifiers, its written form stands there, and what follows
could not belong to it.

What may not follow depends on how the path ends. `Path.Ends` spells
that out, and `Path.Ends.of_stopsAt` gives the one condition that the
rest of the grammar needs. `Path.print_append_inj` follows: a path is
told by its written form and what stops there.
-/

set_option autoImplicit false

namespace Stencil

open Text (StopsAt isIdentifier isIdentifierPart identifier? identifier?_eq_some_iff)

/-! ### Members -/

/-- What follows a member could not belong to it. A call is over with its
parentheses. A name goes on with every character of identifiers, and an
opening parenthesis behind it would have to be the beginning of a call. -/
def Segment.Ends (s : Segment) (rest : Text) : Prop :=
  s.call = true ∨ StopsAt isIdentifierPart rest ∧ StopsAt (· == '(') rest

/-- A member is read if and only if it stands at the front and is over
there. -/
theorem segment?_eq_some_iff {s rest : Text} {seg : Segment} :
    segment? s = some (seg, rest) ↔
      isIdentifier seg.name = true ∧ s = seg.print ++ rest ∧ seg.Ends rest := by
  simp only [segment?, Option.bind_eq_bind, Option.bind_eq_some_iff, Prod.exists,
    identifier?_eq_some_iff]
  constructor
  · intro h
    obtain ⟨name, left, ⟨hname, rfl, hleft⟩, h⟩ := h
    split at h
    · -- The parentheses of a call, which have to be complete.
      rename_i tail
      simp only [Option.bind_eq_some_iff, Text.word?_eq_some_iff, Option.some.injEq,
        Prod.mk.injEq] at h
      obtain ⟨left, hparens, rfl, rfl⟩ := h
      refine ⟨hname, ?_, Or.inl rfl⟩
      rw [hparens]
      simp [Segment.print]
    · rename_i hparen
      simp only [Option.some.injEq, Prod.mk.injEq] at h
      obtain ⟨rfl, rfl⟩ := h
      exact ⟨hname, by simp [Segment.print], Or.inr ⟨hleft, Text.stopsAt_beq_iff.mpr hparen⟩⟩
  · intro h
    obtain ⟨hname, rfl, hends⟩ := h
    obtain ⟨name, call⟩ := seg
    cases call with
    | true =>
      refine ⟨name, '(' :: ')' :: rest, ⟨hname, by simp [Segment.print], ?_⟩, ?_⟩
      · exact Text.isIdentifierPart_delimiter (by decide)
      · simp [Text.word?]
    | false =>
      obtain ⟨hpart, hparen⟩ := hends.resolve_left (by simp)
      refine ⟨name, rest, ⟨hname, by simp [Segment.print], hpart⟩, ?_⟩
      split
      · exact absurd hparen (by simp)
      · rfl

/-! ### Members in a row -/

/-- The written form of several members, each behind its dot. -/
def Segment.printAll (segs : List Segment) : Text :=
  segs.flatMap fun s => '.' :: s.print

theorem Segment.printAll_cons (seg : Segment) (segs : List Segment) :
    Segment.printAll (seg :: segs) = '.' :: (seg.print ++ Segment.printAll segs) := by
  simp [Segment.printAll]

/-- A row of members is over: no dot follows, and the last of them is
over. -/
def Segment.AllEnd (segs : List Segment) (rest : Text) : Prop :=
  StopsAt (· == '.') rest ∧ ∀ seg ∈ segs.getLast?, seg.Ends rest

/-- A member in a row is over, because the next one or the end of the row
comes after it. -/
theorem Segment.AllEnd.head {seg : Segment} {segs : List Segment} {rest : Text}
    (h : Segment.AllEnd (seg :: segs) rest) : seg.Ends (Segment.printAll segs ++ rest) := by
  cases segs with
  | nil => exact h.2 seg rfl
  | cons next segs =>
    rw [Segment.printAll_cons]
    exact Or.inr ⟨Text.isIdentifierPart_delimiter (by decide), by simp⟩

theorem Segment.AllEnd.tail {seg : Segment} {segs : List Segment} {rest : Text}
    (h : Segment.AllEnd (seg :: segs) rest) : Segment.AllEnd segs rest := by
  refine ⟨h.1, fun last hlast => h.2 last ?_⟩
  cases segs with
  | nil => simp at hlast
  | cons next segs => exact hlast

theorem Segment.AllEnd.cons {seg : Segment} {segs : List Segment} {rest : Text}
    (hseg : seg.Ends (Segment.printAll segs ++ rest)) (h : Segment.AllEnd segs rest) :
    Segment.AllEnd (seg :: segs) rest := by
  refine ⟨h.1, ?_⟩
  cases segs with
  | nil =>
    intro last hlast
    obtain rfl : seg = last := by simpa using hlast
    exact hseg
  | cons next segs => exact h.2

/-- Members are read if and only if they stand at the front and are over
there. The way back is an induction on the members, the way there on
the steps of the reader. -/
theorem segments?_eq_some_iff {s rest : Text} {segs : List Segment} :
    segments? s = some (segs, rest) ↔
      (∀ seg ∈ segs, isIdentifier seg.name = true) ∧ s = Segment.printAll segs ++ rest ∧
        Segment.AllEnd segs rest := by
  constructor
  · intro h
    fun_induction segments? s generalizing segs rest with
    | case1 tail hnone => cases h
    | case2 tail seg left hseg ih =>
      simp only [Option.bind_eq_bind, Option.bind_eq_some_iff, Option.some.injEq,
        Prod.exists, Prod.mk.injEq] at h
      -- A dot, a member, and the members after it.
      obtain ⟨more, left', hmore, rfl, rfl⟩ := h
      obtain ⟨hname, rfl, hends⟩ := segment?_eq_some_iff.mp hseg
      obtain ⟨hnames, rfl, hall⟩ := ih hmore
      refine ⟨List.forall_mem_cons.mpr ⟨hname, hnames⟩, ?_, hall.cons hends⟩
      rw [Segment.printAll_cons, List.cons_append, List.append_assoc]
    | case3 s hdot =>
      -- No dot follows, so there is no further member.
      simp only [Option.some.injEq, Prod.mk.injEq] at h
      obtain ⟨rfl, rfl⟩ := h
      exact ⟨by simp, rfl, Text.stopsAt_beq_iff.mpr hdot, by simp⟩
  · intro h
    obtain ⟨hnames, rfl, hall⟩ := h
    induction segs with
    | nil =>
      show segments? rest = some ([], rest)
      unfold segments?
      split
      · exact absurd hall.1 (by simp)
      · rfl
    | cons seg segs ih =>
      -- The first member is read because the next dot, or the end of the row, is behind it.
      have hseg : segment? (seg.print ++ (Segment.printAll segs ++ rest)) =
          some (seg, Segment.printAll segs ++ rest) :=
        segment?_eq_some_iff.mpr ⟨hnames seg List.mem_cons_self, rfl, hall.head⟩
      have hsegs := ih (fun g hg => hnames g (List.mem_cons_of_mem seg hg)) hall.tail
      rw [Segment.printAll_cons, List.cons_append, List.append_assoc]
      unfold segments?
      split
      · -- The reader is at the dot of the first member.
        rename_i tail htail
        obtain rfl := (List.cons.inj htail).2
        split
        · rename_i hnone
          rw [hseg] at hnone
          cases hnone
        · rename_i seg' left hread
          rw [hseg] at hread
          cases hread
          rw [hsegs]
          rfl
      · rename_i hdot
        exact absurd rfl (hdot _)

/-! ### Paths -/

namespace Path

/-- What follows a path could not belong to it. No dot may follow. A
bare head goes on with every character of identifiers, and an opening
parenthesis behind it is left alone. -/
structure Ends (p : Path) (rest : Text) : Prop where
  /-- The members are over. -/
  members : Segment.AllEnd p.segments rest
  /-- A head without members is over. -/
  head : p.segments = [] → StopsAt isIdentifierPart rest

/-- The characters with which some path goes on: those of identifiers,
the dot and the opening parenthesis. -/
def mayContinue (c : Char) : Bool :=
  isIdentifierPart c || c == '.' || c == '('

/-- No path goes on with white space. -/
theorem mayContinue_eq_false_of_isSpace {c : Char} (h : Text.isSpace c = true) :
    mayContinue c = false := by
  have hpart := Text.isIdentifierPart_eq_false_of_isSpace h
  simp only [mayContinue, hpart, Bool.false_or, Bool.or_eq_false_iff, beq_eq_false_iff_ne]
  constructor <;> rintro rfl <;> exact absurd h (by decide)

/-- Whatever the path, it is over where no path goes on. -/
theorem Ends.of_stopsAt {p : Path} {rest : Text} (h : StopsAt mayContinue rest) :
    p.Ends rest := by
  have hpart : StopsAt isIdentifierPart rest := h.mono fun c hc => by simp [mayContinue, hc]
  have hdot : StopsAt (· == '.') rest := h.mono fun c hc => by simp_all [mayContinue]
  have hparen : StopsAt (· == '(') rest := h.mono fun c hc => by simp_all [mayContinue]
  exact ⟨⟨hdot, fun _ _ => Or.inr ⟨hpart, hparen⟩⟩, fun _ => hpart⟩

theorem print_eq (p : Path) : p.print = p.head ++ Segment.printAll p.segments := rfl

/-- A path begins with a character that may begin an identifier. -/
theorem exists_cons_print {p : Path} (h : p.isLexical = true) :
    ∃ c tail, p.print = c :: tail ∧ Text.isIdentifierStart c = true := by
  simp only [isLexical, Bool.and_eq_true] at h
  obtain ⟨c, tail, hhead, hc⟩ := Text.exists_cons_of_isIdentifier h.1
  exact ⟨c, tail ++ Segment.printAll p.segments, by rw [print_eq, hhead, List.cons_append], hc⟩

/-- No white space stands before a path. -/
theorem stopsAt_isSpace_print {p : Path} (h : p.isLexical = true) (rest : Text) :
    StopsAt Text.isSpace (p.print ++ rest) := by
  obtain ⟨c, tail, hp, hc⟩ := exists_cons_print h
  rw [hp, List.cons_append, Text.stopsAt_cons]
  exact Text.isSpace_eq_false_of_isIdentifierPart
    (Text.isIdentifierPart_of_isIdentifierStart hc)

end Path

/-- **A path is read if and only if its written form stands at the front
and is over there.** -/
theorem path?_eq_some_iff {s rest : Text} {p : Path} :
    path? s = some (p, rest) ↔ p.isLexical = true ∧ s = p.print ++ rest ∧ p.Ends rest := by
  simp only [path?, Option.bind_eq_bind, Option.bind_eq_some_iff, Option.some.injEq,
    Prod.exists, Prod.mk.injEq, identifier?_eq_some_iff, segments?_eq_some_iff]
  constructor
  · intro h
    obtain ⟨head, left, ⟨hhead, rfl, hstop⟩, segs, left', ⟨hnames, rfl, hall⟩, rfl, rfl⟩ := h
    refine ⟨by simpa [Path.isLexical, hhead] using hnames, ?_, hall, ?_⟩
    · rw [Path.print_eq, List.append_assoc]
    · rintro rfl
      exact hstop
  · intro h
    obtain ⟨hlex, rfl, hends⟩ := h
    simp only [Path.isLexical, Bool.and_eq_true, List.all_eq_true] at hlex
    refine ⟨p.head, Segment.printAll p.segments ++ rest, ⟨hlex.1, ?_, ?_⟩,
      p.segments, rest, ⟨hlex.2, rfl, hends.members⟩, rfl, rfl⟩
    · rw [Path.print_eq, List.append_assoc]
    · -- The head is over at the first dot, or where the path is if it has no members.
      cases hsegs : p.segments with
      | nil => exact hends.head hsegs
      | cons seg segs =>
        rw [Segment.printAll_cons]
        exact Text.isIdentifierPart_delimiter (by decide)

/-- A path is told by its written form and what stops there. -/
theorem Path.print_append_inj {p q : Path} {rest rest' : Text} (hp : p.isLexical = true)
    (hq : q.isLexical = true) (hrest : p.Ends rest) (hrest' : q.Ends rest')
    (h : p.print ++ rest = q.print ++ rest') : p = q ∧ rest = rest' := by
  have hread : path? (p.print ++ rest) = some (p, rest) :=
    path?_eq_some_iff.mpr ⟨hp, rfl, hrest⟩
  have hread' : path? (p.print ++ rest) = some (q, rest') :=
    path?_eq_some_iff.mpr ⟨hq, h, hrest'⟩
  rw [hread] at hread'
  simpa using hread'

/-- A path is told by its written form. -/
theorem Path.print_inj {p q : Path} (hp : p.isLexical = true) (hq : q.isLexical = true)
    (h : p.print = q.print) : p = q := by
  have hnil : ∀ r : Path, r.Ends [] := fun r => Path.Ends.of_stopsAt Text.stopsAt_nil
  exact (print_append_inj hp hq (hnil p) (hnil q) (congrArg (· ++ []) h)).1

end Stencil
