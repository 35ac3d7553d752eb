import Stencil.Proofs.Template.Front

/-!
# `Stencil.Proofs.Template.Literal`: what may stand in literal text

A character of a template is taken as text where nothing stands that
matters to reading: in strict reading a mark, in lenient reading a whole
construct that has a place there. `Matters` says this of a place, and
`Inert` of all places of a literal.

Looking at a place may go past the end of the literal. `matters_append_iff`
says that this makes no difference: what follows a literal is a construct
or the end of the text, and whatever begins inside the literal and goes
on into a construct is broken. The reason is in the two ways to write the
sign `<`. Inside a construct it only stands for a comparison, with the
beginning of a path or an equals sign after it (`Inner`). At the beginning
of a construct, `#` or `/` follows (`Seam`).
-/

set_option autoImplicit false

namespace Stencil

open Text (Blank StopsAt isSpace skipSpace delimiters)
open Condition (Spelling nestingLimit)

/-! ### The inside of a construct -/

/-- No tag begins with an angle bracket before this text: after white
space there is something else than `#` and `/`. -/
def BeginsNoTag (s : Text) : Prop :=
  ∃ c tail, skipSpace s = c :: tail ∧ c ≠ '#' ∧ c ≠ '/'

/-- No construct begins inside this text, whatever follows it. -/
def Inner : Text → Prop
  | [] => True
  | c :: s => c ≠ '%' ∧ (c = '<' → BeginsNoTag s) ∧ Inner s

theorem BeginsNoTag.append {s : Text} (h : BeginsNoTag s) (t : Text) :
    BeginsNoTag (s ++ t) := by
  obtain ⟨c, tail, hs, hc⟩ := h
  obtain ⟨w, hw⟩ := Text.exists_blank_append_skipSpace s
  have hstops := Text.stopsAt_skipSpace s
  rw [hs] at hw hstops
  refine ⟨c, tail ++ t, ?_, hc⟩
  rw [hw, List.append_assoc]
  exact Text.skipSpace_blank_append w hstops

theorem inner_append {s t : Text} (hs : Inner s) (ht : Inner t) : Inner (s ++ t) := by
  induction s with
  | nil => exact ht
  | cons c s ih => exact ⟨hs.1, fun hc => (hs.2.1 hc).append t, ih hs.2.2⟩

theorem Inner.of_append {s t : Text} (h : Inner (s ++ t)) : Inner t := by
  induction s with
  | nil => exact h
  | cons c s ih => exact ih h.2.2

/-- A text without the two signs that begin constructs. -/
theorem inner_of_all {s : Text} (h : (s.all fun c => c != '%' && c != '<') = true) :
    Inner s := by
  induction s with
  | nil => trivial
  | cons c s ih =>
    simp only [List.all_cons, Bool.and_eq_true, bne_iff_ne] at h
    exact ⟨h.1.1, fun hangle => absurd hangle h.1.2, ih h.2⟩

/-- A text of a class that has neither of the two. -/
theorem inner_of_class {p : Char → Bool} (hpercent : p '%' = false) (hangle : p '<' = false)
    {s : Text} (h : ∀ c ∈ s, p c = true) : Inner s := by
  refine inner_of_all (List.all_eq_true.mpr fun c hc => ?_)
  have hc := h c hc
  rw [Bool.and_eq_true, bne_iff_ne, bne_iff_ne]
  constructor
  · intro heq
    rw [heq, hpercent] at hc
    cases hc
  · intro heq
    rw [heq, hangle] at hc
    cases hc

theorem inner_blank (w : Blank) : Inner w.1 :=
  inner_of_class (Text.isSpace_delimiter (by decide)) (Text.isSpace_delimiter (by decide)) w.2

theorem inner_name {name : Text} (h : Text.isName name = true) : Inner name :=
  inner_of_class (Text.isLowercase_delimiter (by decide))
    (Text.isLowercase_delimiter (by decide)) (Text.isLowercase_of_mem h)

theorem inner_identifier {name : Text} (h : Text.isIdentifier name = true) : Inner name :=
  inner_of_class (Text.isIdentifierPart_delimiter (by decide))
    (Text.isIdentifierPart_delimiter (by decide)) (Text.isIdentifierPart_of_mem h)

theorem inner_cons {c : Char} (hpercent : c ≠ '%') (hangle : c ≠ '<') {s : Text}
    (h : Inner s) : Inner (c :: s) :=
  ⟨hpercent, fun hc => absurd hc hangle, h⟩

theorem inner_segments {segs : List Segment}
    (h : ∀ seg ∈ segs, Text.isIdentifier seg.name = true) : Inner (Segment.printAll segs) := by
  induction segs with
  | nil => trivial
  | cons seg segs ih =>
    have hname := inner_identifier (h seg List.mem_cons_self)
    have hseg : Inner seg.print := by
      unfold Segment.print
      split
      · exact inner_append hname (inner_of_all (by decide))
      · exact hname
    rw [Segment.printAll_cons]
    exact inner_cons (by decide) (by decide)
      (inner_append hseg (ih fun s hs => h s (List.mem_cons_of_mem _ hs)))

theorem inner_path {p : Path} (h : p.isLexical = true) : Inner p.print := by
  simp only [Path.isLexical, Bool.and_eq_true, List.all_eq_true] at h
  rw [Path.print_eq]
  exact inner_append (inner_identifier h.1) (inner_segments h.2)

/-- Behind the sign of a comparison there is a path. -/
theorem beginsNoTag_path (w : Blank) {p : Path} (h : p.isLexical = true) :
    BeginsNoTag (w.1 ++ p.print) := by
  obtain ⟨c, tail, hprint, hc⟩ := Path.exists_cons_print h
  have hapart := Text.not_mem_delimiters_of_isIdentifierStart hc
  have hstops := Path.stopsAt_isSpace_print h []
  rw [List.append_nil] at hstops
  refine ⟨c, tail, ?_, ?_, ?_⟩
  · rw [Text.skipSpace_blank_append w hstops, hprint]
  · rintro rfl
    exact hapart (by decide)
  · rintro rfl
    exact hapart (by decide)

theorem inner_comparison (op : Comparator) (w : Blank) {p : Path} (h : p.isLexical = true) :
    Inner (op.symbol ++ (w.1 ++ p.print)) := by
  have hright : Inner (w.1 ++ p.print) := inner_append (inner_blank w) (inner_path h)
  cases op with
  | less => exact ⟨by decide, fun _ => beginsNoTag_path w h, hright⟩
  | lessOrEqual =>
    -- The equals sign comes first, whatever the path.
    have hequals : BeginsNoTag ('=' :: (w.1 ++ p.print)) :=
      ⟨'=', _, Text.skipSpace_of_stopsAt (Text.stopsAt_isSpace_delimiter (by decide) _),
        by decide, by decide⟩
    exact ⟨by decide, fun _ => hequals, inner_cons (by decide) (by decide) hright⟩
  | equal => exact inner_append (inner_of_all (by decide)) hright
  | notEqual => exact inner_append (inner_of_all (by decide)) hright
  | greater => exact inner_append (inner_of_all (by decide)) hright
  | greaterOrEqual => exact inner_append (inner_of_all (by decide)) hright

theorem inner_spelling {e : Spelling} (h : e.IsProper) : Inner e.text := by
  induction e with
  | compare left before op after right =>
    exact inner_append (inner_path h.1)
      (inner_append (inner_blank before) (inner_comparison op after h.2))
  | group before inner after ih =>
    exact inner_cons (by decide) (by decide) (inner_append (inner_blank before)
      (inner_append (ih h) (inner_append (inner_blank after) (inner_of_all (by decide)))))
  | not after inner ih =>
    exact inner_cons (by decide) (by decide) (inner_append (inner_blank after) (ih h.2))
  | join junction left before after right ihl ihr =>
    have hsign : Inner junction.sign := by
      cases junction <;> exact inner_of_all (by decide)
    exact inner_append (ihl h.2.1) (inner_append (inner_blank before)
      (inner_append hsign (inner_append (inner_blank after) (ihr h.2.2))))

namespace Lexeme

theorem Closer.exists_cons_text (l : Closer) : ∃ tail, l.text = '<' :: tail ∧ Inner tail := by
  refine ⟨_, rfl, inner_append (inner_blank _) (inner_cons (by decide) (by decide)
    (inner_append (inner_blank _) (inner_cons (by decide) (by decide)
      (inner_append (inner_name l.isName) (inner_append (inner_blank _) ?_)))))⟩
  exact inner_of_all (by decide)

theorem Opener.exists_cons_text (l : Opener) : ∃ tail, l.text = '<' :: tail ∧ Inner tail := by
  have hend : Inner (l.afterCondition.1 ++ ')' :: (l.afterClose.1 ++ ['>'])) :=
    inner_append (inner_blank _) (inner_cons (by decide) (by decide)
      (inner_append (inner_blank _) (inner_of_all (by decide))))
  have hcondition := inner_append (inner_blank l.afterParen)
    (inner_append (inner_spelling l.isProper) hend)
  exact ⟨_, rfl, inner_append (inner_blank _) (inner_cons (by decide) (by decide)
    (inner_append (inner_of_all (by decide)) (inner_append (inner_blank _)
      (inner_cons (by decide) (by decide) hcondition))))⟩

theorem Interpolation.exists_cons_text (l : Interpolation) :
    ∃ tail, l.text = '%' :: tail ∧ Inner tail := by
  have hrequest : Inner (requestText l.request) := by
    cases l.request with
    | none => trivial
    | some r => exact inner_append (inner_blank r.gap) (inner_name r.isName)
  exact ⟨_, rfl, inner_cons (by decide) (by decide) (inner_append (inner_blank _)
    (inner_append (inner_path l.isLexical) (inner_append hrequest
      (inner_append (inner_blank _) (inner_of_all (by decide))))))⟩

/-- After its first character a lexeme is the inside of a construct. -/
theorem exists_cons_text (l : Lexeme) : ∃ c tail, l.text = c :: tail ∧ Inner tail := by
  cases l with
  | closer l => exact ⟨_, l.exists_cons_text⟩
  | opener l => exact ⟨_, l.exists_cons_text⟩
  | interpolation l => exact ⟨_, l.exists_cons_text⟩

theorem text_append_ne_nil (l : Lexeme) (rest : Text) : l.text ++ rest ≠ [] := by
  obtain ⟨c, tail, htext, -⟩ := l.exists_cons_text
  simp [htext]

end Lexeme

/-! ### Where a literal ends -/

/-- A construct begins here, or the text is at its end. -/
def Seam (s : Text) : Prop :=
  s = [] ∨ (∃ tail, s = '%' :: tail) ∨
    ∃ (w : Blank) (c : Char) (tail : Text), s = '<' :: (w.1 ++ c :: tail) ∧ (c = '#' ∨ c = '/')

theorem seam_nil : Seam [] := Or.inl rfl

/-- An angle bracket with one of the two signs after it is a seam. -/
theorem seam_angle (w : Blank) {c : Char} (hc : c = '#' ∨ c = '/') (s rest : Text) :
    Seam ('<' :: (w.1 ++ c :: s) ++ rest) :=
  Or.inr (Or.inr ⟨w, c, s ++ rest, by simp, hc⟩)

theorem Lexeme.seam (l : Lexeme) (rest : Text) : Seam (l.text ++ rest) := by
  cases l with
  | closer l => exact seam_angle l.afterAngle (Or.inr rfl) _ rest
  | opener l => exact seam_angle l.afterAngle (Or.inl rfl) _ rest
  | interpolation l => exact Or.inr (Or.inl ⟨_, rfl⟩)

/-- The inside of a construct and a seam have no beginning in common. -/
theorem Seam.not_inner {c : Char} {s rest : Text} (h : Seam (c :: s ++ rest)) :
    ¬ Inner (c :: s) := by
  intro hinner
  rcases h with hnil | ⟨tail, hpercent⟩ | ⟨w, d, tail, hangle, hd⟩
  · cases hnil
  · exact hinner.1 (List.cons.inj hpercent).1
  · obtain ⟨rfl, hs⟩ := List.cons.inj hangle
    replace hs : s ++ rest = w.1 ++ d :: tail := hs
    obtain ⟨e, tail', hskip, hhash, hslash⟩ := (hinner.2.1 rfl).append rest
    have hdelimiter : d ∈ delimiters := by
      rcases hd with rfl | rfl <;> decide
    -- Behind the same white space there is one of the two signs, and there is not.
    have hde : d :: tail = e :: tail' := by
      rw [← hskip, hs, Text.skipSpace_blank_append w
        (Text.stopsAt_isSpace_delimiter hdelimiter tail)]
    rw [(List.cons.inj hde).1] at hd
    rcases hd with rfl | rfl
    · exact hhash rfl
    · exact hslash rfl

/-- **What begins before a seam ends before it**: a text that is inner after
its first character does not go on past a seam. -/
theorem Seam.within {b next rest tail : Text} {c : Char} (hnext : Seam next)
    (hb : b ≠ []) (htail : Inner tail) (h : b ++ next = c :: tail ++ rest) :
    ∃ r, b = c :: tail ++ r ∧ rest = r ++ next := by
  rcases List.append_eq_append_iff.mp h with ⟨m, hm, hrest⟩ | ⟨r, hr, hrest⟩
  · -- The construct would have to go on by `m` behind the seam.
    cases m with
    | nil => exact ⟨[], by simpa using hm.symm, by simpa using hrest.symm⟩
    | cons d m =>
      exfalso
      cases b with
      | nil => exact hb rfl
      | cons e b =>
        rw [(List.cons.inj hm).2] at htail
        rw [hrest] at hnext
        exact hnext.not_inner htail.of_append
  · exact ⟨r, hr, hrest⟩

/-! ### What matters to reading -/

/-- The construct has a place where as many conditionals are open. -/
def Lexeme.Counts (depth : Nat) : Lexeme → Prop
  | .closer l => l.name = ifName ∧ 0 < depth
  | .opener l => l.condition.nesting ≤ nestingLimit
  | .interpolation _ => True

/-- What stands at the front is not taken as text: in strict reading a
mark, in lenient reading a construct that has its place here. -/
def Matters (strict : Bool) (depth : Nat) (s : Text) : Prop :=
  if strict then Marked s else ∃ (l : Lexeme) (rest : Text), l.Counts depth ∧ s = l.text ++ rest

section Matters

variable {strict : Bool} {depth : Nat}

/-- A construct that has its place matters in either case. -/
theorem matters_of_counts {l : Lexeme} (h : l.Counts depth) (rest : Text) :
    Matters strict depth (l.text ++ rest) := by
  cases strict with
  | true => exact l.marked rest
  | false => exact ⟨l, rest, h, rfl⟩

theorem marked_append {s : Text} (h : Marked s) (t : Text) : Marked (s ++ t) := by
  rcases h with ⟨l, rest, rfl⟩ | ⟨w, rest, rfl⟩ | ⟨rest, rfl⟩
  · exact Or.inl ⟨l, rest ++ t, List.append_assoc _ _ _⟩
  · exact Or.inr (Or.inl ⟨w, rest ++ t, by simp⟩)
  · exact Or.inr (Or.inr ⟨rest ++ t, rfl⟩)

/-- A mark that begins before a seam ends before it. -/
theorem marked_of_append {b next : Text} (hb : b ≠ []) (hnext : Seam next)
    (h : Marked (b ++ next)) : Marked b := by
  rcases h with ⟨l, rest, h⟩ | ⟨w, rest, h⟩ | ⟨rest, h⟩
  · obtain ⟨tail, htext, hinner⟩ := l.exists_cons_text
    rw [htext] at h
    obtain ⟨r, hr, -⟩ := hnext.within hb hinner h
    exact Or.inl ⟨l, r, by rw [htext, hr]⟩
  · have hinner : Inner (w.1 ++ ['#']) :=
      inner_append (inner_blank w) (inner_of_all (by decide))
    have hsplit : b ++ next = '<' :: (w.1 ++ ['#']) ++ rest := by
      rw [h]
      simp
    obtain ⟨r, rfl, -⟩ := hnext.within hb hinner hsplit
    exact Or.inr (Or.inl ⟨w, r, by simp⟩)
  · have hinner : Inner ['\x7b'] := inner_of_all (by decide)
    have hsplit : b ++ next = '%' :: ['\x7b'] ++ rest := h
    obtain ⟨r, hr, -⟩ := hnext.within hb hinner hsplit
    exact Or.inr (Or.inr ⟨r, hr⟩)

/-- What matters is whole, and matters whatever follows. -/
theorem Matters.append {s : Text} (h : Matters strict depth s) (t : Text) :
    Matters strict depth (s ++ t) := by
  cases strict with
  | true => exact marked_append h t
  | false =>
    obtain ⟨l, rest, hcounts, rfl⟩ := h
    exact ⟨l, rest ++ t, hcounts, List.append_assoc _ _ _⟩

/-- **Locality**: whether a place inside a literal matters is told by the
literal alone. -/
theorem matters_append_iff {b next : Text} (hb : b ≠ []) (hnext : Seam next) :
    Matters strict depth (b ++ next) ↔ Matters strict depth b := by
  refine ⟨fun h => ?_, fun h => h.append next⟩
  cases strict with
  | true => exact marked_of_append hb hnext h
  | false =>
    obtain ⟨l, rest, hcounts, h⟩ := h
    obtain ⟨c, tail, htext, hinner⟩ := l.exists_cons_text
    rw [htext] at h
    obtain ⟨r, hr, -⟩ := hnext.within hb hinner h
    exact ⟨l, r, hcounts, by rw [htext, hr]⟩

/-- Nothing that matters begins in the first of two texts that follow one
another. -/
def Spared (strict : Bool) (depth : Nat) (t s : Text) : Prop :=
  ∀ b, b <:+ t → b ≠ [] → ¬ Matters strict depth (b ++ s)

/-- No place of the text matters. -/
def Inert (strict : Bool) (depth : Nat) (t : Text) : Prop :=
  ∀ b, b <:+ t → b ≠ [] → ¬ Matters strict depth b

theorem spared_nil (s : Text) : Spared strict depth [] s := by
  intro b hb hne
  exact absurd (List.suffix_nil.mp hb) hne

/-- One character more is taken as text. -/
theorem Spared.snoc {t s : Text} {c : Char} (h : Spared strict depth t (c :: s))
    (hc : ¬ Matters strict depth (c :: s)) : Spared strict depth (t ++ [c]) s := by
  intro b hb hne
  rcases List.suffix_concat_iff.mp hb with rfl | ⟨b', rfl, hb'⟩
  · exact absurd rfl hne
  · rw [List.append_assoc, List.singleton_append]
    -- A place before the new character was spared already, and the new one is spared
    -- now.
    by_cases hb'' : b' = []
    · rw [hb'']
      exact hc
    · exact h b' hb' hb''

/-- At a seam it makes no difference what follows. -/
theorem spared_iff_inert {t s : Text} (hs : Seam s) :
    Spared strict depth t s ↔ Inert strict depth t := by
  constructor
  · intro h b hb hne hmatters
    exact h b hb hne ((matters_append_iff hne hs).mpr hmatters)
  · intro h b hb hne hmatters
    exact h b hb hne ((matters_append_iff hne hs).mp hmatters)

theorem Inert.tail {c : Char} {t : Text} (h : Inert strict depth (c :: t)) :
    Inert strict depth t :=
  fun b hb => h b (hb.trans (List.suffix_cons c t))

/-- No place of a literal matters before a seam. -/
theorem Inert.not_matters {t next : Text} (h : Inert strict depth t) (ht : t ≠ [])
    (hnext : Seam next) : ¬ Matters strict depth (t ++ next) :=
  fun hmatters => h t List.suffix_rfl ht ((matters_append_iff ht hnext).mp hmatters)

end Matters

end Stencil
