import Mathlib.Data.List.Induction
import Stencil.Proofs.Condition.Read

/-!
# `Stencil.Proofs.Condition.Grammar`: reading decides the grammar of conditions

The grammar, where `k` counts the groups and negations around a phrase:

    CONDITION(k) = TERM(k) | TERM(k) "||" TERM(k)
    TERM(k)      = FACTOR(k) | FACTOR(k) "&&" FACTOR(k)
    FACTOR(k)    = "(" CONDITION(k + 1) ")"      if k is below the limit
                 | "!" FACTOR(k + 1)             if k is below the limit
                 | PATH COMPARATOR PATH
    PATH         = IDENTIFIER ("." IDENTIFIER "()"?)*

White space may stand around every sign, and none stands inside a path.
`Phrase` is this grammar rule by rule, with the condition that each rule
means. It says nothing of readers, of what may follow, or of how far a
reader goes.

A spelling is a derivation in it (`phrase_iff_exists_spelling`). Where the
grammar counts from the outside how much is around a phrase,
`Spelling.nesting` counts from the inside, and the limit binds the sum. So
what is known of spellings and readers carries over: a text is read if and
only if it is a written form, as the condition of its derivation
(`parse_eq_ok_iff_writtenForm`), and what is left over as not belonging to a
condition stands behind a text that is one (`exists_parse_take`).
-/

set_option autoImplicit false

namespace Stencil

open Text (Blank StopsAt isSpace skipSpace)

/-! ### Paths -/

/-- The grammar of paths: a head, and one member after the other behind
it. -/
inductive Path.Phrase : Text → Path → Prop where
  | head {name : Text} (hname : Text.isIdentifier name = true) : Phrase name ⟨name, []⟩
  | member {s : Text} {p : Path} {seg : Segment} (hp : Phrase s p)
      (hname : Text.isIdentifier seg.name = true) :
      Phrase (s ++ '.' :: seg.print) ⟨p.head, p.segments ++ [seg]⟩

/-- One member more, written behind the path. -/
theorem Path.print_snoc (head : Text) (segs : List Segment) (seg : Segment) :
    (Path.mk head (segs ++ [seg])).print = (Path.mk head segs).print ++ '.' :: seg.print := by
  simp [Path.print]

/-- What the grammar derives are the written forms of the paths whose names
are identifiers. -/
theorem Path.phrase_iff {s : Text} {p : Path} :
    Path.Phrase s p ↔ p.isLexical = true ∧ s = p.print := by
  constructor
  · intro h
    induction h with
    | head hname => simpa [isLexical, print] using hname
    | member hp hname ih =>
      obtain ⟨hlexical, rfl⟩ := ih
      refine ⟨?_, (print_snoc _ _ _).symm⟩
      simp only [isLexical, Bool.and_eq_true] at hlexical
      simp [isLexical, hlexical, hname]
  · intro h
    obtain ⟨hlexical, rfl⟩ := h
    obtain ⟨head, segs⟩ := p
    simp only [isLexical, Bool.and_eq_true, List.all_eq_true] at hlexical
    obtain ⟨hhead, hnames⟩ := hlexical
    -- The grammar adds members at the end, so the induction takes them off there.
    induction segs using List.reverseRecOn with
    | nil =>
      have hprint : (Path.mk head []).print = head := by simp [print]
      rw [hprint]
      exact .head hhead
    | append_singleton segs seg ih =>
      rw [print_snoc]
      have hrest := ih fun s hs => hnames s (List.mem_append_left _ hs)
      exact .member hrest (hnames seg (by simp))

namespace Condition

/-! ### Conditions -/

/-- The parts of speech of the grammar. -/
inductive Part where
  | factor
  | term
  | condition

/-- A part of speech may be a spelling up to this level. -/
def Part.level : Part → Nat
  | .factor => 0
  | .term => 1
  | .condition => 2

/-- The grammar of conditions. `Phrase part k s c` says that `s` may stand
as that part of speech inside `k` groups and negations, and means `c`. -/
inductive Phrase : Part → Nat → Text → Condition → Prop where
  | compare {k : Nat} {s t : Text} {left right : Path} (hleft : Path.Phrase s left)
      (before : Blank) (op : Comparator) (after : Blank) (hright : Path.Phrase t right) :
      Phrase .factor k (s ++ (before.1 ++ (op.symbol ++ (after.1 ++ t))))
        (.compare left op right)
  | group {k : Nat} {s : Text} {c : Condition} (hk : k < nestingLimit) (before : Blank)
      (hs : Phrase .condition (k + 1) s c) (after : Blank) :
      Phrase .factor k ('(' :: (before.1 ++ (s ++ (after.1 ++ [')'])))) c
  | not {k : Nat} {s : Text} {c : Condition} (hk : k < nestingLimit) (after : Blank)
      (hs : Phrase .factor (k + 1) s c) : Phrase .factor k ('!' :: (after.1 ++ s)) (.not c)
  | factor {k : Nat} {s : Text} {c : Condition} (hs : Phrase .factor k s c) :
      Phrase .term k s c
  | and {k : Nat} {s t : Text} {c d : Condition} (hs : Phrase .factor k s c)
      (before after : Blank) (ht : Phrase .factor k t d) :
      Phrase .term k (s ++ (before.1 ++ (['&', '&'] ++ (after.1 ++ t)))) (.and c d)
  | term {k : Nat} {s : Text} {c : Condition} (hs : Phrase .term k s c) :
      Phrase .condition k s c
  | or {k : Nat} {s t : Text} {c d : Condition} (hs : Phrase .term k s c)
      (before after : Blank) (ht : Phrase .term k t d) :
      Phrase .condition k (s ++ (before.1 ++ (['|', '|'] ++ (after.1 ++ t)))) (.or c d)

/-- A phrase may stand as every part of speech that is no narrower. -/
theorem Phrase.widen {part wider : Part} {k : Nat} {s : Text} {c : Condition}
    (h : Phrase part k s c) (hpart : part.level ≤ wider.level) : Phrase wider k s c := by
  cases part <;> cases wider
  case factor.term => exact .factor h
  case factor.condition => exact .term (.factor h)
  case term.condition => exact .term h
  all_goals first | exact h | exact absurd hpart (by decide)

/-- A spelling of the part of speech that writes the text and means the
condition, and that nests as deep as is left to it. -/
def SpelledAs (part : Part) (k : Nat) (s : Text) (c : Condition) : Prop :=
  ∃ e : Spelling, e.IsProper ∧ e.level ≤ part.level ∧ e.nesting ≤ nestingLimit - k ∧
    e.text = s ∧ e.value = c

/-- Two phrases with the sign between them are a phrase on the level of the
sign. -/
theorem SpelledAs.join {part lower : Part} {k : Nat} {s t : Text} {c d : Condition}
    (j : Junction) (hpart : part.level = j.level) (hlower : lower.level < j.level)
    (before after : Blank) (hs : SpelledAs lower k s c) (ht : SpelledAs lower k t d) :
    SpelledAs part k (s ++ (before.1 ++ (j.sign ++ (after.1 ++ t)))) (j.join c d) := by
  obtain ⟨l, hl, hllevel, hlnesting, rfl, rfl⟩ := hs
  obtain ⟨r, hr, hrlevel, hrnesting, rfl, rfl⟩ := ht
  refine ⟨.join j l before after r, ⟨⟨by omega, by omega⟩, hl, hr⟩, ?_,
    Nat.max_le.mpr ⟨hlnesting, hrnesting⟩, rfl, rfl⟩
  exact Nat.le_of_eq hpart.symm

/-- Every derivation is a spelling, by induction on the derivation. -/
theorem Phrase.spelledAs {part : Part} {k : Nat} {s : Text} {c : Condition}
    (h : Phrase part k s c) : SpelledAs part k s c := by
  induction h with
  | compare hleft before op after hright =>
    obtain ⟨hl, rfl⟩ := Path.phrase_iff.mp hleft
    obtain ⟨hr, rfl⟩ := Path.phrase_iff.mp hright
    exact ⟨.compare _ before op after _, ⟨hl, hr⟩, Nat.le_refl 0, Nat.zero_le _, rfl, rfl⟩
  | group hk before hs after ih =>
    obtain ⟨e, he, -, hnesting, rfl, rfl⟩ := ih
    refine ⟨.group before e after, he, Nat.le_refl 0, ?_, rfl, rfl⟩
    rw [Spelling.nesting]
    omega
  | not hk after hs ih =>
    obtain ⟨e, he, hlevel, hnesting, rfl, rfl⟩ := ih
    refine ⟨.not after e, ⟨Nat.le_zero.mp hlevel, he⟩, Nat.le_refl 0, ?_, rfl, rfl⟩
    rw [Spelling.nesting]
    omega
  | factor hs ih =>
    obtain ⟨e, he, hlevel, hrest⟩ := ih
    exact ⟨e, he, Nat.le_succ_of_le hlevel, hrest⟩
  | and hs before after ht ihs iht =>
    exact ihs.join .and rfl (by decide) before after iht
  | term hs ih =>
    obtain ⟨e, he, hlevel, hrest⟩ := ih
    exact ⟨e, he, Nat.le_succ_of_le hlevel, hrest⟩
  | or hs before after ht ihs iht =>
    exact ihs.join .or rfl (by decide) before after iht

/-- Every spelling that nests no deeper than is left to it is a derivation,
by induction on the spelling. -/
theorem phrase_of_spelling {e : Spelling} (he : e.IsProper) {part : Part} {k : Nat}
    (hlevel : e.level ≤ part.level) (hnesting : e.nesting ≤ nestingLimit - k) :
    Phrase part k e.text e.value := by
  induction e generalizing part k with
  | compare left before op after right =>
    have hleft := Path.phrase_iff.mpr ⟨he.1, rfl⟩
    have hright := Path.phrase_iff.mpr ⟨he.2, rfl⟩
    exact (Phrase.compare hleft before op after hright).widen hlevel
  | group before inner after ih =>
    rw [Spelling.nesting] at hnesting
    -- One group less is left to the inside, which may be any condition.
    have hinner : Phrase .condition (k + 1) inner.text inner.value :=
      ih he inner.level_le_two (by omega)
    exact (Phrase.group (by omega) before hinner after).widen hlevel
  | not after inner ih =>
    rw [Spelling.nesting] at hnesting
    have hinner : Phrase .factor (k + 1) inner.text inner.value :=
      ih he.2 (Nat.le_of_eq he.1) (by omega)
    exact (Phrase.not (by omega) after hinner).widen hlevel
  | join junction left before after right ihl ihr =>
    obtain ⟨⟨hllevel, hrlevel⟩, hl, hr⟩ := he
    obtain ⟨hlnesting, hrnesting⟩ := Nat.max_le.mp hnesting
    cases junction with
    | and =>
      have hleft : Phrase .factor k left.text left.value :=
        ihl hl (Nat.le_of_lt_succ hllevel) hlnesting
      have hright : Phrase .factor k right.text right.value :=
        ihr hr (Nat.le_of_lt_succ hrlevel) hrnesting
      exact (Phrase.and hleft before after hright).widen hlevel
    | or =>
      have hleft : Phrase .term k left.text left.value :=
        ihl hl (Nat.le_of_lt_succ hllevel) hlnesting
      have hright : Phrase .term k right.text right.value :=
        ihr hr (Nat.le_of_lt_succ hrlevel) hrnesting
      exact (Phrase.or hleft before after hright).widen hlevel

/-- **Derivations and spellings are the same.** -/
theorem phrase_iff_exists_spelling {part : Part} {k : Nat} {s : Text} {c : Condition} :
    Phrase part k s c ↔ SpelledAs part k s c := by
  constructor
  · exact Phrase.spelledAs
  · intro h
    obtain ⟨e, he, hlevel, hnesting, rfl, rfl⟩ := h
    exact phrase_of_spelling he hlevel hnesting

/-! ### Whole texts -/

/-- The text is a condition of the grammar with white space around it, and
means the condition. -/
def WrittenForm (s : Text) (c : Condition) : Prop :=
  ∃ (before : Blank) (t : Text) (after : Blank),
    s = before.1 ++ (t ++ after.1) ∧ Phrase .condition 0 t c

/-- A written form is a spelling with white space around it. -/
theorem writtenForm_iff {s : Text} {c : Condition} :
    WrittenForm s c ↔ ∃ (before : Blank) (e : Spelling) (after : Blank), e.IsProper ∧
      e.nesting ≤ nestingLimit ∧ e.value = c ∧ s = before.1 ++ (e.text ++ after.1) := by
  constructor
  · intro h
    obtain ⟨before, t, after, rfl, hphrase⟩ := h
    obtain ⟨e, he, -, hnesting, rfl, hvalue⟩ := phrase_iff_exists_spelling.mp hphrase
    exact ⟨before, e, after, he, hnesting, hvalue, rfl⟩
  · intro h
    obtain ⟨before, e, after, he, hnesting, rfl, rfl⟩ := h
    exact ⟨before, e.text, after, rfl, phrase_of_spelling he e.level_le_two hnesting⟩

/-- White space at the end of a text is a boundary. -/
theorem boundary_blank (w : Blank) : Boundary w.1 := by
  have hstop : StopsAt Path.mayContinue (w.1 ++ []) :=
    Text.stopsAt_blank_append (fun c hc => Path.mayContinue_eq_false_of_isSpace hc) w
      Text.stopsAt_nil
  rw [List.append_nil] at hstop
  refine ⟨hstop, fun k w' s hs => ?_⟩
  rw [← List.append_nil w.1] at hs
  obtain ⟨-, hsign⟩ := Text.blank_append_inj Text.stopsAt_nil (k.stopsAt_isSpace_sign s) hs
  exact k.append_sign_ne_nil [] s hsign.symm

section Parse

variable {s t rest : Text} {c : Condition} {position : Nat}

/-- What a text is read as: a condition if nothing but white space is left
behind one, and an error if more is left or there is none. -/
theorem parse_cases (s : Text) :
    (∃ c rest, condition? nestingLimit (skipSpace s) = some (c, rest) ∧
      skipSpace rest = [] ∧ parse s = .ok c) ∨
    (∃ c rest, condition? nestingLimit (skipSpace s) = some (c, rest) ∧
      skipSpace rest ≠ [] ∧
        parse s = .error (.leftover (skipSpace rest) (s.length - (skipSpace rest).length))) ∨
    (condition? nestingLimit (skipSpace s) = none ∧
      parse s = .error (.invalid s (s.length - (skipSpace s).length))) := by
  cases hread : condition? nestingLimit (skipSpace s) with
  | none =>
    refine Or.inr (Or.inr ⟨rfl, ?_⟩)
    rw [parse, hread]
  | some found =>
    obtain ⟨c, rest⟩ := found
    by_cases hrest : skipSpace rest = []
    · refine Or.inl ⟨c, rest, rfl, hrest, ?_⟩
      simp [parse, hread, hrest]
    · refine Or.inr (Or.inl ⟨c, rest, rfl, hrest, ?_⟩)
      simp [parse, hread, hrest]

/-- A text is read as a condition if nothing but white space is left. -/
theorem parse_eq_ok_iff_read : parse s = .ok c ↔
    ∃ rest, condition? nestingLimit (skipSpace s) = some (c, rest) ∧ skipSpace rest = [] := by
  rcases parse_cases s with ⟨d, left, hread, hleft, hparse⟩ | ⟨d, left, hread, hleft, hparse⟩ |
    ⟨hread, hparse⟩
  · simp [hread, hparse, hleft]
  · simp [hread, hparse, hleft]
  · simp [hread, hparse]

/-- **A text is read if and only if it is a written form**, and then as the
condition of its derivation. -/
theorem parse_eq_ok_iff_writtenForm : parse s = .ok c ↔ WrittenForm s c := by
  rw [parse_eq_ok_iff_read, writtenForm_iff]
  constructor
  · intro h
    obtain ⟨rest, hread, hrest⟩ := h
    obtain ⟨e, he, -, hnesting, hvalue, htext, -⟩ := spelled_of_readAt (Nat.le_refl 2) hread
    obtain ⟨before, hbefore⟩ := Text.exists_blank_append_skipSpace s
    obtain ⟨after, hafter⟩ := Text.exists_blank_append_skipSpace rest
    rw [hrest, List.append_nil] at hafter
    refine ⟨before, e, after, he, hnesting, hvalue, ?_⟩
    rw [hbefore, htext, hafter]
  · intro h
    obtain ⟨before, e, after, he, hnesting, rfl, rfl⟩ := h
    have hends := Spelling.ends_of_boundary he (boundary_blank after) 2
    refine ⟨after.1, ?_, ?_⟩
    · rw [Text.skipSpace_blank_append before (Spelling.stopsAt_isSpace_text he _)]
      exact readAt_text he hnesting e.level_le_two (Nat.le_refl 2) hends
    · rw [← List.append_nil after.1]
      exact Text.skipSpace_blank_append after Text.stopsAt_nil

/-- What is left over stands at the end of the text, behind a text that is
a condition. -/
theorem exists_parse_take (h : parse s = .error (.leftover t position)) :
    position < s.length ∧ t = s.drop position ∧ ∃ c, parse (s.take position) = .ok c := by
  obtain ⟨c, rest, hread, hne, rfl, rfl⟩ : ∃ c rest,
      condition? nestingLimit (skipSpace s) = some (c, rest) ∧ skipSpace rest ≠ [] ∧
        skipSpace rest = t ∧ s.length - (skipSpace rest).length = position := by
    rcases parse_cases s with ⟨_, _, _, _, hparse⟩ | ⟨c, rest, hread, hne, hparse⟩ | ⟨_, hparse⟩
    all_goals rw [hparse] at h
    · cases h
    · cases h
      exact ⟨c, rest, hread, hne, rfl, rfl⟩
    · cases h
  obtain ⟨e, he, -, hnesting, hvalue, htext, -⟩ := spelled_of_readAt (Nat.le_refl 2) hread
  obtain ⟨before, hbefore⟩ := Text.exists_blank_append_skipSpace s
  obtain ⟨after, hafter⟩ := Text.exists_blank_append_skipSpace rest
  -- The text is a written form and then what is left over.
  have hs : s = (before.1 ++ (e.text ++ after.1)) ++ skipSpace rest := by
    rw [hbefore, htext, List.append_assoc, List.append_assoc, ← hafter]
  have hposition : s.length - (skipSpace rest).length =
      (before.1 ++ (e.text ++ after.1)).length := by
    rw [hs, List.length_append, Nat.add_sub_cancel]
  have hlength : 0 < (skipSpace rest).length := List.length_pos_iff.mpr hne
  have hsuffix := congrArg List.length hs
  rw [List.length_append] at hsuffix
  rw [hposition]
  refine ⟨by omega, ?_, c, ?_⟩
  · rw [hs, List.drop_left]
  · rw [hs, List.take_left]
    exact parse_eq_ok_iff_writtenForm.mpr
      (writtenForm_iff.mpr ⟨before, e, after, he, hnesting, hvalue, rfl⟩)

end Parse

/-- **Reading decides the grammar.** A text is read as a condition if and
only if it is a written form of it, and is an error if it is a written form
of none. Where something is left over, it is the end of the text from the
offset of the error on, and what stands before it is read. -/
theorem parse_decides_grammar (s : Text) :
    (∀ c, parse s = .ok c ↔ WrittenForm s c) ∧
      ((∃ e, parse s = .error e) ↔ ¬ ∃ c, WrittenForm s c) ∧
      ∀ rest position, parse s = .error (.leftover rest position) →
        position < s.length ∧ rest = s.drop position ∧
          ∃ c, parse (s.take position) = .ok c := by
  refine ⟨fun c => parse_eq_ok_iff_writtenForm, ?_, fun rest position => exists_parse_take⟩
  simp only [← parse_eq_ok_iff_writtenForm]
  cases parse s with
  | ok c => simp
  | error e => simp

end Condition

end Stencil
