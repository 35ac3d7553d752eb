import Stencil.Proofs.Template.Passage
import Stencil.Proofs.Template.Transform

/-!
# `Stencil.Proofs.Template.Notice`: what lenient reading tells

Lenient reading goes past what is wrong and gives a notice of it. Each place
of a template is looked at by several readers, and what failed at one place
is looked at again from the next place on. So it is not plain that nothing is
told twice and that nothing is left out.

`Template.notices_of_parse` says that the notices of a template that was read
are those of its spans. A literal has one for each of its places where a mark
stands. An interpolation has one if the name in its lexeme is not known. The
tags of conditionals have none, and nothing inside of a lexeme is told. Their
offsets ascend, so there is one notice at most for each place.

`Machine.run_of_fits` gives the notices as a list. The lemmas here say what is
in that list, first for a literal and then for a row of spans.
-/

set_option autoImplicit false

namespace Stencil

open Text (Blank)

namespace Notice

variable {τ : Type} {next t : Text} {position : Nat} {n : Notice}

/-- The offsets of the notices ascend, so no two are the same. -/
def Ascending (notices : List Notice) : Prop :=
  notices.Pairwise fun a b => a.position < b.position

/-- The notices that follow one another ascend if all of the later ones come
after some offset that the earlier ones come before. -/
theorem Ascending.append {notices notices' : List Notice} (h : Ascending notices)
    (h' : Ascending notices') (middle : Nat) (hbefore : ∀ n ∈ notices, n.position < middle)
    (hafter : ∀ n ∈ notices', middle ≤ n.position) : Ascending (notices ++ notices') := by
  refine List.pairwise_append.mpr ⟨h, h', ?_⟩
  intro a ha b hb
  exact Nat.lt_of_lt_of_le (hbefore a ha) (hafter b hb)

/-- The notices of a literal are about its places, and tell what is wrong
there. -/
theorem mem_ofText_iff : n ∈ ofText next position t ↔ ∃ i defect, i < t.length ∧
    flaw? ((t ++ next).drop i) = some defect ∧ n = ⟨.broken defect, position + i⟩ := by
  induction t generalizing position with
  | nil => simp [ofText]
  | cons c t ih =>
    rw [ofText, List.mem_append, Option.mem_toList, Option.map_eq_some_iff, ih]
    constructor
    · rintro (⟨defect, hflaw, rfl⟩ | ⟨i, defect, hi, hflaw, rfl⟩)
      · exact ⟨0, defect, Nat.succ_pos _, hflaw, rfl⟩
      · refine ⟨i + 1, defect, Nat.succ_lt_succ hi, hflaw, ?_⟩
        rw [Nat.add_assoc, Nat.add_comm 1 i]
    · rintro ⟨i, defect, hi, hflaw, rfl⟩
      cases i with
      | zero => exact Or.inl ⟨defect, hflaw, rfl⟩
      | succ i =>
        refine Or.inr ⟨i, defect, Nat.lt_of_succ_lt_succ hi, hflaw, ?_⟩
        rw [Nat.add_assoc, Nat.add_comm 1 i]

theorem ascending_ofText (next : Text) (position : Nat) (t : Text) :
    Ascending (ofText next position t) := by
  induction t generalizing position with
  | nil => exact List.Pairwise.nil
  | cons c t ih =>
    have hfirst : ∀ n ∈ ((flaw? (c :: t ++ next)).map fun defect =>
        (⟨.broken defect, position⟩ : Notice)).toList, n.position = position := by
      intro n hn
      rw [Option.mem_toList, Option.map_eq_some_iff] at hn
      obtain ⟨defect, -, rfl⟩ := hn
      rfl
    refine Ascending.append ?_ (ih (position + 1)) (position + 1) ?_ ?_
    · cases flaw? (c :: t ++ next) with
      | none => exact List.Pairwise.nil
      | some defect => exact List.pairwise_singleton _ _
    · intro n hn
      rw [hfirst n hn]
      exact Nat.lt_succ_self position
    · intro n hn
      obtain ⟨i, defect, -, -, rfl⟩ := mem_ofText_iff.mp hn
      exact Nat.le_add_right _ _

variable {resolve : Text → Option τ} {l : Lexeme.Interpolation}

/-- The notice of an interpolation is about its place, and tells the name that
is not known. -/
theorem mem_ofInterpolation_iff : n ∈ ofInterpolation resolve position l ↔
    ∃ name, l.name = some name ∧ resolve name = none ∧ n = ⟨.unknownTransform name, position⟩ := by
  unfold ofInterpolation
  cases l.name with
  | none => simp
  | some name => cases hresolve : resolve name <;> simp [hresolve]

theorem ascending_ofInterpolation : Ascending (ofInterpolation resolve position l) := by
  unfold ofInterpolation Ascending
  split
  · exact List.Pairwise.nil
  · split
    · exact List.Pairwise.nil
    · exact List.pairwise_singleton _ _

end Notice

/-! ### The notices of a row of spans -/

namespace Span

variable {τ : Type} {resolve : Text → Option τ} {position : Nat} {next : Text}

/-- The span stands in the row, at the offset. -/
def StandsAt (spans : List Span) (position : Nat) (span : Span) : Prop :=
  ∃ before after, spans = before ++ span :: after ∧ (before.flatMap text).length = position

/-- The offset lies in a literal of the row. -/
def InLiteral (spans : List Span) (position : Nat) : Prop :=
  ∃ start t, StandsAt spans start (.literal t) ∧ start ≤ position ∧ position < start + t.length

/-- A notice of a span is about one of its places. -/
theorem position_mem_notices {span : Span} {n : Notice}
    (h : n ∈ span.notices resolve position next) :
    position ≤ n.position ∧ n.position < position + span.text.length := by
  cases span with
  | literal t =>
    obtain ⟨i, defect, hi, -, rfl⟩ := Notice.mem_ofText_iff.mp h
    exact ⟨Nat.le_add_right _ _, Nat.add_lt_add_left hi position⟩
  | lexeme l =>
    cases l with
    | interpolation l =>
      obtain ⟨name, -, -, rfl⟩ := Notice.mem_ofInterpolation_iff.mp h
      exact ⟨Nat.le_refl _, Nat.lt_add_of_pos_right (Nat.succ_pos _)⟩
    | closer l => cases h
    | opener l => cases h

theorem ascending_notices (span : Span) : Notice.Ascending (span.notices resolve position next) := by
  cases span with
  | literal t => exact Notice.ascending_ofText next position t
  | lexeme l =>
    cases l with
    | interpolation l => exact Notice.ascending_ofInterpolation
    | closer l => exact List.Pairwise.nil
    | opener l => exact List.Pairwise.nil

/-- The notices of a row are those of its spans where they stand. -/
theorem mem_allNotices_iff {spans : List Span} {n : Notice} :
    n ∈ allNotices resolve next position spans ↔ ∃ before span after,
      spans = before ++ span :: after ∧
        n ∈ span.notices resolve (position + (before.flatMap text).length)
          (after.flatMap text ++ next) := by
  induction spans generalizing position with
  | nil => simp [allNotices]
  | cons span spans ih =>
    rw [allNotices, List.mem_append, ih]
    constructor
    · rintro (h | ⟨before, span', after, rfl, h⟩)
      · exact ⟨[], span, spans, rfl, h⟩
      · refine ⟨span :: before, span', after, rfl, ?_⟩
        rw [List.flatMap_cons, List.length_append, ← Nat.add_assoc]
        exact h
    · rintro ⟨before, span', after, hspans, h⟩
      cases before with
      | nil =>
        obtain ⟨rfl, rfl⟩ := List.cons.inj hspans
        exact Or.inl h
      | cons first before =>
        obtain ⟨rfl, rfl⟩ := List.cons.inj hspans
        rw [List.flatMap_cons, List.length_append, ← Nat.add_assoc] at h
        exact Or.inr ⟨before, span', after, rfl, h⟩

/-- No notice of a row is about a place before it. -/
theorem le_position_of_mem_allNotices {spans : List Span} {n : Notice}
    (h : n ∈ allNotices resolve next position spans) : position ≤ n.position := by
  obtain ⟨before, span, after, -, hn⟩ := mem_allNotices_iff.mp h
  exact Nat.le_trans (Nat.le_add_right _ _) (position_mem_notices hn).1

/-- **The notices of a row ascend.** The induction is on the row: the notices
of its first span lie inside of it, and all others come after it. -/
theorem ascending_allNotices (spans : List Span) :
    Notice.Ascending (allNotices resolve next position spans) := by
  induction spans generalizing position with
  | nil => exact List.Pairwise.nil
  | cons span spans ih =>
    refine (ascending_notices span).append ih (position + span.text.length) ?_ ?_
    · intro n hn
      exact (position_mem_notices hn).2
    · intro n hn
      exact le_position_of_mem_allNotices hn

section

variable {spans : List Span} {offset : Nat}

/-- What is rejected in a row are the places in its literals where something
is wrong. -/
theorem broken_mem_allNotices_iff {defect : Defect} :
    ⟨.broken defect, offset⟩ ∈ allNotices resolve [] 0 spans ↔
      InLiteral spans offset ∧ flaw? ((spans.flatMap text).drop offset) = some defect := by
  rw [mem_allNotices_iff]
  constructor
  · rintro ⟨before, span, after, rfl, h⟩
    cases span with
    | lexeme l =>
      cases l with
      | interpolation l =>
        obtain ⟨name, -, -, heq⟩ := Notice.mem_ofInterpolation_iff.mp h
        cases heq
      | closer l => cases h
      | opener l => cases h
    | literal t =>
      obtain ⟨i, defect', hi, hflaw, heq⟩ := Notice.mem_ofText_iff.mp h
      obtain ⟨hdefect, rfl⟩ := Notice.mk.inj heq
      obtain rfl := Problem.broken.inj hdefect
      refine ⟨⟨_, t, ⟨before, after, rfl, rfl⟩, by omega, by omega⟩, ?_⟩
      rw [← hflaw, List.append_nil, List.flatMap_append, Nat.zero_add, ← List.drop_drop,
        List.drop_left]
      rfl
  · rintro ⟨⟨start, t, ⟨before, after, rfl, rfl⟩, hle, hlt⟩, hflaw⟩
    obtain ⟨i, rfl⟩ := Nat.exists_eq_add_of_le hle
    refine ⟨before, .literal t, after, rfl,
      Notice.mem_ofText_iff.mpr ⟨i, defect, Nat.lt_of_add_lt_add_left hlt, ?_, ?_⟩⟩
    · rw [← hflaw, List.append_nil, List.flatMap_append, ← List.drop_drop, List.drop_left]
      rfl
    · rw [Nat.zero_add]

/-- What is not known in a row are names in its interpolations. -/
theorem unknownTransform_mem_allNotices_iff {name : Text} :
    ⟨.unknownTransform name, offset⟩ ∈ allNotices resolve [] 0 spans ↔
      ∃ l, StandsAt spans offset (.lexeme (.interpolation l)) ∧
        l.name = some name ∧ resolve name = none := by
  rw [mem_allNotices_iff]
  constructor
  · rintro ⟨before, span, after, rfl, h⟩
    cases span with
    | literal t =>
      obtain ⟨i, defect, -, -, heq⟩ := Notice.mem_ofText_iff.mp h
      cases heq
    | lexeme l =>
      cases l with
      | closer l => cases h
      | opener l => cases h
      | interpolation l =>
        obtain ⟨name', hname, hresolve, heq⟩ := Notice.mem_ofInterpolation_iff.mp h
        obtain ⟨hproblem, rfl⟩ := Notice.mk.inj heq
        obtain rfl := Problem.unknownTransform.inj hproblem
        exact ⟨l, ⟨before, after, rfl, (Nat.zero_add _).symm⟩, hname, hresolve⟩
  · rintro ⟨l, ⟨before, after, rfl, rfl⟩, hname, hresolve⟩
    refine ⟨before, _, after, rfl, Notice.mem_ofInterpolation_iff.mpr ⟨name, hname, hresolve, ?_⟩⟩
    rw [Nat.zero_add]

end

end Span

/-! ### Whole templates -/

/-- The notices of a layout that is a whole template. -/
theorem Template.notices_of_fits {τ : Type} {settings : Settings} {resolve : Text → Option τ}
    {layout : Layout} (hfits : layout.Fits settings resolve 0) :
    (parse settings resolve layout.text).notices = Span.allNotices resolve [] 0 layout.spans := by
  rw [Machine.parse_eq, Machine.run_of_fits _ rfl hfits rfl (Or.inl rfl)]
  rfl

section Registry

variable {α : Type}

/-- What is told of a template with these spans: one reject for each place in a
literal where a mark stands, one warning for each interpolation that asks for
a name that is not known, and nothing else. The offsets ascend. -/
structure Span.Told (registry : Option (Registry α)) (s : Text) (spans : List Span)
    (notices : List Notice) : Prop where
  ascending : notices.Pairwise fun a b => a.position < b.position
  broken_iff : ∀ position,
    (∃ defect, ⟨.broken defect, position⟩ ∈ notices) ↔
      InLiteral spans position ∧ Marked (s.drop position)
  defect : ∀ defect position, ⟨.broken defect, position⟩ ∈ notices →
    flaw? (s.drop position) = some defect
  unknown_iff : ∀ name position, ⟨.unknownTransform name, position⟩ ∈ notices ↔
    ∃ l, StandsAt spans position (.lexeme (.interpolation l)) ∧
      l.name = some name ∧ name ∉ Registry.known registry

theorem Span.told_allNotices (registry : Option (Registry α)) (spans : List Span) :
    Told registry (spans.flatMap text) spans
      (allNotices (Registry.lookup registry) [] 0 spans) where
  ascending := ascending_allNotices spans
  broken_iff position := by
    simp only [broken_mem_allNotices_iff, exists_and_left, ← flaw?_isSome_iff,
      Option.isSome_iff_exists]
  defect defect position h := (broken_mem_allNotices_iff.mp h).2
  unknown_iff name position := by
    simp only [unknownTransform_mem_allNotices_iff, Registry.mem_known_iff,
      Option.not_isSome_iff_eq_none]

namespace Template

/-- **Lenient reading tells all that is wrong, and tells it once.** If a
template is read, it has one row of spans, and the records of the log between
the first and the last are those of the notices of that row. Each of them says
what is wrong and where. -/
theorem notices_of_parse (settings : Settings) (registry : Option (Registry α)) (s : Text)
    (nodes : List (Node (Transform α)))
    (h : (parse settings.leniently (Registry.lookup registry) s).outcome = .ok nodes) :
    let reading := parse settings.leniently (Registry.lookup registry) s
    (∃ first last, log settings.leniently s reading =
        first :: (reading.notices.map Notice.record ++ [last])) ∧
      (∀ n ∈ reading.notices, n.record.Tells n.error) ∧
      ∃ spans : List Span, Span.Split s nodes spans ∧
        (∀ spans' : List Span, Span.Split s nodes spans' → spans' = spans) ∧
          Span.Told registry s spans reading.notices := by
  intro reading
  refine ⟨⟨_, _, by simp only [log, reading, h]; rfl⟩, fun n _ => n.tells, ?_⟩
  obtain ⟨layout, hfits, rfl, rfl⟩ := parse_outcome_eq_ok_iff.mp h
  have hsplit := Layout.split_spans hfits
  refine ⟨layout.spans, hsplit, fun spans' hsplit' => hsplit'.unique hsplit, ?_⟩
  have hnotices : reading.notices = _ := notices_of_fits hfits
  rw [hnotices, ← hsplit.text]
  exact Span.told_allNotices registry layout.spans

/-- An interpolation that is broken, and one that asks for a transform where
none is known. -/
theorem notices_of_parse_unknown :
    let s : Text := ['%', '\x7b', '%', '\x7b', 'a', ' ', 'u', '\x7d']
    let reading := parse Settings.defaults.leniently
      (Registry.lookup (none : Option (Registry Unit))) s
    reading.outcome = .ok [.literal ['%', '\x7b'], .interpolation ⟨['a'], []⟩ none] ∧
      (∃ defect, ⟨.broken defect, 0⟩ ∈ reading.notices) ∧
      ⟨.unknownTransform ['u'], 2⟩ ∈ reading.notices := by
  intro s reading
  let l : Lexeme.Interpolation := ⟨Blank.none, ⟨['a'], []⟩,
    some ⟨Blank.single, ['u'], List.cons_ne_nil _ _, by decide⟩, Blank.none, by decide⟩
  let spans : List Span := [.literal ['%', '\x7b'], .lexeme (.interpolation l)]
  have hinert : Inert false 0 ['%', '\x7b'] := inert_false_of_readers (by decide)
  have h : reading.outcome = .ok [.literal ['%', '\x7b'], .interpolation ⟨['a'], []⟩ none] :=
    parse_outcome_eq_ok_iff.mpr ⟨.literal ['%', '\x7b'] (.interpolation l .done),
      ⟨⟨List.cons_ne_nil _ _, hinert, rfl⟩, Bool.noConfusion, trivial⟩, rfl, rfl⟩
  obtain ⟨-, -, spans', -, hunique, htold⟩ := notices_of_parse Settings.defaults none s _ h
  have hspans : spans = spans' := hunique spans ⟨.literal _ (.interpolation l none .nil), rfl⟩
  subst hspans
  have hmarked : Marked s := Or.inr (Or.inr ⟨_, rfl⟩)
  refine ⟨h, (htold.broken_iff 0).mpr ⟨⟨0, _, ⟨[], _, rfl, rfl⟩, Nat.le_refl 0, ?_⟩, hmarked⟩, ?_⟩
  · decide
  · exact (htold.unknown_iff ['u'] 2).mpr
      ⟨l, ⟨[.literal ['%', '\x7b']], [], rfl, rfl⟩, rfl, List.not_mem_nil⟩

end Template

end Registry

end Stencil
