import Stencil.Proofs.Template.Layout
import Stencil.Proofs.Template.Strictness

/-!
# `Stencil.Proofs.Template.Grammar`: reading decides the grammar

A template is read if and only if it has a layout that fits, and the tree
is the one of that layout: `parse_outcome_eq_ok_iff`. This holds of strict
and of lenient reading, which differ in what literals may contain and in
what is asked of transforms.

The way there is an induction on the text. The invariant is about the text
that is pending: nothing that matters begins in it (`Spared`), so it is a
literal once a construct or the end of the text comes. The way back is an
induction on the layout. A literal is gone through character by character,
and a construct is found because its lexeme stands there.
-/

set_option autoImplicit false

namespace Stencil

open Condition (nestingLimit)

namespace Template

variable {τ : Type} {settings : Settings} {resolve : Text → Option τ}
  {depth position : Nat} {pending : Text}

/-! ### One place -/

/-- A construct is found where its lexeme stands. -/
theorem exists_front (l : Lexeme) (h : l.nesting ≤ nestingLimit) (rest : Text) :
    ∃ c tail, l.text ++ rest = c :: tail ∧ front (c :: tail) = .construct l.construct rest := by
  obtain ⟨c, tail, htext, -⟩ := l.exists_cons_text
  have hs : l.text ++ rest = c :: (tail ++ rest) := by rw [htext, List.cons_append]
  exact ⟨c, tail ++ rest, hs, front_eq_construct_iff.mpr ⟨l, h, rfl, hs.symm⟩⟩

/-- Where no construct has its place, the character is text. If there is a
mark nevertheless, it is a problem. -/
theorem scan_of_not_counts {c : Char} {tail : Text}
    (h : ∀ (l : Lexeme) (rest : Text), l.Counts depth → c :: tail ≠ l.text ++ rest) :
    ¬ Marked (c :: tail) ∧ scan settings resolve depth position pending (c :: tail) =
        scan settings resolve depth (position + 1) (c :: pending) tail ∨
      Marked (c :: tail) ∧ ∃ defect,
        scan settings resolve depth position pending (c :: tail) = (do
          Run.meet settings.strict (.broken defect) position
          scan settings resolve depth (position + 1) (c :: pending) tail) := by
  cases hfront : front (c :: tail) with
  | plain => exact Or.inl ⟨front_eq_plain_iff.mp hfront, scan_of_plain hfront⟩
  | broken defect =>
    have hmarked : Marked (c :: tail) := by
      by_contra hunmarked
      rw [front_eq_plain_iff.mpr hunmarked] at hfront
      cases hfront
    exact Or.inr ⟨hmarked, defect, scan_of_broken hfront⟩
  | construct construct rest =>
    obtain ⟨l, hnesting, rfl, hs⟩ := front_eq_construct_iff.mp hfront
    cases l with
    | closer l =>
      have hmarked : Marked (c :: tail) := Or.inl ⟨l, rest, hs⟩
      have hstray : ¬(l.name = ifName ∧ 0 < depth) := by
        intro hcounts
        exact h (.closer l) rest hcounts hs
      exact Or.inr ⟨hmarked, _, scan_of_strayCloser hfront hstray⟩
    | opener l => exact absurd hs (h (.opener l) rest hnesting)
    | interpolation l => exact absurd hs (h (.interpolation l) rest trivial)

/-- A place that does not matter is taken as text. -/
theorem outcome_of_not_matters {c : Char} {tail : Text}
    (h : ¬ Matters settings.strict depth (c :: tail)) :
    (scan settings resolve depth position pending (c :: tail)).outcome =
      (scan settings resolve depth (position + 1) (c :: pending) tail).outcome := by
  have hcounts : ∀ (l : Lexeme) (rest : Text), l.Counts depth → c :: tail ≠ l.text ++ rest := by
    intro l rest hl hs
    rw [hs] at h
    exact h (matters_of_counts hl rest)
  rcases scan_of_not_counts hcounts with ⟨-, hscan⟩ | ⟨hmarked, defect, hscan⟩
  · rw [hscan]
  · cases hstrict : settings.strict with
    | true =>
      -- In strict reading the mark would matter.
      rw [hstrict] at h
      exact absurd hmarked h
    | false =>
      rw [hscan, hstrict]
      rfl

/-- Where reading goes on and no construct has its place, the place does not
matter. -/
theorem not_matters_of_ok {c : Char} {tail : Text} {body : Body τ}
    (h : ∀ (l : Lexeme) (rest : Text), l.Counts depth → c :: tail ≠ l.text ++ rest)
    (hok : (scan settings resolve depth position pending (c :: tail)).outcome = .ok body) :
    ¬ Matters settings.strict depth (c :: tail) := by
  cases hstrict : settings.strict with
  | false =>
    intro hmatters
    obtain ⟨l, rest, hl, hs⟩ := hmatters
    exact h l rest hl hs
  | true =>
    rcases scan_of_not_counts h with ⟨hmarked, -⟩ | ⟨-, defect, hscan⟩
    · exact hmarked
    · -- Strict reading does not go past a problem.
      rw [hscan, hstrict] at hok
      cases hok

/-- The transform that is asked for is given, or left out where it is not
known and reading is lenient. -/
theorem resolved_outcome_eq_ok_iff {name : Option Text} {transform : Option τ} :
    (resolved settings resolve position name).outcome = .ok transform ↔
      (settings.strict = true → ∀ n ∈ name, (resolve n).isSome = true) ∧
        name.bind resolve = transform := by
  cases name with
  | none => simp [resolved]
  | some name =>
    cases hname : resolve name with
    | some known => simp [resolved, hname]
    | none =>
      cases hstrict : settings.strict with
      | true =>
        have hfail : (resolved settings resolve position (some name)).outcome =
            .error ⟨.problem (.unknownTransform name), position⟩ := by
          simp only [resolved, hname, hstrict]
          rfl
        simp [hfail, hname]
      | false =>
        have hnone : (resolved settings resolve position (some name)).outcome = .ok none := by
          simp only [resolved, hname, hstrict]
          rfl
        simp [hnone, hname]

theorem scan_closer (l : Lexeme.Closer) (h : (Lexeme.closer l).Counts depth) (rest : Text) :
    scan settings resolve depth position pending (l.text ++ rest) =
      pure ⟨Body.literal pending,
        (Layout.Ending.closed l rest).stop (position + (l.text ++ rest).length)⟩ := by
  obtain ⟨c, tail, hs, hfront⟩ := exists_front (.closer l) (Nat.zero_le _) rest
  replace hs : l.text ++ rest = c :: tail := hs
  rw [Lexeme.construct, h.1] at hfront
  have hlength := congrArg List.length hs
  rw [List.length_append] at hlength
  have hstop : position + ((c :: tail).length - rest.length) =
      position + (c :: tail).length - rest.length := by omega
  rw [hs, scan_of_closer hfront h.2, hstop]
  rfl

/-- The offset after a construct. -/
theorem offset_eq {text rest s : Text} (hs : text ++ rest = s) :
    position + (s.length - rest.length) = position + text.length := by
  rw [← hs, List.length_append, Nat.add_sub_cancel]

theorem scan_interpolation_outcome_eq_ok_iff (l : Lexeme.Interpolation) {rest : Text}
    {body : Body τ} :
    (scan settings resolve depth position pending (l.text ++ rest)).outcome = .ok body ↔
      (settings.strict = true → Layout.Known resolve l) ∧ ∃ after,
        (scan settings resolve depth (position + l.text.length) [] rest).outcome = .ok after ∧
          body = after.after
            (Body.literal pending ++ [.interpolation l.path (l.name.bind resolve)]) := by
  obtain ⟨c, tail, hs, hfront⟩ := exists_front (.interpolation l) (Nat.zero_le _) rest
  replace hs : l.text ++ rest = c :: tail := hs
  rw [hs, scan_of_interpolation hfront, offset_eq hs]
  simp only [Run.bind_outcome_eq_ok_iff, resolved_outcome_eq_ok_iff, Run.pure_outcome,
    Except.ok.injEq]
  constructor
  · intro h
    obtain ⟨transform, ⟨hknown, rfl⟩, after, hafter, rfl⟩ := h
    exact ⟨hknown, after, hafter, rfl⟩
  · intro h
    obtain ⟨hknown, after, hafter, rfl⟩ := h
    exact ⟨_, ⟨hknown, rfl⟩, after, hafter, rfl⟩

theorem scan_opener_outcome_eq_ok_iff (l : Lexeme.Opener)
    (h : l.condition.nesting ≤ nestingLimit) {rest : Text} {body : Body τ} :
    (scan settings resolve depth position pending (l.text ++ rest)).outcome = .ok body ↔
      (depth : Int) < settings.maxDepth ∧ ∃ inner stop after,
        (scan settings resolve (depth + 1) (position + l.text.length) [] rest).outcome =
            .ok inner ∧
          inner.stop = some stop ∧
          (scan settings resolve depth stop []
            (rest.drop (stop - (position + l.text.length)))).outcome = .ok after ∧
          body = after.after
            (Body.literal pending ++ [.conditional l.condition.value inner.nodes]) := by
  obtain ⟨c, tail, hs, hfront⟩ := exists_front (.opener l) h rest
  replace hs : l.text ++ rest = c :: tail := hs
  by_cases hdepth : (depth : Int) < settings.maxDepth
  · rw [hs, scan_of_opener hfront hdepth, offset_eq hs]
    simp only [Run.bind_outcome_eq_ok_iff]
    constructor
    · intro hok
      obtain ⟨inner, hinner, hok⟩ := hok
      cases hstop : inner.stop with
      | none =>
        rw [hstop] at hok
        cases hok
      | some stop =>
        simp only [hstop, Run.bind_outcome_eq_ok_iff] at hok
        obtain ⟨after, hafter, hok⟩ := hok
        cases hok
        exact ⟨hdepth, inner, stop, after, hinner, hstop, hafter, rfl⟩
    · intro hok
      obtain ⟨-, inner, stop, after, hinner, hstop, hafter, rfl⟩ := hok
      refine ⟨inner, hinner, ?_⟩
      simp only [hstop, Run.bind_outcome_eq_ok_iff]
      exact ⟨after, hafter, rfl⟩
  · rw [hs, scan_of_tooDeep hfront (Int.not_lt.mp hdepth)]
    constructor
    · intro hok
      cases hok
    · intro hok
      exact absurd hok.1 hdepth

end Template

/-! ### A layout for every body that is read -/

namespace Layout

variable {τ : Type} {settings : Settings} {resolve : Text → Option τ} {depth position : Nat}

/-- Puts a literal before a layout, unless it is empty. -/
def withLiteral (t : Text) (next : Layout) : Layout :=
  if t = [] then next else .literal t next

theorem text_withLiteral (t : Text) (next : Layout) :
    (withLiteral t next).text = t ++ next.text := by
  unfold withLiteral
  split
  · rename_i ht
    rw [ht, List.nil_append]
  · rfl

theorem nodes_withLiteral (pending : Text) (next : Layout) :
    (withLiteral pending.reverse next).nodes resolve =
      Body.literal pending ++ next.nodes resolve := by
  cases pending with
  | nil => rfl
  | cons c pending => simp [withLiteral, Body.literal, nodes]

theorem fits_withLiteral {t : Text} {next : Layout} (ht : Inert settings.strict depth t)
    (hliteral : next.opensLiteral = false) (hfits : next.Fits settings resolve depth) :
    (withLiteral t next).Fits settings resolve depth := by
  unfold withLiteral
  split
  · exact hfits
  · rename_i hne
    exact ⟨⟨hne, ht, hliteral⟩, hfits⟩

/-- The body is that of a layout which fits and of what ends it. -/
def Derives (settings : Settings) (resolve : Text → Option τ) (depth position : Nat)
    (pending s : Text) (body : Body τ) : Prop :=
  ∃ (layout : Layout) (e : Ending),
    layout.Fits settings resolve depth ∧ e.Fits depth ∧
      pending.reverse ++ s = layout.text ++ e.text ∧
      body = ⟨layout.nodes resolve, e.stop (position + s.length)⟩

/-- Text that is pending becomes a literal where a construct begins, or at
the end of the text. -/
theorem derives_of_nonliteral {pending s : Text} {body : Body τ} (next : Layout) {e : Ending}
    (hspared : Spared settings.strict depth pending.reverse s)
    (hliteral : next.opensLiteral = false) (hfits : next.Fits settings resolve depth)
    (he : e.Fits depth) (hs : s = next.text ++ e.text)
    (hbody : body = ⟨Body.literal pending ++ next.nodes resolve, e.stop (position + s.length)⟩) :
    Derives settings resolve depth position pending s body := by
  have hseam : Seam s := by
    rw [hs]
    exact seam hliteral e
  -- What follows does not count any more, so this is a fact about the literal alone.
  have hinert := (spared_iff_inert hseam).mp hspared
  refine ⟨withLiteral pending.reverse next, e, fits_withLiteral hinert hliteral hfits, he, ?_, ?_⟩
  · rw [text_withLiteral, List.append_assoc, hs]
  · rw [nodes_withLiteral, hbody]

/-- The offset of the end of a text, counted from a place inside. -/
theorem finish_append (position : Nat) (s t : Text) :
    position + (s ++ t).length = position + s.length + t.length := by
  rw [List.length_append, Nat.add_assoc]

/-- What is left at the offset after a closing tag. -/
theorem drop_stop {s rest : Text} (h : rest <:+ s) :
    s.drop (position + s.length - rest.length - position) = rest := by
  have hlength := h.length_le
  have hoffset : position + s.length - rest.length - position = s.length - rest.length := by omega
  rw [hoffset]
  exact (List.suffix_iff_eq_drop.mp h).symm

/-- Text that is pending at the end is a literal. -/
theorem derives_nil {pending : Text} (hspared : Spared settings.strict depth pending.reverse []) :
    Derives settings resolve depth position pending [] ⟨Body.literal pending, none⟩ := by
  refine derives_of_nonliteral .done (e := .ended) hspared rfl trivial trivial rfl ?_
  rw [nodes, List.append_nil]
  rfl

/-- One character more is pending. -/
theorem derives_cons {pending tail : Text} {c : Char} {body : Body τ}
    (h : Derives settings resolve depth (position + 1) (c :: pending) tail body) :
    Derives settings resolve depth position pending (c :: tail) body := by
  obtain ⟨layout, e, hfits, he, hs, hbody⟩ := h
  refine ⟨layout, e, hfits, he, ?_, ?_⟩
  · rw [← hs, List.reverse_cons, List.append_assoc, List.singleton_append]
  · have hfinish : position + (c :: tail).length = position + 1 + tail.length := by
      rw [List.length_cons]
      omega
    rw [hbody, hfinish]

theorem derives_closer {pending rest : Text} (l : Lexeme.Closer)
    (hspared : Spared settings.strict depth pending.reverse (l.text ++ rest))
    (hl : (Lexeme.closer l).Counts depth) :
    Derives settings resolve depth position pending (l.text ++ rest)
      ⟨Body.literal pending, (Ending.closed l rest).stop (position + (l.text ++ rest).length)⟩ := by
  refine derives_of_nonliteral .done (e := .closed l rest) hspared rfl trivial hl rfl ?_
  rw [nodes, List.append_nil]

theorem derives_interpolation {pending rest : Text} {after : Body τ} (l : Lexeme.Interpolation)
    (hspared : Spared settings.strict depth pending.reverse (l.text ++ rest))
    (hknown : settings.strict = true → Known resolve l)
    (hafter : Derives settings resolve depth (position + l.text.length) [] rest after) :
    Derives settings resolve depth position pending (l.text ++ rest)
      (after.after (Body.literal pending ++ [.interpolation l.path (l.name.bind resolve)])) := by
  obtain ⟨layout, e, hfits, he, hs, rfl⟩ := hafter
  replace hs : rest = layout.text ++ e.text := hs
  refine derives_of_nonliteral (.interpolation l layout) hspared rfl ⟨hknown, hfits⟩ he
    ?_ ?_
  · rw [text, List.append_assoc, ← hs]
  · rw [finish_append]
    simp [Body.after, nodes]

theorem derives_conditional {pending rest : Text} {inner after : Body τ} {stop : Nat}
    (l : Lexeme.Opener) (hspared : Spared settings.strict depth pending.reverse (l.text ++ rest))
    (hnesting : l.condition.nesting ≤ nestingLimit)
    (hdepth : (depth : Int) < settings.maxDepth)
    (hinner : Derives settings resolve (depth + 1) (position + l.text.length) [] rest inner)
    (hstop : inner.stop = some stop)
    (hafter : Derives settings resolve depth stop []
      (rest.drop (stop - (position + l.text.length))) after) :
    Derives settings resolve depth position pending (l.text ++ rest)
      (after.after (Body.literal pending ++ [.conditional l.condition.value inner.nodes])) := by
  obtain ⟨body, e, hbody, he, hrest, rfl⟩ := hinner
  replace hrest : rest = body.text ++ e.text := hrest
  cases e with
  | ended => cases hstop
  | closed closer left =>
    -- The body ended with its closing tag, and `left` is what follows the tag.
    have hsuffix : left <:+ rest := by
      rw [hrest]
      exact (List.suffix_append _ _).trans (List.suffix_append _ _)
    have hlength := hsuffix.length_le
    obtain rfl : position + l.text.length + rest.length - left.length = stop :=
      Option.some.inj hstop
    rw [drop_stop hsuffix] at hafter
    obtain ⟨layout, e, hfits, he', hleft, rfl⟩ := hafter
    replace hleft : left = layout.text ++ e.text := hleft
    refine derives_of_nonliteral (.conditional l body closer layout) hspared rfl
      ⟨⟨hdepth, hnesting, he.1⟩, hbody, hfits⟩ he' ?_ ?_
    · simp only [text, List.append_assoc]
      rw [← hleft, hrest]
      rfl
    · have hfinish : position + l.text.length + rest.length - left.length + left.length =
          position + (l.text ++ rest).length := by
        rw [List.length_append]
        omega
      rw [hfinish]
      simp [Body.after, nodes]

/-- **What is read has a layout.** The induction is on the text that is
left, and its invariant is that nothing that matters begins in the text
that is pending. -/
theorem derives_of_scan {pending s : Text}
    (hspared : Spared settings.strict depth pending.reverse s) {body : Body τ}
    (h : (Template.scan settings resolve depth position pending s).outcome = .ok body) :
    Derives settings resolve depth position pending s body := by
  induction hlength : s.length using Nat.strong_induction_on
    generalizing depth position pending s body with
  | _ n ih =>
    subst hlength
    cases s with
    | nil =>
      rw [Template.scan_nil] at h
      cases h
      exact derives_nil hspared
    | cons c tail =>
      by_cases hcounts : ∃ (l : Lexeme) (rest : Text),
          l.Counts depth ∧ c :: tail = l.text ++ rest
      · obtain ⟨l, rest, hl, hs⟩ := hcounts
        rw [hs] at h hspared ⊢
        have hshort : rest.length < (c :: tail).length := by
          obtain ⟨d, more, htext, -⟩ := l.exists_cons_text
          rw [hs, htext, List.length_append, List.length_cons]
          omega
        cases l with
        | closer l =>
          rw [Lexeme.text, Template.scan_closer l hl rest] at h
          cases h
          -- The body ends here. There is no hypothesis to use.
          exact derives_closer l hspared hl
        | interpolation l =>
          obtain ⟨hknown, after, hafter, rfl⟩ :=
            (Template.scan_interpolation_outcome_eq_ok_iff l).mp h
          exact derives_interpolation l hspared hknown
            (ih _ hshort (spared_nil rest) hafter rfl)
        | opener l =>
          obtain ⟨hdepth, inner, stop, after, hinner, hstop, hafter, rfl⟩ :=
            (Template.scan_opener_outcome_eq_ok_iff l hl).mp h
          have hdrop : (rest.drop (stop - (position + l.text.length))).length <
              (c :: tail).length := by
            rw [List.length_drop]
            omega
          exact derives_conditional l hspared hl hdepth
            (ih _ hshort (spared_nil rest) hinner rfl) hstop
            (ih _ hdrop (spared_nil _) hafter rfl)
      · -- No construct has its place. As reading goes on, nothing else matters either.
        have hnone : ∀ (l : Lexeme) (rest : Text), l.Counts depth → c :: tail ≠ l.text ++ rest := by
          intro l rest hl hs
          exact hcounts ⟨l, rest, hl, hs⟩
        have hmatters := Template.not_matters_of_ok hnone h
        rw [Template.outcome_of_not_matters hmatters] at h
        have hmore : Spared settings.strict depth (c :: pending).reverse tail := by
          rw [List.reverse_cons]
          exact hspared.snoc hmatters
        exact derives_cons (ih _ (Nat.lt_succ_self _) hmore h rfl)

/-! ### What has a layout is read -/

/-- Reading takes all of a literal as text. -/
theorem outcome_literal {t pending next : Text} (ht : Inert settings.strict depth t)
    (hnext : Seam next) :
    (Template.scan settings resolve depth position pending (t ++ next)).outcome =
      (Template.scan settings resolve depth (position + t.length) (t.reverse ++ pending)
        next).outcome := by
  induction t generalizing position pending with
  | nil => rfl
  | cons c t ih =>
    have hmatters : ¬ Matters settings.strict depth (c :: t ++ next) :=
      ht.not_matters (List.cons_ne_nil c t) hnext
    rw [List.cons_append] at hmatters ⊢
    have hposition : position + 1 + t.length = position + (c :: t).length := by
      rw [List.length_cons]
      omega
    rw [Template.outcome_of_not_matters hmatters, ih ht.tail, hposition, List.reverse_cons,
      List.append_assoc, List.singleton_append]

/-- **What has a layout is read.** The induction is on the layout. Text may
be pending only where a construct comes next. -/
theorem scan_of_fits {layout : Layout} {e : Ending} {pending : Text}
    (hfits : layout.Fits settings resolve depth) (he : e.Fits depth)
    (hpending : pending = [] ∨ layout.opensLiteral = false) :
    (Template.scan settings resolve depth position pending (layout.text ++ e.text)).outcome =
      .ok ⟨Body.literal pending ++ layout.nodes resolve,
        e.stop (position + (layout.text ++ e.text).length)⟩ := by
  induction layout generalizing depth position pending e with
  | done =>
    rw [nodes, List.append_nil]
    cases e with
    | ended =>
      show (Template.scan settings resolve depth position pending []).outcome = _
      rw [Template.scan_nil]
      rfl
    | closed l rest =>
      show (Template.scan settings resolve depth position pending (l.text ++ rest)).outcome = _
      rw [Template.scan_closer l he rest]
      rfl
  | literal t next ih =>
    obtain ⟨⟨ht, hinert, hliteral⟩, hnext⟩ := hfits
    obtain rfl : pending = [] := hpending.resolve_right (by simp [opensLiteral])
    have hliteralText : Body.literal t.reverse = ([.literal t] : List (Node τ)) := by
      simp [Body.literal, ht]
    rw [text, List.append_assoc, outcome_literal hinert (seam hliteral e),
      ih hnext he (Or.inr hliteral), List.append_nil, hliteralText, finish_append position t]
    rfl
  | interpolation l next ih =>
    rw [text, List.append_assoc]
    refine (Template.scan_interpolation_outcome_eq_ok_iff l).mpr
      ⟨hfits.1, _, ih hfits.2 he (Or.inl rfl), ?_⟩
    rw [finish_append position l.text]
    simp [Body.after, Body.literal, nodes]
  | conditional opener body closer next ihbody ihnext =>
    obtain ⟨⟨hdepth, hnesting, hname⟩, hbody, hnext⟩ := hfits
    have htext : (Layout.conditional opener body closer next).text ++ e.text =
        opener.text ++ (body.text ++ (Ending.closed closer (next.text ++ e.text)).text) := by
      simp only [text, Ending.text, List.append_assoc]
    have hsuffix : next.text ++ e.text <:+
        body.text ++ (Ending.closed closer (next.text ++ e.text)).text :=
      (List.suffix_append _ _).trans (List.suffix_append _ _)
    -- For the body, its closing tag is the ending, with all that follows it.
    have hinner : (Ending.closed closer (next.text ++ e.text)).Fits (depth + 1) :=
      ⟨hname, Nat.succ_pos depth⟩
    rw [htext]
    refine (Template.scan_opener_outcome_eq_ok_iff opener hnesting).mpr
      ⟨hdepth, _, _, ⟨next.nodes resolve, e.stop (position + (opener.text ++ (body.text ++
        (Ending.closed closer (next.text ++ e.text)).text)).length)⟩,
        ihbody hbody hinner (Or.inl rfl), rfl, ?_, ?_⟩
    · have hlength := hsuffix.length_le
      rw [drop_stop hsuffix, ihnext hnext he (Or.inl rfl), finish_append position opener.text]
      congr 3
      omega
    · simp [Body.after, Body.literal, nodes]

end Layout

/-! ### Whole templates -/

namespace Template

variable {τ : Type}

/-- **A template is read if and only if it has a layout that fits**, and
the tree is the one of that layout. -/
theorem parse_outcome_eq_ok_iff {settings : Settings} {resolve : Text → Option τ} {s : Text}
    {nodes : List (Node τ)} :
    (parse settings resolve s).outcome = .ok nodes ↔ ∃ layout : Layout,
      layout.Fits settings resolve 0 ∧ layout.text = s ∧ layout.nodes resolve = nodes := by
  have hbody : (parse settings resolve s).outcome = .ok nodes ↔
      ∃ body, (scan settings resolve 0 0 [] s).outcome = .ok body ∧ body.nodes = nodes := by
    simp only [parse, Run.bind_outcome_eq_ok_iff, Run.pure_outcome, Except.ok.injEq]
  rw [hbody]
  constructor
  · intro h
    obtain ⟨body, hscan, rfl⟩ := h
    obtain ⟨layout, e, hfits, he, hs, rfl⟩ := Layout.derives_of_scan (spared_nil s) hscan
    cases e with
    | ended => exact ⟨layout, hfits, by simpa [Layout.Ending.text] using hs.symm, rfl⟩
    -- Outside of all conditionals no closing tag ends a body.
    | closed l rest => exact absurd he.2 (Nat.lt_irrefl 0)
  · intro h
    obtain ⟨layout, hfits, rfl, rfl⟩ := h
    have hended : layout.text ++ Layout.Ending.ended.text = layout.text := List.append_nil _
    rw [← hended]
    exact ⟨_, Layout.scan_of_fits hfits trivial (Or.inl rfl), rfl⟩

/-- **Strict reading accepts its grammar.** A template is read if and only
if it has a layout that fits: its literals have no mark in them and its
transforms are known. The tree is the one of the layout, and a template
has no second layout. -/
theorem parse_strictly_outcome_eq_ok_iff (settings : Settings) (resolve : Text → Option τ)
    (s : Text) (nodes : List (Node τ)) :
    ((parse settings.strictly resolve s).outcome = .ok nodes ↔ ∃ layout : Layout,
      layout.Fits settings.strictly resolve 0 ∧ layout.text = s ∧ layout.nodes resolve = nodes) ∧
    ∀ layout layout' : Layout, layout.Fits settings.strictly resolve 0 →
      layout'.Fits settings.strictly resolve 0 → layout.text = s → layout'.text = s →
        layout = layout' := by
  constructor
  · exact parse_outcome_eq_ok_iff
  · intro layout layout' hfits hfits' htext htext'
    have hended : Layout.Ending.ended.Fits 0 := trivial
    have heq : layout.text ++ Layout.Ending.ended.text =
        layout'.text ++ Layout.Ending.ended.text := by rw [htext, htext']
    exact (Layout.eq_of_text_append_eq hfits hfits' hended hended heq).1

end Template

end Stencil
