import Stencil.Proofs.Template.Span

/-!
# `Stencil.Proofs.Template.Passage`: how the machine goes through a layout

A layout says what is read. Here it also says what the machine does
meanwhile. `Machine.Leads` relates a state to a later one: a run from the
first gives certain notices and is the run from the second after that. It
holds of a literal, of an interpolation, of an opening tag and of a closing
tag, one lemma each, and it is transitive.

`Machine.exists_leads_of_fits` puts these together. The machine goes through
a layout that fits, to a state that has the nodes of the layout (`Passed`),
and gives the notices of its spans. What follows the layout is not read yet
and may be anything, unless the layout ends in a literal. Then it has to
begin with a construct, or what is left of the literal could be the beginning
of one. Where nothing follows, the run is over: `Machine.run_of_fits`.

What the notices of a span are is a matter of the text. `flaw?` says what is
wrong at a place that is taken as text. A literal has a notice for each of
its places where something is, and an interpolation has one if it asks for a
transform that is not known.
-/

set_option autoImplicit false

namespace Stencil

open Condition (nestingLimit)

/-! ### The notices of a text -/

/-- What is wrong at a place that is taken as text: a whole closing tag that
has no place there, or a construct that begins and is not whole. -/
def flaw? (s : Text) : Option Defect :=
  match closer? s with
  | some (name, _) => some (.strayCloser name)
  | none => defect? s

/-- Something is wrong where a mark stands, and nowhere else. -/
theorem flaw?_isSome_iff {s : Text} : (flaw? s).isSome = true ↔ Marked s := by
  unfold flaw?
  cases hcloser : closer? s with
  | some found =>
    obtain ⟨l, -, hs⟩ := closer?_eq_some_iff.mp hcloser
    have hmarked : Marked s := Or.inl ⟨l, _, hs⟩
    simp [hmarked]
  | none =>
    have hnone : ¬ ∃ (l : Lexeme.Closer) (rest : Text), s = l.text ++ rest := by
      intro h
      obtain ⟨l, rest, hs⟩ := h
      rw [closer?_eq_some_iff.mpr ⟨l, rfl, hs⟩] at hcloser
      cases hcloser
    rw [Marked, or_iff_right hnone]
    exact defect?_isSome_iff

namespace Notice

/-- The notices of a literal: one for each of its places where something is
wrong. What is wrong there may show only in what follows the literal. -/
def ofText (next : Text) : Nat → Text → List Notice
  | _, [] => []
  | position, c :: t =>
    ((flaw? (c :: t ++ next)).map fun defect => ⟨.broken defect, position⟩).toList ++
      ofText next (position + 1) t

/-- The notice of an interpolation that asks for a transform that is not
known. -/
def ofInterpolation {τ : Type} (resolve : Text → Option τ) (position : Nat)
    (l : Lexeme.Interpolation) : List Notice :=
  match l.name with
  | none => []
  | some name =>
    if (resolve name).isSome then [] else [⟨.unknownTransform name, position⟩]

end Notice

namespace Span

variable {τ : Type}

/-- The notices of a span at an offset, with the text that follows it. -/
def notices (resolve : Text → Option τ) (position : Nat) (next : Text) : Span → List Notice
  | .literal t => Notice.ofText next position t
  | .lexeme (.interpolation l) => Notice.ofInterpolation resolve position l
  | .lexeme _ => []

/-- The notices of a row of spans, with the text that follows all of them. -/
def allNotices (resolve : Text → Option τ) (next : Text) : Nat → List Span → List Notice
  | _, [] => []
  | position, span :: spans =>
    span.notices resolve position (spans.flatMap text ++ next) ++
      allNotices resolve next (position + span.text.length) spans

/-- The notices of two rows, one after the other. -/
theorem allNotices_append (resolve : Text → Option τ) (next : Text) (position : Nat)
    (spans spans' : List Span) :
    allNotices resolve next position (spans ++ spans') =
      allNotices resolve (spans'.flatMap text ++ next) position spans ++
        allNotices resolve next (position + (spans.flatMap text).length) spans' := by
  induction spans generalizing position with
  | nil => rfl
  | cons span spans ih =>
    rw [List.cons_append, allNotices, ih, allNotices, List.flatMap_append, List.append_assoc,
      List.append_assoc, List.flatMap_cons, List.length_append, Nat.add_assoc]

end Span

namespace Run

variable {β : Type}

/-- A run that gives notices and goes on. -/
def tell (notices : List Notice) : Run Unit :=
  ⟨notices, .ok ()⟩

theorem tell_bind (notices : List Notice) (next : Unit → Run β) :
    tell notices >>= next = ⟨notices ++ (next ()).notices, (next ()).outcome⟩ := rfl

/-- What is told in two goes may be told in one. -/
theorem tell_append_bind (notices notices' : List Notice) (next : Unit → Run β) :
    tell (notices ++ notices') >>= next = tell notices >>= fun _ => tell notices' >>= next := by
  rw [tell_bind, tell_bind, tell_bind, List.append_assoc]

end Run

namespace Machine

variable {τ : Type} {settings : Settings} {resolve : Text → Option τ}

/-! ### From one state to another -/

/-- A run from the first state gives the notices, and is a run from the second
state after that. -/
def Leads (settings : Settings) (resolve : Text → Option τ) (st : State τ)
    (notices : List Notice) (st' : State τ) : Prop :=
  run settings resolve st = Run.tell notices >>= fun _ => run settings resolve st'

namespace Leads

variable {st st' st'' : State τ} {notices notices' : List Notice}

theorem refl (st : State τ) : Leads settings resolve st [] st := rfl

theorem trans (h : Leads settings resolve st notices st')
    (h' : Leads settings resolve st' notices' st'') :
    Leads settings resolve st (notices ++ notices') st'' := by
  unfold Leads at h h' ⊢
  rw [h, h', Run.tell_append_bind]

/-- A run comes to what the run from a later state comes to. -/
theorem outcome_eq (h : Leads settings resolve st notices st') :
    (run settings resolve st).outcome = (run settings resolve st').outcome := by
  unfold Leads at h
  rw [h, Run.tell_bind]

/-- A step leads to its state. -/
theorem of_step (hrest : st.rest ≠ []) (h : step settings resolve st = ⟨notices, .ok st'⟩) :
    Leads settings resolve st notices st' := by
  unfold Leads
  rw [run_of_ne_nil hrest, h]
  rfl

end Leads

/-! ### Through a literal -/

section Literal

variable (settings : Settings) (resolve : Text → Option τ) {st : State τ}

omit settings resolve in
/-- In lenient reading what is rejected leaves a notice. -/
theorem reject_leniently (st : State τ) (defect : Defect) :
    st.reject false defect = ⟨[⟨.broken defect, st.position⟩], .ok st.skip⟩ := rfl

/-- A place that does not matter is taken as text, with a notice of what is
wrong there. -/
theorem step_of_not_matters (h : ¬ Matters settings.strict st.stack.length st.rest) :
    step settings resolve st =
      ⟨((flaw? st.rest).map fun defect => ⟨.broken defect, st.position⟩).toList, .ok st.skip⟩ := by
  have hheader : header? st.rest = none := by
    cases hread : header? st.rest with
    | none => rfl
    | some found =>
      obtain ⟨l, hnesting, -, hs⟩ := header?_eq_some_iff.mp hread
      rw [hs] at h
      exact absurd (matters_of_counts (l := .opener l) hnesting _) h
  have hinterpolation : interpolation? st.rest = none := by
    cases hread : interpolation? st.rest with
    | none => rfl
    | some found =>
      obtain ⟨l, -, -, hs⟩ := interpolation?_eq_some_iff.mp hread
      rw [hs] at h
      exact absurd (matters_of_counts (l := .interpolation l) trivial _) h
  cases hstrict : settings.strict with
  | true =>
    -- In strict reading a mark matters, so nothing is wrong here.
    have hflaw : flaw? st.rest = none := by
      rw [← Option.not_isSome_iff_eq_none, flaw?_isSome_iff]
      rw [hstrict] at h
      exact h
    have hcloser : closer? st.rest = none := by
      cases hread : closer? st.rest with
      | none => rfl
      | some found => simp [flaw?, hread] at hflaw
    have hdefect : defect? st.rest = none := by
      rw [flaw?, hcloser] at hflaw
      exact hflaw
    rw [step, hcloser, hheader, hinterpolation, hdefect, hflaw]
    rfl
  | false =>
    unfold step flaw?
    rw [hheader, hinterpolation, hstrict]
    cases hread : closer? st.rest with
    | some found =>
      -- The tag closes nothing, or it would matter.
      obtain ⟨l, hname, hs⟩ := closer?_eq_some_iff.mp hread
      have hstray : ¬(found.1 = ifName ∧ 0 < st.stack.length) := by
        intro hcounts
        rw [← hname] at hcounts
        rw [hs] at h
        exact h (matters_of_counts (l := .closer l) hcounts _)
      show st.leave false found.1 found.2 = _
      rw [leave_of_stray hstray, reject_leniently]
      rfl
    | none =>
      cases defect? st.rest with
      | none => rfl
      | some defect => rfl

/-- The machine goes through a literal before a construct or the end of the
text. The induction is on the literal. -/
theorem leads_literal {t next : Text} (ht : Inert settings.strict st.stack.length t)
    (hnext : Seam next) (hrest : st.rest = t ++ next) :
    Leads settings resolve st (Notice.ofText next st.position t)
      { st with
        pending := t.reverse ++ st.pending
        position := st.position + t.length
        rest := next } := by
  induction t generalizing st with
  | nil =>
    obtain ⟨stack, nodes, pending, position, rest⟩ := st
    obtain rfl : rest = next := hrest
    exact Leads.refl _
  | cons c t ih =>
    have hne : st.rest ≠ [] := by simp [hrest]
    have hmatters : ¬ Matters settings.strict st.stack.length st.rest := by
      rw [hrest]
      exact ht.not_matters (List.cons_ne_nil c t) hnext
    have hskip : st.skip = { st with
        pending := c :: st.pending, position := st.position + 1, rest := t ++ next } := by
      rw [State.skip, hrest]
      rfl
    have hstep := Leads.of_step hne (step_of_not_matters settings resolve hmatters)
    rw [hskip] at hstep
    have hmore := hstep.trans (ih ht.tail rfl)
    have hpending : (c :: t).reverse ++ st.pending = t.reverse ++ c :: st.pending := by simp
    have hposition : st.position + (c :: t).length = st.position + 1 + t.length := by
      rw [List.length_cons]
      omega
    rw [Notice.ofText, ← hrest, hpending, hposition]
    exact hmore

end Literal

/-! ### Through a construct -/

section Construct

variable (settings : Settings) (resolve : Text → Option τ) {st : State τ} {rest : Text}

omit settings resolve in
/-- A construct is found where its lexeme stands. -/
theorem front_of_lexeme (l : Lexeme) (hnesting : l.nesting ≤ nestingLimit)
    (hrest : st.rest = l.text ++ rest) :
    st.rest ≠ [] ∧ front st.rest = .construct l.construct rest := by
  refine ⟨?_, front_eq_construct_iff.mpr ⟨l, hnesting, rfl, hrest⟩⟩
  rw [hrest]
  exact l.text_append_ne_nil rest

omit settings resolve in
/-- The offset after a construct. -/
theorem offset_eq {text : Text} (hrest : st.rest = text ++ rest) :
    st.offset rest = st.position + text.length := by
  rw [State.offset, hrest, List.length_append, Nat.add_sub_cancel]

/-- An interpolation is added to the body, with a notice if it asks for a
transform that is not known. -/
theorem step_interpolation {l : Lexeme.Interpolation} (hrest : st.rest = l.text ++ rest)
    (hknown : settings.strict = true → Layout.Known resolve l) :
    step settings resolve st = ⟨Notice.ofInterpolation resolve st.position l,
      .ok (st.add (.interpolation l.path (l.name.bind resolve)) rest)⟩ := by
  rw [step_eq, (front_of_lexeme (.interpolation l) (Nat.zero_le _) hrest).2]
  show (Template.resolved settings resolve st.position l.name >>= fun transform =>
    pure (st.add (.interpolation l.path transform) rest)) = _
  unfold Notice.ofInterpolation
  cases hname : l.name with
  | none => rfl
  | some name =>
    cases hresolve : resolve name with
    | some transform => simp [Template.resolved, hresolve]; rfl
    | none =>
      cases hstrict : settings.strict with
      | true =>
        -- In strict reading the name is known.
        have hsome := hknown hstrict name hname
        rw [hresolve] at hsome
        cases hsome
      | false => simp [Template.resolved, hresolve, hstrict]; rfl

theorem leads_interpolation {l : Lexeme.Interpolation} (hrest : st.rest = l.text ++ rest)
    (hknown : settings.strict = true → Layout.Known resolve l) :
    Leads settings resolve st (Notice.ofInterpolation resolve st.position l)
      (st.add (.interpolation l.path (l.name.bind resolve)) rest) :=
  Leads.of_step (front_of_lexeme (.interpolation l) (Nat.zero_le _) hrest).1
    (step_interpolation settings resolve hrest hknown)

/-- An opening tag opens a conditional, unless as many are open as may be. -/
theorem step_opener {l : Lexeme.Opener} (hrest : st.rest = l.text ++ rest)
    (hnesting : l.condition.nesting ≤ nestingLimit)
    (hdepth : (st.stack.length : Int) < settings.maxDepth) :
    step settings resolve st = pure
      { stack := ⟨st.position, l.condition.value, st.flushed⟩ :: st.stack
        nodes := []
        pending := []
        position := st.position + l.text.length
        rest } := by
  rw [step_eq, (front_of_lexeme (.opener l) hnesting hrest).2]
  show st.enter settings.maxDepth l.condition.value rest = _
  rw [State.enter, if_neg (Int.not_le.mpr hdepth), offset_eq hrest]

theorem leads_opener {l : Lexeme.Opener} (hrest : st.rest = l.text ++ rest)
    (hnesting : l.condition.nesting ≤ nestingLimit)
    (hdepth : (st.stack.length : Int) < settings.maxDepth) :
    Leads settings resolve st []
      { stack := ⟨st.position, l.condition.value, st.flushed⟩ :: st.stack
        nodes := []
        pending := []
        position := st.position + l.text.length
        rest } :=
  Leads.of_step (front_of_lexeme (.opener l) hnesting hrest).1
    (step_opener settings resolve hrest hnesting hdepth)

/-- A closing tag closes the innermost conditional. -/
theorem step_closer {l : Lexeme.Closer} {frame : Frame τ} {stack : List (Frame τ)}
    (hrest : st.rest = l.text ++ rest) (hname : l.name = ifName)
    (hstack : st.stack = frame :: stack) :
    step settings resolve st = pure
      { stack
        nodes := frame.before ++ [.conditional frame.condition st.flushed]
        pending := []
        position := st.position + l.text.length
        rest } := by
  rw [step_eq, (front_of_lexeme (.closer l) (Nat.zero_le _) hrest).2]
  show st.leave settings.strict l.name rest = _
  rw [State.leave, hstack]
  simp only [if_pos hname, offset_eq hrest]

theorem leads_closer {l : Lexeme.Closer} {frame : Frame τ} {stack : List (Frame τ)}
    (hrest : st.rest = l.text ++ rest) (hname : l.name = ifName)
    (hstack : st.stack = frame :: stack) :
    Leads settings resolve st []
      { stack
        nodes := frame.before ++ [.conditional frame.condition st.flushed]
        pending := []
        position := st.position + l.text.length
        rest } :=
  Leads.of_step (front_of_lexeme (.closer l) (Nat.zero_le _) hrest).1
    (step_closer settings resolve hrest hname hstack)

end Construct

/-! ### Through a layout -/

/-- The last of the nodes is a literal. -/
def EndsLiteral (nodes : List (Node τ)) : Prop :=
  ∃ t, nodes.getLast? = some (.literal t)

theorem EndsLiteral.cons {node : Node τ} {nodes : List (Node τ)} (h : EndsLiteral nodes) :
    EndsLiteral (node :: nodes) := by
  obtain ⟨t, ht⟩ := h
  exact ⟨t, by rw [List.getLast?_cons, ht, Option.getD_some]⟩

/-- The second state comes after the layout: its nodes are there, the same
conditionals are open, and the rest of the text is what follows. -/
structure State.Passed (resolve : Text → Option τ) (layout : Layout) (rest : Text)
    (st st' : State τ) : Prop where
  stack : st'.stack = st.stack
  flushed : st'.flushed = st.flushed ++ layout.nodes resolve
  position : st'.position = st.position + layout.text.length
  rest : st'.rest = rest

/-- Text is pending only if the last of the nodes is a literal. -/
theorem State.pending_eq_nil {st : State τ} (h : ¬ EndsLiteral st.flushed) : st.pending = [] := by
  by_contra hne
  refine h ⟨st.pending.reverse, ?_⟩
  simp [State.flushed, Body.literal, hne]

/-- What follows a literal in a layout begins with a construct, and so does
what follows the layout, if it comes next. -/
theorem seam_of_opensLiteral {layout : Layout} {rest : Text}
    (hliteral : layout.opensLiteral = false) (hrest : layout = .done → Seam rest) :
    Seam (layout.text ++ rest) := by
  cases layout with
  | done => exact hrest rfl
  | literal t next => cases hliteral
  | interpolation l next =>
    rw [Layout.text, List.append_assoc]
    exact (Lexeme.interpolation l).seam _
  | conditional opener body closer next =>
    rw [Layout.text, List.append_assoc]
    exact (Lexeme.opener opener).seam _

/-- The notices of a conditional are those of its body and then those of what
follows it. The tags have none. -/
theorem allNotices_conditional (resolve : Text → Option τ) (rest : Text) (position : Nat)
    (opener : Lexeme.Opener) (body : Layout) (closer : Lexeme.Closer) (next : Layout) :
    Span.allNotices resolve rest position (Layout.conditional opener body closer next).spans =
      Span.allNotices resolve (closer.text ++ (next.text ++ rest))
          (position + opener.text.length) body.spans ++
        Span.allNotices resolve rest
          (position + opener.text.length + body.text.length + closer.text.length) next.spans := by
  rw [Layout.spans, Span.allNotices, Span.allNotices_append, Span.allNotices, List.flatMap_cons,
    Layout.text_spans, Layout.text_spans, List.append_assoc]
  rfl

/-- **The machine goes through a layout that fits**, and gives the notices of
its spans. The induction is on the layout. Text may be pending only where a
construct comes next. -/
theorem exists_leads_of_fits {layout : Layout} {rest : Text} (st : State τ)
    (hfits : layout.Fits settings resolve st.stack.length) (hrest : st.rest = layout.text ++ rest)
    (hpending : st.pending = [] ∨ layout.opensLiteral = false)
    (hseam : EndsLiteral (layout.nodes resolve) → Seam rest) :
    ∃ st', Leads settings resolve st
        (Span.allNotices resolve rest st.position layout.spans) st' ∧
      st.Passed resolve layout rest st' := by
  induction layout generalizing st rest with
  | done =>
    refine ⟨st, Leads.refl st, ?_⟩
    exact ⟨rfl, (List.append_nil _).symm, rfl, hrest⟩
  | literal t next ih =>
    obtain ⟨⟨ht, hinert, hliteral⟩, hnext⟩ := hfits
    have hempty : st.pending = [] := hpending.resolve_right (by simp [Layout.opensLiteral])
    have hseam' : Seam (next.text ++ rest) := by
      refine seam_of_opensLiteral hliteral fun hdone => hseam ?_
      rw [hdone]
      exact ⟨t, rfl⟩
    rw [Layout.text, List.append_assoc] at hrest
    have hread := leads_literal settings resolve hinert hseam' hrest
    obtain ⟨st', hleads, hpassed⟩ := ih { st with
      pending := t.reverse ++ st.pending
      position := st.position + t.length
      rest := next.text ++ rest } hnext rfl (Or.inr hliteral) fun h => hseam h.cons
    refine ⟨st', ?_, hpassed.stack, ?_, ?_, hpassed.rest⟩
    · have := hread.trans hleads
      rw [Layout.spans, Span.allNotices, Layout.text_spans]
      exact this
    · rw [hpassed.flushed]
      simp [State.flushed, hempty, Body.literal, ht, Layout.nodes]
    · rw [hpassed.position, Layout.text, List.length_append, Nat.add_assoc]
  | interpolation l next ih =>
    rw [Layout.text, List.append_assoc] at hrest
    have hread := leads_interpolation settings resolve hrest hfits.1
    obtain ⟨st', hleads, hpassed⟩ :=
      ih (st.add (.interpolation l.path (l.name.bind resolve)) (next.text ++ rest)) hfits.2 rfl
        (Or.inl rfl) fun h => hseam h.cons
    have hoffset : (st.add (.interpolation l.path (l.name.bind resolve))
        (next.text ++ rest)).position = st.position + l.text.length := offset_eq hrest
    refine ⟨st', ?_, hpassed.stack, ?_, ?_, hpassed.rest⟩
    · have := hread.trans hleads
      rw [hoffset] at this
      rw [Layout.spans, Span.allNotices, Layout.text_spans]
      exact this
    · rw [hpassed.flushed]
      simp [State.flushed, State.add, Body.literal, Layout.nodes]
    · rw [hpassed.position, hoffset, Layout.text, List.length_append, Nat.add_assoc]
  | conditional opener body closer next ihbody ihnext =>
    obtain ⟨⟨hdepth, hnesting, hname⟩, hbody, hnext⟩ := hfits
    simp only [Layout.text, List.append_assoc] at hrest
    have hopen := leads_opener settings resolve hrest hnesting hdepth
    obtain ⟨inner, hinner, hbodyPassed⟩ := ihbody {
      stack := ⟨st.position, opener.condition.value, st.flushed⟩ :: st.stack
      nodes := []
      pending := []
      position := st.position + opener.text.length
      rest := body.text ++ (closer.text ++ (next.text ++ rest)) } hbody rfl (Or.inl rfl)
      fun _ => (Lexeme.closer closer).seam _
    -- The body is over where its closing tag stands.
    have hclose := leads_closer settings resolve hbodyPassed.rest hname hbodyPassed.stack
    obtain ⟨st', hleads, hpassed⟩ := ihnext {
      stack := st.stack
      nodes := st.flushed ++ [.conditional opener.condition.value inner.flushed]
      pending := []
      position := inner.position + closer.text.length
      rest := next.text ++ rest } hnext rfl (Or.inl rfl) fun h => hseam h.cons
    have hposition : inner.position = st.position + opener.text.length + body.text.length :=
      hbodyPassed.position
    refine ⟨st', ?_, hpassed.stack, ?_, ?_, hpassed.rest⟩
    · have := ((hopen.trans hinner).trans hclose).trans hleads
      rw [allNotices_conditional, ← hposition]
      simpa using this
    · have hflushed : inner.flushed = body.nodes resolve := hbodyPassed.flushed
      rw [hpassed.flushed, hflushed]
      simp [State.flushed, Body.literal, Layout.nodes]
    · rw [hpassed.position, hposition]
      simp only [Layout.text, List.length_append]
      omega

/-- Outside of all conditionals, what a run comes to is told by the layout of
what is left. -/
theorem run_of_fits {layout : Layout} (st : State τ) (hstack : st.stack = [])
    (hfits : layout.Fits settings resolve 0) (hrest : st.rest = layout.text)
    (hpending : st.pending = [] ∨ layout.opensLiteral = false) :
    run settings resolve st =
      ⟨Span.allNotices resolve [] st.position layout.spans,
        .ok (st.flushed ++ layout.nodes resolve)⟩ := by
  have hopen : layout.Fits settings resolve st.stack.length := by
    rw [hstack]
    exact hfits
  obtain ⟨st', hleads, hpassed⟩ := exists_leads_of_fits st hopen
    (hrest.trans (List.append_nil _).symm) hpending fun _ => seam_nil
  have hfinish : run settings resolve st' = pure (st.flushed ++ layout.nodes resolve) := by
    rw [run_of_nil hpassed.rest, State.finish, hpassed.stack, hstack, ← hpassed.flushed]
  unfold Leads at hleads
  rw [hleads, Run.tell_bind, hfinish, Run.pure_notices, List.append_nil]
  rfl

end Machine

end Stencil
