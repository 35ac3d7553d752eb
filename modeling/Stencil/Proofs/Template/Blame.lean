import Stencil.Proofs.Template.Step

/-!
# `Stencil.Proofs.Template.Blame`: which construct is to blame

An error of reading a template has the position of a construct. This module
says that it is the right one. `Template.blamed_of_parse`: the sign of such a
construct stands at that position, and nothing is wrong before it. The text up
to there is a template by itself, or one that only ends too early, with a
conditional open.

What comes before an error is told by two runs, one over the whole text and
one over the text up to some place. They take the same steps up to there,
although the second does not see what comes later (`Machine.Moves.cut`). A
construct is whole before the place or does not count in either run, and a
character that is text remains text with less behind it.

That is why the induction goes along the run. `Machine.State.Reached` says of
a state that the run over the text cut off later passes through it, cut off as
well. If the text is cut off right there, the run is over, and its conditionals
are the only thing that can be wrong. It holds of the state in front of each
opening tag too, so the position of an open conditional is as good as that of
any other error.
-/

set_option autoImplicit false

namespace Stencil

open Text (Blank)

/-! ### Errors -/

/-- The sign with which the construct begins that is to blame. -/
def Cause.sign : Cause → Text
  | .problem p => p.sign
  | .unterminated _ | .tooDeep _ => ['<']

theorem Cause.sign_ne_nil (cause : Cause) : cause.sign ≠ [] := by
  cases cause with
  | problem p =>
    cases p with
    | broken defect => cases defect <;> exact List.cons_ne_nil _ _
    | unknownTransform name => exact List.cons_ne_nil _ _
  | _ => exact List.cons_ne_nil _ _

/-- The error is at a construct in the text: its sign stands there. Nothing is
wrong before it: what comes before is read, or ends inside of a conditional,
which is what more text can make good. -/
structure Template.Blamed {τ : Type} (settings : Settings) (resolve : Text → Option τ) (s : Text)
    (e : TemplateError) : Prop where
  inside : e.position < s.length
  sign : e.cause.sign <+: s.drop e.position
  before : (∃ nodes, (parse settings resolve (s.take e.position)).outcome = .ok nodes) ∨
    ∃ q, (parse settings resolve (s.take e.position)).outcome = .error ⟨.unterminated ifName, q⟩

namespace Machine

variable {τ : Type} {settings : Settings} {resolve : Text → Option τ}

/-! ### Cutting off -/

namespace State

/-- The same state in a text that ends at the given offset. -/
def cut (q : Nat) (st : State τ) : State τ :=
  { st with rest := st.rest.take (q - st.position) }

/-- What is taken before the text ends is still there. -/
theorem rest_cut {st : State τ} (text : Text) {rest : Text} {q : Nat}
    (hrest : st.rest = text ++ rest) (hq : st.position + text.length ≤ q) :
    (st.cut q).rest = text ++ rest.take (q - (st.position + text.length)) := by
  rw [cut, hrest, List.take_append, List.take_of_length_le (by omega), Nat.sub_sub]

end State

/-- **A step does the same if the text ends behind it.** -/
theorem Moves.cut {st st' : State τ} {q : Nat} (h : Moves settings resolve st st')
    (hq : st'.position ≤ q) : Moves settings resolve (st.cut q) (st'.cut q) := by
  cases h with
  | text c tail hrest h =>
    let left := tail.take (q - (st.position + 1))
    have hleft : (st.cut q).rest = c :: left := State.rest_cut [c] hrest hq
    refine .text c left hleft fun hmatters => h ?_
    -- What matters in the shorter text would matter in the longer one.
    have hlonger := Matters.append hmatters (tail.drop (q - (st.position + 1)))
    rwa [List.cons_append, List.take_append_drop] at hlonger
  | interpolation l rest hrest hknown =>
    exact .interpolation l _ (State.rest_cut l.text hrest hq) hknown
  | opener l rest hrest hnesting hdepth =>
    exact .opener l _ (State.rest_cut l.text hrest hq) hnesting hdepth
  | closer l rest frame stack hrest hname hstack =>
    exact .closer l _ frame stack (State.rest_cut l.text hrest hq) hname hstack

/-! ### Along a run -/

/-- A run over the text comes through the state. So does a run over the text
cut off at a later place, and the conditionals that are open are in order. -/
structure State.Reached (settings : Settings) (resolve : Text → Option τ) (s : Text)
    (st : State τ) : Prop where
  rest : st.rest = s.drop st.position
  cut : ∀ q, st.position ≤ q →
    (run settings resolve (State.start (s.take q))).outcome =
      (run settings resolve (st.cut q)).outcome
  frames : ∀ frame ∈ st.stack,
    Template.Blamed settings resolve s ⟨.unterminated ifName, frame.position⟩

namespace State.Reached

variable {s : Text} {st st' : State τ}

theorem start (settings : Settings) (resolve : Text → Option τ) (s : Text) :
    (State.start s).Reached settings resolve s :=
  ⟨rfl, fun _ _ => rfl, fun _ hframe => absurd hframe List.not_mem_nil⟩

/-- An error is in order where its sign stands. Before it there is a run that
has come to its end. -/
theorem blamed (h : st.Reached settings resolve s) {cause : Cause}
    (hsign : cause.sign <+: st.rest) :
    Template.Blamed settings resolve s ⟨cause, st.position⟩ := by
  rw [h.rest] at hsign
  have hfinish : (Template.parse settings resolve (s.take st.position)).outcome =
      st.finish.outcome := by
    rw [parse_eq, h.cut st.position (Nat.le_refl _), run_of_nil (by simp [State.cut])]
    rfl
  refine ⟨?_, hsign, ?_⟩
  · have hne : s.drop st.position ≠ [] := by
      intro hnil
      rw [hnil] at hsign
      exact cause.sign_ne_nil (List.prefix_nil.mp hsign)
    exact Nat.lt_of_not_le fun hle => hne (List.drop_eq_nil_iff.mpr hle)
  · show (∃ nodes, _) ∨ _
    rw [hfinish]
    unfold State.finish
    cases st.stack with
    | nil => exact Or.inl ⟨_, rfl⟩
    | cons frame stack => exact Or.inr ⟨_, rfl⟩

/-- **One step** keeps to it. -/
theorem moves (h : st.Reached settings resolve s) (hmoves : Moves settings resolve st st') :
    st'.Reached settings resolve s := by
  obtain ⟨taken, -, hrest, hposition⟩ := hmoves.exists_taken
  refine ⟨?_, fun q hq => ?_, ?_⟩
  · rw [hposition, ← List.drop_drop, ← h.rest, hrest, List.drop_left]
  · rw [h.cut q (by omega), (hmoves.cut hq).outcome_eq]
  · intro frame hframe
    cases hmoves with
    | text => exact h.frames frame hframe
    | interpolation => exact h.frames frame hframe
    | opener l rest hopener =>
      rcases List.mem_cons.mp hframe with rfl | hframe
      · -- The conditional that is opened here begins with its sign.
        exact h.blamed (by rw [hopener]; exact ⟨_, rfl⟩)
      · exact h.frames frame hframe
    | closer l rest innermost stack hcloser hname hstack =>
      refine h.frames frame ?_
      rw [hstack]
      exact List.mem_cons_of_mem _ hframe

/-- **A whole run** has the right construct to blame. The induction is on the
text that is left. -/
theorem blamed_of_run (h : st.Reached settings resolve s) {e : TemplateError}
    (herror : (run settings resolve st).outcome = .error e) :
    Template.Blamed settings resolve s e := by
  induction hlength : st.rest.length using Nat.strong_induction_on generalizing st with
  | _ n ih =>
    subst hlength
    by_cases hrest : st.rest = []
    · rw [run_of_nil hrest, State.finish] at herror
      cases hstack : st.stack with
      | nil =>
        rw [hstack] at herror
        cases herror
      | cons frame stack =>
        rw [hstack] at herror
        cases herror
        exact h.frames frame (by rw [hstack]; exact List.mem_cons_self)
    · cases proceeds settings resolve hrest with
      | moves st' hmoves =>
        rw [hmoves.outcome_eq] at herror
        exact ih _ (length_of_step hrest hmoves.step_outcome) (h.moves hmoves) herror rfl
      | problem p hproblem hsign =>
        rw [run_of_ne_nil hrest, Run.bind_of_error _ hproblem] at herror
        cases herror
        exact h.blamed hsign
      | refused hrefused =>
        rw [run_of_refused hrefused] at herror
        cases herror
        exact h.blamed hrefused.sign

end State.Reached

end Machine

/-! ### Whole templates -/

namespace Template

open Machine

variable {τ : Type}

/-- **An error is at the leftmost construct that is wrong**, whatever the
settings and the transforms that are known. The sign of a tag or of an
interpolation stands at its position, as its cause says. The text before it is
read as a template, or ends inside of a conditional. -/
theorem blamed_of_parse {settings : Settings} {resolve : Text → Option τ} {s : Text}
    {e : TemplateError} (h : (parse settings resolve s).outcome = .error e) :
    Blamed settings resolve s e := by
  rw [parse_eq] at h
  exact (State.Reached.start settings resolve s).blamed_of_run h

/-- In strict reading, an interpolation without a path inside of a conditional
that is not closed either. -/
theorem blamed_of_parse_missingPath :
    let settings : Settings := ⟨true, 1, by decide⟩
    let resolve : Text → Option Unit := fun _ => none
    let tag : Text := ['<', '#', 'i', 'f', '(', 'a', '<', 'b', ')', '>']
    let e : TemplateError := ⟨.problem (.broken .missingPath), 10⟩
    (parse settings resolve (tag ++ ['%', '{'])).outcome = .error e ∧
      Blamed settings resolve (tag ++ ['%', '{']) e ∧
      (parse settings resolve tag).outcome = .error ⟨.unterminated ifName, 0⟩ := by
  intro settings resolve tag e
  have hproper : (Condition.Spelling.compare ⟨['a'], []⟩ Blank.none .less Blank.none
      ⟨['b'], []⟩).IsProper := ⟨by decide, by decide⟩
  let l : Lexeme.Opener :=
    ⟨Blank.none, Blank.none, Blank.none, _, Blank.none, Blank.none, hproper⟩
  have hdepth : ((0 : Nat) : Int) < settings.maxDepth := by decide
  -- What a template with that tag comes to is told by what follows the tag.
  have hopen (s rest : Text) (hs : s = l.text ++ rest) : (parse settings resolve s).outcome =
      (run settings resolve ⟨[⟨0, l.condition.value, []⟩], [], [], 10, rest⟩).outcome := by
    have hrest : (State.start s : State Unit).rest = l.text ++ rest := hs
    rw [parse_eq, (leads_opener settings resolve hrest (Nat.zero_le _) hdepth).outcome_eq]
    rfl
  have h : (parse settings resolve (tag ++ ['%', '\x7b'])).outcome = .error e := by
    have hfront : front ['%', '\x7b'] = .broken .missingPath := by decide
    rw [hopen (tag ++ ['%', '\x7b']) ['%', '\x7b'] rfl, run_of_ne_nil (List.cons_ne_nil _ _),
      step_eq, hfront]
    rfl
  refine ⟨h, blamed_of_parse h, ?_⟩
  rw [hopen tag [] rfl, run_of_nil rfl]
  rfl

end Template

end Stencil
