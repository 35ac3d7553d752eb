import Stencil.Proofs.Template.Passage

/-!
# `Stencil.Proofs.Template.Step`: what one step may do

A step of the machine has three ways to come out, and `Machine.proceeds` says
that there are no more.

* It moves on (`Machine.Moves`). A character that does not matter is text, or a
  lexeme that has its place is gone through. Each constructor has the whole of
  the next state.
* It meets a problem. The error is at this place, and the sign of the construct
  that has the problem stands here.
* It refuses a conditional, because as many are open as may be.

What holds along a run is shown by these cases, without a look at the readers.
-/

set_option autoImplicit false

namespace Stencil

open Condition (nestingLimit)

/-! ### Signs -/

/-- The sign with which the construct of a defect begins. -/
def Defect.sign : Defect → Text
  | .strayCloser _ | .missingTagName | .unknownTag _ | .malformedOpener => ['<']
  | .missingPath | .unclosedInterpolation => ['%', '\x7b']

/-- The sign with which the construct of a problem begins. -/
def Problem.sign : Problem → Text
  | .broken defect => defect.sign
  | .unknownTransform _ => ['%', '\x7b']

/-- What is broken begins with its sign. -/
theorem sign_of_broken {s : Text} {defect : Defect} (h : front s = .broken defect) :
    defect.sign <+: s := by
  unfold front at h
  split at h
  · cases h
  · split at h
    · -- An opening tag begins here.
      rename_i rest hopening
      obtain ⟨w, rfl⟩ := opening?_eq_some_iff.mp hopening
      have hsign : defect.sign = ['<'] := by
        unfold openerFront at h
        repeat' split at h
        all_goals cases h <;> rfl
      rw [hsign]
      exact ⟨_, rfl⟩
    · split at h
      · -- An interpolation begins here.
        rename_i rest hword
        have hsign : defect.sign = ['%', '\x7b'] := by
          unfold interpolationFront at h
          repeat' split at h
          all_goals cases h <;> rfl
        rw [hsign, Text.word?_eq_some_iff.mp hword]
        exact ⟨_, rfl⟩
      · cases h

/-- What is broken does not matter to lenient reading. -/
theorem not_matters_of_broken {depth : Nat} {s : Text} {defect : Defect}
    (h : front s = .broken defect) : ¬ Matters false depth s := by
  intro hmatters
  obtain ⟨l, rest, hcounts, hs⟩ := hmatters
  have hnesting : l.nesting ≤ nestingLimit := by
    cases l with
    | opener l => exact hcounts
    | _ => exact Nat.zero_le _
  rw [front_eq_construct_iff.mpr ⟨l, hnesting, rfl, hs⟩] at h
  cases h

/-- Where nothing is found, nothing matters. -/
theorem not_matters_of_plain {strict : Bool} {depth : Nat} {s : Text} (h : front s = .plain) :
    ¬ Matters strict depth s := by
  intro hmatters
  refine front_eq_plain_iff.mp h ?_
  cases strict with
  | true => exact hmatters
  | false =>
    obtain ⟨l, rest, -, rfl⟩ := hmatters
    exact l.marked rest

namespace Machine

variable {τ : Type} {settings : Settings} {resolve : Text → Option τ}

/-! ### A conditional that is refused -/

/-- A conditional opens here, inside as many others as there may be. -/
def State.Refused (maxDepth : Int) (st : State τ) : Prop :=
  ∃ condition rest, front st.rest = .construct (.opener condition) rest ∧
    maxDepth ≤ st.stack.length

section

variable {st : State τ}

theorem step_of_refused (h : st.Refused settings.maxDepth) :
    step settings resolve st = Run.fail (.tooDeep settings.maxDepth) st.position := by
  obtain ⟨condition, rest, hfront, hdepth⟩ := h
  rw [step_eq, hfront]
  exact if_pos hdepth

theorem run_of_refused (h : st.Refused settings.maxDepth) :
    run settings resolve st = Run.fail (.tooDeep settings.maxDepth) st.position := by
  have hrest : st.rest ≠ [] := by
    obtain ⟨condition, rest, hfront, -⟩ := h
    exact List.ne_nil_of_length_pos (Nat.zero_lt_of_lt (front_advances hfront).2)
  rw [run_of_ne_nil hrest, step_of_refused h, Run.fail_bind]

/-- An opening tag is refused if too many conditionals are open. -/
theorem State.refused_of_opener {maxDepth : Int} {l : Lexeme.Opener} {rest : Text}
    (hrest : st.rest = l.text ++ rest) (hnesting : l.condition.nesting ≤ nestingLimit)
    (hdepth : maxDepth ≤ st.stack.length) : st.Refused maxDepth :=
  ⟨l.condition.value, rest, (front_of_lexeme (.opener l) hnesting hrest).2, hdepth⟩

/-- The sign of a tag stands where a conditional is refused. -/
theorem State.Refused.sign {maxDepth : Int} (h : st.Refused maxDepth) : ['<'] <+: st.rest := by
  obtain ⟨condition, rest, hfront, -⟩ := h
  obtain ⟨l, -, hconstruct, hs⟩ := front_eq_construct_iff.mp hfront
  rw [hs]
  cases l with
  | opener l => exact ⟨_, rfl⟩
  | _ => cases hconstruct

end

/-! ### A step that moves on -/

/-- The steps that succeed: a character is text, or a lexeme that has its place
is gone through. -/
inductive Moves (settings : Settings) (resolve : Text → Option τ) (st : State τ) : State τ → Prop
  | text (c : Char) (tail : Text) (hrest : st.rest = c :: tail)
    (h : ¬ Matters settings.strict st.stack.length (c :: tail)) :
    Moves settings resolve st
      { st with pending := c :: st.pending, position := st.position + 1, rest := tail }
  | interpolation (l : Lexeme.Interpolation) (rest : Text) (hrest : st.rest = l.text ++ rest)
    (hknown : settings.strict = true → Layout.Known resolve l) :
    Moves settings resolve st
      { st with
        nodes := st.flushed ++ [.interpolation l.path (l.name.bind resolve)]
        pending := []
        position := st.position + l.text.length
        rest }
  | opener (l : Lexeme.Opener) (rest : Text) (hrest : st.rest = l.text ++ rest)
    (hnesting : l.condition.nesting ≤ nestingLimit)
    (hdepth : (st.stack.length : Int) < settings.maxDepth) :
    Moves settings resolve st
      { stack := ⟨st.position, l.condition.value, st.flushed⟩ :: st.stack
        nodes := []
        pending := []
        position := st.position + l.text.length
        rest }
  | closer (l : Lexeme.Closer) (rest : Text) (frame : Frame τ) (stack : List (Frame τ))
    (hrest : st.rest = l.text ++ rest) (hname : l.name = ifName)
    (hstack : st.stack = frame :: stack) :
    Moves settings resolve st
      { stack
        nodes := frame.before ++ [.conditional frame.condition st.flushed]
        pending := []
        position := st.position + l.text.length
        rest }

namespace Moves

variable {st st' : State τ}

/-- A step takes some text. -/
theorem exists_taken (h : Moves settings resolve st st') :
    ∃ taken, taken ≠ [] ∧ st.rest = taken ++ st'.rest ∧
      st'.position = st.position + taken.length := by
  cases h with
  | text c tail hrest => exact ⟨[c], List.cons_ne_nil _ _, hrest, rfl⟩
  | interpolation l rest hrest => exact ⟨l.text, List.cons_ne_nil _ _, hrest, rfl⟩
  | opener l rest hrest => exact ⟨l.text, List.cons_ne_nil _ _, hrest, rfl⟩
  | closer l rest frame stack hrest => exact ⟨l.text, List.cons_ne_nil _ _, hrest, rfl⟩

theorem step_outcome (h : Moves settings resolve st st') :
    (step settings resolve st).outcome = .ok st' := by
  cases h with
  | text c tail hrest h =>
    rw [← hrest] at h
    rw [step_of_not_matters settings resolve h, State.skip, hrest]
  | interpolation l rest hrest hknown =>
    rw [step_interpolation settings resolve hrest hknown, State.add, offset_eq hrest]
  | opener l rest hrest hnesting hdepth =>
    rw [step_opener settings resolve hrest hnesting hdepth]
    rfl
  | closer l rest frame stack hrest hname hstack =>
    rw [step_closer settings resolve hrest hname hstack]
    rfl

/-- A run goes through what a step moves to. -/
theorem outcome_eq (h : Moves settings resolve st st') :
    (run settings resolve st).outcome = (run settings resolve st').outcome := by
  obtain ⟨taken, htaken, hrest, -⟩ := h.exists_taken
  have hne : st.rest ≠ [] := by simp [hrest, htaken]
  rw [run_of_ne_nil hne, Run.bind_of_ok _ h.step_outcome]

end Moves

/-! ### Every step -/

/-- The ways in which a step may come out. -/
inductive Proceeds (settings : Settings) (resolve : Text → Option τ) (st : State τ) : Prop
  | moves (st' : State τ) (h : Moves settings resolve st st')
  | problem (p : Problem)
    (h : (step settings resolve st).outcome = .error ⟨.problem p, st.position⟩)
    (sign : p.sign <+: st.rest)
  | refused (h : st.Refused settings.maxDepth)

section

variable {st : State τ}

/-- What does not matter is text. -/
theorem proceeds_of_not_matters (hrest : st.rest ≠ [])
    (h : ¬ Matters settings.strict st.stack.length st.rest) : Proceeds settings resolve st := by
  obtain ⟨c, tail, hcons⟩ := List.exists_cons_of_ne_nil hrest
  rw [hcons] at h
  exact .moves _ (.text c tail hcons h)

/-- What is rejected is an error in strict reading, and text in lenient
reading. -/
theorem proceeds_of_reject {defect : Defect} (hrest : st.rest ≠ [])
    (hstep : step settings resolve st = st.reject settings.strict defect)
    (hsign : defect.sign <+: st.rest) (hlenient : ¬ Matters false st.stack.length st.rest) :
    Proceeds settings resolve st := by
  cases hstrict : settings.strict with
  | true =>
    rw [hstrict] at hstep
    exact .problem (.broken defect) (by rw [hstep]; rfl) hsign
  | false => exact proceeds_of_not_matters hrest (by rwa [hstrict])

/-- **Every step** comes out in one of these ways. -/
theorem proceeds (settings : Settings) (resolve : Text → Option τ) (hrest : st.rest ≠ []) :
    Proceeds settings resolve st := by
  have hstep : step settings resolve st = _ := step_eq st
  cases hfront : front st.rest with
  | plain => exact proceeds_of_not_matters hrest (not_matters_of_plain hfront)
  | broken defect =>
    rw [hfront] at hstep
    exact proceeds_of_reject hrest hstep (sign_of_broken hfront) (not_matters_of_broken hfront)
  | construct construct rest =>
    obtain ⟨l, hnesting, rfl, hs⟩ := front_eq_construct_iff.mp hfront
    rw [hfront] at hstep
    cases l with
    | closer l =>
      by_cases hcounts : l.name = ifName ∧ 0 < st.stack.length
      · obtain ⟨frame, stack, hstack⟩ := List.exists_cons_of_length_pos hcounts.2
        exact .moves _ (.closer l rest frame stack hs hcounts.1 hstack)
      · refine proceeds_of_reject hrest (hstep.trans (leave_of_stray hcounts)) ?_ ?_
        · rw [hs]
          exact ⟨_, rfl⟩
        · -- No other construct stands where the closing tag does.
          intro hmatters
          obtain ⟨l', rest', hcounts', hs'⟩ := hmatters
          obtain ⟨rfl, -⟩ := Lexeme.text_append_inj (l := .closer l) (hs.symm.trans hs')
          exact hcounts hcounts'
    | opener l =>
      by_cases hdepth : settings.maxDepth ≤ st.stack.length
      · exact .refused (State.refused_of_opener hs hnesting hdepth)
      · exact .moves _ (.opener l rest hs hnesting (Int.not_le.mp hdepth))
    | interpolation l =>
      by_cases hknown : settings.strict = true → Layout.Known resolve l
      · exact .moves _ (.interpolation l rest hs hknown)
      · obtain ⟨hstrict, name, hname, hunknown⟩ :
            settings.strict = true ∧ ∃ name, l.name = some name ∧ resolve name = none := by
          simpa [Layout.Known] using hknown
        refine .problem (.unknownTransform name) ?_ ?_
        · rw [hstep]
          simp only [Lexeme.construct, hname, Template.resolved, hunknown, hstrict]
          rfl
        · rw [hs]
          exact ⟨_, rfl⟩

end

end Machine

end Stencil
