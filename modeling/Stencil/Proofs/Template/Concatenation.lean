import Stencil.Proofs.Template.Passage

/-!
# `Stencil.Proofs.Template.Concatenation`: two templates in one

A template that does not end in literal text may be read on its own, whatever
is written behind it. `Template.parse_append` says so: the nodes of the first
template come first, and the rest is read as a template of its own, with its
errors moved by the length of the first. If the first one does end in literal
text, it is enough that the second begins with a construct.

The first template is gone through as `Machine.exists_leads_of_fits` says. Two
facts are left for the second, and they are about any state of the machine.

* `run_shift`: where the text begins has no part in reading it. If all offsets
  of a state are moved, so are those of the notices and of the error. What it
  means of any run that its offsets are moved is `Run.moved`.
* `run_of_outermost`: nodes that are there already, outside of all
  conditionals, come first in the tree and have no other part in it.
-/

set_option autoImplicit false

namespace Stencil

open Text (Blank)

/-! ### Moving offsets -/

/-- The same notice, so much further on. -/
def Notice.shift (k : Nat) (n : Notice) : Notice :=
  { n with position := k + n.position }

/-- The same error, so much further on. -/
def TemplateError.shift (k : Nat) (e : TemplateError) : TemplateError :=
  { e with position := k + e.position }

namespace Run

variable {α α' β β' : Type}

/-- The same run, with its notices and its error so much further on. -/
def shift (k : Nat) (r : Run α) : Run α :=
  ⟨r.notices.map (Notice.shift k), r.outcome.mapError (TemplateError.shift k)⟩

theorem shift_pure (k : Nat) (a : α) : shift k (pure a : Run α) = pure a := rfl

theorem shift_meet (k : Nat) (strict : Bool) (problem : Problem) (position : Nat) :
    shift k (meet strict problem position) = meet strict problem (k + position) := by
  cases strict <;> rfl

/-- Only the offsets of a run are moved, and not what it gives. -/
theorem shift_outcome_eq_ok_iff {k : Nat} {r : Run α} {a : α} :
    (shift k r).outcome = .ok a ↔ r.outcome = .ok a := by
  unfold shift
  cases r.outcome <;> simp [Except.mapError]

theorem shift_bind (k : Nat) (r : Run α) (next : α → Run β) :
    shift k (r >>= next) = shift k r >>= fun a => shift k (next a) := by
  cases hr : r.outcome with
  | error e =>
    have herror : (shift k r).outcome = .error (e.shift k) := by
      simp only [shift, hr, Except.mapError]
    rw [bind_of_error _ hr, bind_of_error _ herror]
    rfl
  | ok a =>
    have hok := shift_outcome_eq_ok_iff (k := k).mpr hr
    rw [bind_of_ok _ hr, bind_of_ok _ hok]
    simp only [shift, List.map_append]

/-- The same run so much further on, where what it gives has to be moved too. -/
def moved (k : Nat) (move : α → α') (r : Run α) : Run α' :=
  move <$> shift k r

variable {k : Nat} {f : α → α'} {g : β → β'}

/-- What a run comes to is moved, whether it is a value or an error. -/
theorem moved_outcome (r : Run α) :
    (r.moved k f).outcome = (r.outcome.map f).mapError (TemplateError.shift k) := by
  obtain ⟨notices, outcome⟩ := r
  cases outcome <;> rfl

/-- Where a run gives no place, there is nothing to be moved in it. -/
theorem moved_id (r : Run α) : r.moved k id = shift k r :=
  id_map _

/-- A run that goes on is moved part by part. -/
theorem moved_bind {r : Run α} {next : α → Run β} {next' : α' → Run β'}
    (h : ∀ a, r.outcome = .ok a → next' (f a) = (next a).moved k g) :
    r.moved k f >>= next' = (r >>= next).moved k g := by
  simp only [moved, shift_bind, bind_map_left, map_bind]
  exact bind_congr fun a ha => h a (shift_outcome_eq_ok_iff.mp ha)

/-- A problem that is met gives no place. -/
theorem moved_meet_bind {strict : Bool} {problem : Problem} {position : Nat}
    {next : Unit → Run β} {next' : Unit → Run β'} (h : ∀ a, next' a = (next a).moved k g) :
    meet strict problem (k + position) >>= next' =
      (meet strict problem position >>= next).moved k g := by
  rw [← shift_meet, ← moved_id]
  exact moved_bind fun a _ => h a

end Run

namespace Machine

variable {τ : Type} {settings : Settings} {resolve : Text → Option τ}

namespace State

/-- The same state, with its place and those of the open conditionals so much
further on. -/
def shift (k : Nat) (st : State τ) : State τ :=
  { st with
    stack := st.stack.map fun frame => { frame with position := k + frame.position }
    position := k + st.position }

variable (k : Nat) (st : State τ)

theorem length_stack_shift : (st.shift k).stack.length = st.stack.length :=
  List.length_map _

theorem offset_shift (rest : Text) : (st.shift k).offset rest = k + st.offset rest :=
  Nat.add_assoc k st.position _

theorem skip_shift : (st.shift k).skip = st.skip.shift k := by
  obtain ⟨stack, nodes, pending, position, rest⟩ := st
  cases rest <;> rfl

theorem add_shift (node : Node τ) (rest : Text) :
    (st.shift k).add node rest = (st.add node rest).shift k := by
  rw [add, offset_shift]
  rfl

theorem reject_shift (strict : Bool) (defect : Defect) :
    (st.shift k).reject strict defect = (st.reject strict defect).moved k (shift k) := by
  refine Run.moved_meet_bind fun _ => ?_
  rw [skip_shift]
  rfl

theorem enter_shift (maxDepth : Int) (condition : Condition) (rest : Text) :
    (st.shift k).enter maxDepth condition rest =
      (st.enter maxDepth condition rest).moved k (shift k) := by
  unfold enter
  rw [length_stack_shift, offset_shift]
  by_cases hdepth : maxDepth ≤ st.stack.length
  · rw [if_pos hdepth, if_pos hdepth]
    rfl
  · rw [if_neg hdepth, if_neg hdepth]
    rfl

theorem leave_shift (strict : Bool) (name rest : Text) :
    (st.shift k).leave strict name rest = (st.leave strict name rest).moved k (shift k) := by
  by_cases hcounts : name = ifName ∧ 0 < st.stack.length
  · -- A frame is closed. The shift has left its nodes as they are.
    obtain ⟨hname, hlength⟩ := hcounts
    unfold leave
    rw [offset_shift]
    cases hstack : st.stack with
    | nil =>
      rw [hstack] at hlength
      exact absurd hlength (Nat.lt_irrefl 0)
    | cons frame stack =>
      simp only [shift, hstack, List.map_cons, if_pos hname]
      rfl
  · rw [leave_of_stray hcounts, leave_of_stray, reject_shift]
    rw [length_stack_shift]
    exact hcounts

end State

theorem resolved_shift (k position : Nat) (name : Option Text) :
    Template.resolved settings resolve (k + position) name =
      (Template.resolved settings resolve position name).shift k := by
  cases name with
  | none => rfl
  | some name =>
    cases hresolve : resolve name with
    | some transform => simp only [Template.resolved, hresolve, Run.shift_pure]
    | none =>
      simp only [Template.resolved, hresolve, Run.shift_bind, Run.shift_meet, Run.shift_pure]

/-- **One step** does the same at another offset. -/
theorem step_shift (k : Nat) (st : State τ) :
    step settings resolve (st.shift k) = (step settings resolve st).moved k (State.shift k) := by
  have hrest : (st.shift k).rest = st.rest := rfl
  rw [step_eq, step_eq, hrest]
  cases front st.rest with
  | plain =>
    rw [State.skip_shift]
    rfl
  | broken defect => exact st.reject_shift k _ defect
  | construct construct rest =>
    cases construct with
    | closer name => exact st.leave_shift k _ name rest
    | opener condition => exact st.enter_shift k _ condition rest
    | interpolation path name =>
      show Template.resolved settings resolve (k + st.position) name >>= _ = _
      rw [resolved_shift, ← Run.moved_id]
      refine Run.moved_bind fun transform _ => ?_
      rw [id, State.add_shift]
      rfl

/-- **A whole run** does the same at another offset. The induction is on the
text that is left. -/
theorem run_shift (k : Nat) (st : State τ) :
    run settings resolve (st.shift k) = (run settings resolve st).shift k := by
  induction hlength : st.rest.length using Nat.strong_induction_on generalizing st with
  | _ n ih =>
    subst hlength
    by_cases hrest : st.rest = []
    · have hrest' : (st.shift k).rest = [] := hrest
      rw [run_of_nil hrest, run_of_nil hrest']
      unfold State.finish
      cases hstack : st.stack with
      | nil =>
        simp only [State.shift, hstack, List.map_nil]
        rfl
      | cons frame stack =>
        simp only [State.shift, hstack, List.map_cons]
        rfl
    · have hrest' : (st.shift k).rest ≠ [] := hrest
      rw [run_of_ne_nil hrest, run_of_ne_nil hrest', step_shift, ← Run.moved_id]
      refine Run.moved_bind fun st' hstep => ?_
      rw [Run.moved_id]
      exact ih st'.rest.length (length_of_step hrest hstep) st' rfl

/-- Outside of all conditionals the nodes that are there already come first,
and what is left is read as a template of its own. -/
theorem run_of_outermost {st : State τ} (hstack : st.stack = []) (hpending : st.pending = []) :
    run settings resolve st =
      (Template.parse settings resolve st.rest).shift st.position >>= fun later =>
        pure (st.nodes ++ later) := by
  have hstart : (State.start st.rest : State τ).shift st.position =
      ⟨[], [], [], st.position, st.rest⟩ := rfl
  have h : Agrees settings resolve st := agrees st
  have hlater : Agrees settings resolve ((State.start st.rest).shift st.position) := agrees _
  unfold Agrees at h hlater
  -- Both runs are the same scan, and differ in what is done with the body that it gives.
  rw [parse_eq, ← run_shift, hlater, h, hstart, bind_assoc, hstack, hpending]
  refine Run.bind_congr fun body _ => ?_
  unfold State.resume
  rw [hstack]
  rfl

/-- The machine goes through a whole template to where the next one begins. -/
theorem exists_leads_of_parse {s t : Text} {nodes : List (Node τ)}
    (h : (Template.parse settings resolve s).outcome = .ok nodes)
    (hseam : EndsLiteral nodes → Seam t) :
    ∃ notices st', Leads settings resolve (State.start (s ++ t)) notices st' ∧
      st'.stack = [] ∧ st'.flushed = nodes ∧ st'.position = s.length ∧ st'.rest = t := by
  obtain ⟨layout, hfits, rfl, rfl⟩ := Template.parse_outcome_eq_ok_iff.mp h
  obtain ⟨st', hleads, hpassed⟩ :=
    exists_leads_of_fits (State.start (layout.text ++ t)) hfits rfl (Or.inl rfl) hseam
  exact ⟨_, st', hleads, hpassed.stack, hpassed.flushed,
    hpassed.position.trans (Nat.zero_add _), hpassed.rest⟩

end Machine

/-! ### Whole templates -/

namespace Template

open Machine

variable {τ : Type}

/-- **Templates may be put together at the edge of a construct.** Let the first
of two texts be read. If its last node is no literal, the second is read as it
is on its own: its nodes follow, or its error, which is further on by the
length of the first text. If the second is read as well and its first node is
no literal, its nodes follow in any case. -/
theorem parse_append (settings : Settings) (resolve : Text → Option τ) (s t : Text)
    (nodes : List (Node τ)) (h : (parse settings resolve s).outcome = .ok nodes) :
    ((∀ text, nodes.getLast? ≠ some (.literal text)) →
      (parse settings resolve (s ++ t)).outcome =
        match (parse settings resolve t).outcome with
        | .ok later => .ok (nodes ++ later)
        | .error e => .error ⟨e.cause, s.length + e.position⟩) ∧
    ∀ later, (parse settings resolve t).outcome = .ok later →
      (∀ text, later.head? ≠ some (.literal text)) →
        (parse settings resolve (s ++ t)).outcome = .ok (nodes ++ later) := by
  rw [parse_eq settings resolve (s ++ t)]
  constructor
  · intro hlast
    have hends : ¬ EndsLiteral nodes := fun ⟨text, htext⟩ => hlast text htext
    obtain ⟨notices, st', hleads, hstack, rfl, hposition, rfl⟩ :=
      exists_leads_of_parse (t := t) h fun hends' => absurd hends' hends
    -- No text is pending, so what is left is a template of its own.
    have hpending := State.pending_eq_nil hends
    have hflushed : st'.flushed = st'.nodes := by
      rw [State.flushed, hpending]
      exact List.append_nil _
    rw [hleads.outcome_eq, run_of_outermost hstack hpending, hflushed, ← hposition]
    unfold Run.shift
    cases (parse settings resolve st'.rest).outcome <;> rfl
  · intro later ht hfirst
    obtain ⟨layout, hfits, htext, rfl⟩ := parse_outcome_eq_ok_iff.mp ht
    have hliteral : layout.opensLiteral = false := by
      cases layout with
      | literal text next => exact absurd rfl (hfirst text)
      | _ => rfl
    have hseam : Seam t := by
      rw [← htext, ← List.append_nil layout.text]
      exact layout.seam hliteral .ended
    obtain ⟨notices, st', hleads, hstack, rfl, -, hrest⟩ := exists_leads_of_parse h fun _ => hseam
    -- A construct comes next, so what is pending is a literal of its own.
    rw [hleads.outcome_eq,
      run_of_fits st' hstack hfits (hrest.trans htext.symm) (Or.inr hliteral)]

/-- An interpolation before a tag that is left open, and before itself. -/
theorem parse_append_unterminated :
    let s : Text := ['%', '\x7b', 'a', '\x7d']
    let t : Text := ['<', '#', 'i', 'f', '(', 'a', '<', 'b', ')', '>']
    let resolve : Text → Option Unit := fun _ => none
    let node : Node Unit := .interpolation ⟨['a'], []⟩ none
    (parse Settings.defaults resolve s).outcome = .ok [node] ∧
      (parse Settings.defaults resolve t).outcome = .error ⟨.unterminated ifName, 0⟩ ∧
      (parse Settings.defaults resolve (s ++ t)).outcome = .error ⟨.unterminated ifName, 4⟩ ∧
      (parse Settings.defaults resolve (s ++ s)).outcome = .ok [node, node] := by
  intro s t resolve node
  have hs : (parse Settings.defaults resolve s).outcome = .ok [node] :=
    parse_outcome_eq_ok_iff.mpr
      ⟨.interpolation ⟨Blank.none, ⟨['a'], []⟩, none, Blank.none, by decide⟩ .done,
        ⟨Bool.noConfusion, trivial⟩, rfl, rfl⟩
  have hproper : (Condition.Spelling.compare ⟨['a'], []⟩ Blank.none .less Blank.none
      ⟨['b'], []⟩).IsProper := ⟨by decide, by decide⟩
  have ht : (parse Settings.defaults resolve t).outcome = .error ⟨.unterminated ifName, 0⟩ := by
    let l : Lexeme.Opener :=
      ⟨Blank.none, Blank.none, Blank.none, _, Blank.none, Blank.none, hproper⟩
    have hrest : (State.start t : State Unit).rest = l.text ++ [] := rfl
    have hopen := leads_opener Settings.defaults resolve hrest (Nat.zero_le _) (by decide)
    rw [parse_eq, hopen.outcome_eq, run_of_nil rfl]
    rfl
  have hlast : ∀ text, [node].getLast? ≠ some (.literal text) := by
    intro text
    simp [node]
  have hfirst : ∀ text, [node].head? ≠ some (.literal text) := by
    intro text
    simp [node]
  have hafter := (parse_append Settings.defaults resolve s t [node] hs).1 hlast
  rw [ht] at hafter
  exact ⟨hs, ht, hafter, (parse_append Settings.defaults resolve s s [node] hs).2 [node] hs hfirst⟩

end Template

end Stencil
