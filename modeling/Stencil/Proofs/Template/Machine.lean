import Stencil.Proofs.Template.Front
import Stencil.Proofs.Template.Run

/-!
# `Stencil.Proofs.Template.Machine`: reading as a stack machine

`Template.scan` calls itself for the body of a conditional, and what is
around that conditional is kept in the calls. Here is the same reading
as a machine that goes over the text once and keeps the open
conditionals on a stack of its own. `Machine.step` looks at one place:

* a whole closing tag closes the innermost conditional, if one is open
  and the name is right, and is rejected otherwise;
* else a whole opening tag opens a conditional, unless as many are open
  as may be;
* else a whole interpolation becomes a node;
* else what only begins an opening tag or an interpolation is rejected;
* any other character is text.

What is rejected is an error in strict reading. In lenient reading it
leaves a notice, and its first character is text.

`Machine.agrees` is the simulation. The state of the machine is the
calls that have not returned yet: what the innermost call gives is
handed to the frames of the stack by `State.resume`.
-/

set_option autoImplicit false

namespace Stencil.Machine

variable {τ : Type}

/-- A conditional that is open: the place of its opening tag, its
condition, and the nodes that come before it in the body around it. -/
structure Frame (τ : Type) where
  position : Nat
  condition : Condition
  before : List (Node τ)

/-- The open conditionals, innermost first, and the body that is being
read: its nodes so far, the text after them, latest character first, and
the rest of the template with its offset. -/
structure State (τ : Type) where
  stack : List (Frame τ)
  nodes : List (Node τ)
  pending : Text
  position : Nat
  rest : Text

namespace State

/-- Nothing is read yet. -/
def start (s : Text) : State τ :=
  ⟨[], [], [], 0, s⟩

variable (st : State τ)

/-- The nodes of the body, the text after them as a literal if there is
any. -/
def flushed : List (Node τ) :=
  st.nodes ++ Body.literal st.pending

/-- The offset of a text that is left after some construct. -/
def offset (rest : Text) : Nat :=
  st.position + (st.rest.length - rest.length)

/-- Takes one character as text. -/
def skip : State τ :=
  match st.rest with
  | [] => st
  | c :: tail =>
    { st with pending := c :: st.pending, position := st.position + 1, rest := tail }

/-- Rejects what stands here. -/
def reject (strict : Bool) (defect : Defect) : Run (State τ) := do
  Run.meet strict (.broken defect) st.position
  pure st.skip

/-- Adds an interpolation to the body. -/
def add (node : Node τ) (rest : Text) : State τ :=
  { st with nodes := st.flushed ++ [node], pending := [], position := st.offset rest, rest }

/-- Opens a conditional, unless as many are open as may be. -/
def enter (maxDepth : Int) (condition : Condition) (rest : Text) : Run (State τ) :=
  if maxDepth ≤ st.stack.length then Run.fail (.tooDeep maxDepth) st.position
  else pure {
    stack := ⟨st.position, condition, st.flushed⟩ :: st.stack
    nodes := []
    pending := []
    position := st.offset rest
    rest }

/-- Closes the innermost conditional if the tag is its closing tag, and
rejects the tag otherwise. -/
def leave (strict : Bool) (name rest : Text) : Run (State τ) :=
  match st.stack with
  | [] => st.reject strict (.strayCloser name)
  | frame :: stack =>
    if name = ifName then pure {
      stack
      nodes := frame.before ++ [.conditional frame.condition st.flushed]
      pending := []
      position := st.offset rest
      rest }
    else st.reject strict (.strayCloser name)

/-- The text has ended. -/
def finish : Run (List (Node τ)) :=
  match st.stack with
  | [] => pure st.flushed
  | frame :: _ => Run.fail (.unterminated ifName) frame.position

end State

section Step

variable (settings : Settings) (resolve : Text → Option τ)

/-- Reads what stands at one place. -/
def step (st : State τ) : Run (State τ) :=
  match closer? st.rest with
  | some (name, rest) => st.leave settings.strict name rest
  | none =>
    match header? st.rest with
    | some (condition, rest) => st.enter settings.maxDepth condition rest
    | none =>
      match interpolation? st.rest with
      | some ((path, name), rest) => do
        let transform ← Template.resolved settings resolve st.position name
        pure (st.add (.interpolation path transform) rest)
      | none =>
        match defect? st.rest with
        | some defect => st.reject settings.strict defect
        | none => pure st.skip

end Step

/-! ### One step -/

section

variable {settings : Settings} {resolve : Text → Option τ} {st st' : State τ}

/-- A step is decided by what stands at the front. -/
theorem step_eq (st : State τ) : step settings resolve st =
    match front st.rest with
    | .plain => pure st.skip
    | .broken defect => st.reject settings.strict defect
    | .construct (.closer name) rest => st.leave settings.strict name rest
    | .construct (.opener condition) rest => st.enter settings.maxDepth condition rest
    | .construct (.interpolation path name) rest => (do
      let transform ← Template.resolved settings resolve st.position name
      pure (st.add (.interpolation path transform) rest)) := by
  rw [front_eq, step]
  cases closer? st.rest with
  | some found => rfl
  | none =>
    cases header? st.rest with
    | some found => rfl
    | none =>
      cases interpolation? st.rest with
      | some found => rfl
      | none => cases defect? st.rest <;> rfl

theorem length_skip (h : st.rest ≠ []) : st.skip.rest.length < st.rest.length := by
  cases hrest : st.rest with
  | nil => exact absurd hrest h
  | cons c tail => simp [State.skip, hrest]

theorem length_of_reject {strict : Bool} {defect : Defect} (h : st.rest ≠ [])
    (hstep : (st.reject strict defect).outcome = .ok st') :
    st'.rest.length < st.rest.length := by
  rw [State.reject, Run.bind_outcome_eq_ok_iff] at hstep
  obtain ⟨_, -, hskip⟩ := hstep
  cases hskip
  exact length_skip h

/-- A step goes on in the text. -/
theorem length_of_step (h : st.rest ≠ [])
    (hstep : (step settings resolve st).outcome = .ok st') :
    st'.rest.length < st.rest.length := by
  rw [step_eq] at hstep
  cases hfront : front st.rest with
  | plain =>
    rw [hfront] at hstep
    cases hstep
    exact length_skip h
  | broken defect =>
    rw [hfront] at hstep
    exact length_of_reject h hstep
  | construct construct rest =>
    have hrest := (front_advances hfront).2
    rw [hfront] at hstep
    cases construct with
    | closer name =>
      simp only [State.leave] at hstep
      cases hstack : st.stack with
      | nil =>
        rw [hstack] at hstep
        exact length_of_reject h hstep
      | cons frame stack =>
        by_cases hname : name = ifName
        · simp only [hstack, if_pos hname] at hstep
          cases hstep
          exact hrest
        · simp only [hstack, if_neg hname] at hstep
          exact length_of_reject h hstep
    | opener condition =>
      simp only [State.enter] at hstep
      by_cases hdepth : settings.maxDepth ≤ st.stack.length
      · rw [if_pos hdepth] at hstep
        cases hstep
      · rw [if_neg hdepth] at hstep
        cases hstep
        exact hrest
    | interpolation path name =>
      simp only [Run.bind_outcome_eq_ok_iff] at hstep
      obtain ⟨_, -, hadd⟩ := hstep
      cases hadd
      exact hrest

end

/-! ### A whole run -/

/-- Takes steps up to the end of the text. -/
def run (settings : Settings) (resolve : Text → Option τ) (st : State τ) :
    Run (List (Node τ)) :=
  if _hrest : st.rest = [] then st.finish
  else
    match _hstep : (step settings resolve st).outcome with
    | .error e => ⟨(step settings resolve st).notices, .error e⟩
    | .ok st' =>
      let later := run settings resolve st'
      ⟨(step settings resolve st).notices ++ later.notices, later.outcome⟩
termination_by st.rest.length
decreasing_by exact length_of_step _hrest _hstep

section

variable {settings : Settings} {resolve : Text → Option τ} {st : State τ}

theorem run_of_nil (h : st.rest = []) : run settings resolve st = st.finish := by
  rw [run, dif_pos h]

/-- A run is a step and then a run. -/
theorem run_of_ne_nil (h : st.rest ≠ []) :
    run settings resolve st = step settings resolve st >>= run settings resolve := by
  rw [run, dif_neg h]
  split
  · rename_i e hstep
    exact (Run.bind_of_error _ hstep).symm
  · rename_i st' hstep
    exact (Run.bind_of_ok _ hstep).symm

end

/-! ### The simulation -/

/-- Gives the body that a call of the scan returned to what is around it.
If a closing tag ended the body, the innermost conditional is closed and
the run goes on after the tag. -/
def State.resume (settings : Settings) (resolve : Text → Option τ) (st : State τ)
    (body : Body τ) : Run (List (Node τ)) :=
  match st.stack, body.stop with
  | [], _ => pure (st.nodes ++ body.nodes)
  | frame :: _, none => Run.fail (.unterminated ifName) frame.position
  | frame :: stack, some stop => run settings resolve
      { stack
        nodes := frame.before ++ [.conditional frame.condition (st.nodes ++ body.nodes)]
        pending := []
        position := stop
        rest := st.rest.drop (stop - st.position) }

section Simulation

variable {settings : Settings} {resolve : Text → Option τ} {st st' : State τ}

/-- Nodes that were read in between may as well come with the body. -/
theorem resume_after (more : List (Node τ)) {body : Body τ} (hstack : st'.stack = st.stack)
    (hnodes : st'.nodes = st.nodes ++ more)
    (hrest : st'.rest = st.rest.drop (st'.position - st.position))
    (hposition : st.position ≤ st'.position) (hstop : ∀ stop ∈ body.stop, st'.position ≤ stop) :
    st'.resume settings resolve body = st.resume settings resolve (body.after more) := by
  unfold State.resume
  rw [hstack]
  cases st.stack with
  | nil => simp only [hnodes, Body.after, List.append_assoc]
  | cons frame stack =>
    cases hbody : body.stop with
    | none => simp only [Body.after, hbody]
    | some stop =>
      -- The rest after the closing tag is the same text, cut from a longer one.
      have hle : st'.position ≤ stop := hstop stop hbody
      have hdrop : st'.rest.drop (stop - st'.position) = st.rest.drop (stop - st.position) := by
        rw [hrest, List.drop_drop]
        congr 1
        omega
      simp only [Body.after, hbody, hnodes, hdrop, List.append_assoc]

/-- The offset after a construct is the one where the text after it begins. -/
theorem rest_eq_drop {rest : Text} (h : rest <:+ st.rest) :
    rest = st.rest.drop (st.offset rest - st.position) := by
  rw [State.offset, Nat.add_sub_cancel_left]
  exact List.suffix_iff_eq_drop.mp h

/-- What is left at a later offset may be cut from either text. -/
theorem drop_rest {rest : Text} {stop : Nat} (h : rest <:+ st.rest)
    (hle : st.offset rest ≤ stop) :
    rest.drop (stop - st.offset rest) = st.rest.drop (stop - st.position) := by
  have hposition : st.position ≤ st.offset rest := Nat.le_add_right _ _
  calc rest.drop (stop - st.offset rest)
      = (st.rest.drop (st.offset rest - st.position)).drop (stop - st.offset rest) := by
        rw [← rest_eq_drop h]
    _ = st.rest.drop (stop - st.position) := by
        rw [List.drop_drop]
        congr 1
        omega

/-- The machine goes on from a state as the scan does from the same
place. -/
def Agrees (settings : Settings) (resolve : Text → Option τ) (st : State τ) : Prop :=
  run settings resolve st =
    Template.scan settings resolve st.stack.length st.position st.pending st.rest >>=
      st.resume settings resolve

/-- Text that is pending may as well come with the body. -/
theorem run_skip {c : Char} {tail : Text} (hrest : st.rest = c :: tail)
    (h : Agrees settings resolve st.skip) :
    run settings resolve st.skip =
      Template.scan settings resolve st.stack.length (st.position + 1) (c :: st.pending) tail >>=
        st.resume settings resolve := by
  have hskip : st.skip = { st with
      pending := c :: st.pending, position := st.position + 1, rest := tail } := by
    rw [State.skip, hrest]
  rw [h, hskip]
  refine Run.bind_congr fun body hbody => ?_
  refine resume_after [] rfl (List.append_nil _).symm ?_ (Nat.le_succ _) ?_
  · simp [hrest]
  · exact Template.scan_le_stop hbody

/-- What is rejected leaves a notice or an error, and is text after that. -/
theorem run_reject {c : Char} {tail : Text} {defect : Defect} (hrest : st.rest = c :: tail)
    (h : Agrees settings resolve st.skip) :
    st.reject settings.strict defect >>= run settings resolve = (do
      Run.meet settings.strict (.broken defect) st.position
      Template.scan settings resolve st.stack.length (st.position + 1) (c :: st.pending) tail) >>=
        st.resume settings resolve := by
  rw [State.reject, bind_assoc, bind_assoc]
  refine Run.bind_congr fun _ _ => ?_
  rw [pure_bind]
  -- In either case one character is pending after that.
  exact run_skip hrest h

/-- A closing tag ends a call of the scan, and what is around it goes on. -/
theorem run_leave {rest : Text} (hsuffix : rest <:+ st.rest) (hdepth : 0 < st.stack.length) :
    st.leave settings.strict ifName rest >>= run settings resolve =
      st.resume settings resolve ⟨Body.literal st.pending, some (st.offset rest)⟩ := by
  unfold State.leave State.resume
  cases hstack : st.stack with
  | nil =>
    rw [hstack] at hdepth
    exact absurd hdepth (Nat.lt_irrefl 0)
  | cons frame stack =>
    -- The machine closes the frame that the call of the scan returns to.
    simp only [if_pos, pure_bind]
    rw [← rest_eq_drop hsuffix]
    rfl

/-- A closing tag that has no place here is rejected. -/
theorem leave_of_stray {strict : Bool} {name rest : Text}
    (hstray : ¬(name = ifName ∧ 0 < st.stack.length)) :
    st.leave strict name rest = st.reject strict (.strayCloser name) := by
  unfold State.leave
  cases hstack : st.stack with
  | nil => rfl
  | cons frame stack =>
    have hname : name ≠ ifName := by
      intro hname
      exact hstray ⟨hname, by simp [hstack]⟩
    exact if_neg hname

/-- An interpolation is added on either side. -/
theorem run_add {node : Node τ} {rest : Text} (hsuffix : rest <:+ st.rest)
    (h : Agrees settings resolve (st.add node rest)) :
    run settings resolve (st.add node rest) = (do
      let body ← Template.scan settings resolve st.stack.length (st.offset rest) [] rest
      pure (body.after (Body.literal st.pending ++ [node]))) >>= st.resume settings resolve := by
  rw [h, bind_assoc]
  refine Run.bind_congr fun body hbody => ?_
  rw [pure_bind]
  refine resume_after _ rfl (List.append_assoc _ _ _) (rest_eq_drop hsuffix)
    (Nat.le_add_right _ _) ?_
  exact Template.scan_le_stop hbody

/-- An opening tag begins a call of the scan for the body. After its
closing tag the machine and the scan agree again. -/
theorem run_enter {condition : Condition} {rest : Text} (hsuffix : rest <:+ st.rest)
    (hlength : rest.length < st.rest.length)
    (ih : ∀ st' : State τ, st'.rest.length < st.rest.length → Agrees settings resolve st')
    (hdepth : (st.stack.length : Int) < settings.maxDepth) :
    st.enter settings.maxDepth condition rest >>= run settings resolve = (do
      let inner ← Template.scan settings resolve (st.stack.length + 1) (st.offset rest) [] rest
      match inner.stop with
      | none => Run.fail (.unterminated ifName) st.position
      | some stop =>
        let body ← Template.scan settings resolve st.stack.length stop []
          (rest.drop (stop - st.offset rest))
        pure (body.after (Body.literal st.pending ++ [.conditional condition inner.nodes]))) >>=
          st.resume settings resolve := by
  rw [State.enter, if_neg (Int.not_le.mpr hdepth), pure_bind, ih _ hlength, bind_assoc]
  refine Run.bind_congr fun inner hinner => ?_
  have hstop := Template.scan_le_stop hinner
  unfold State.resume
  cases hinnerStop : inner.stop with
  | none => rfl
  | some stop =>
    have hle : st.offset rest ≤ stop := hstop stop hinnerStop
    have hshort : (rest.drop (stop - st.offset rest)).length < st.rest.length := by
      rw [List.length_drop]
      omega
    -- The conditional is complete, and both go on after its closing tag.
    simp only [List.nil_append, bind_assoc, pure_bind]
    rw [ih _ hshort]
    refine Run.bind_congr fun body hbody => ?_
    refine resume_after _ rfl (List.append_assoc _ _ _) ?_ ?_ ?_
    · exact drop_rest hsuffix hle
    · exact Nat.le_trans (Nat.le_add_right _ _) hle
    · exact Template.scan_le_stop hbody

/-- **The machine simulates the scan.** The induction is on the text that
is left. A conditional needs the hypothesis twice, for its body and for
what follows its closing tag. -/
theorem agrees (st : State τ) : Agrees settings resolve st := by
  induction hlength : st.rest.length using Nat.strong_induction_on generalizing st with
  | _ n ih =>
    subst hlength
    have ih : ∀ st' : State τ, st'.rest.length < st.rest.length →
        Agrees settings resolve st' := fun st' h => ih _ h st' rfl
    cases hrest : st.rest with
    | nil =>
      rw [Agrees, run_of_nil hrest, hrest, Template.scan_nil, pure_bind]
      unfold State.finish State.resume
      cases st.stack <;> rfl
    | cons c tail =>
      have hne : st.rest ≠ [] := by simp [hrest]
      have hskip : Agrees settings resolve st.skip := ih st.skip (length_skip hne)
      rw [Agrees, run_of_ne_nil hne, step_eq, hrest]
      cases hfront : front (c :: tail) with
      | plain =>
        rw [Template.scan_of_plain hfront, pure_bind]
        exact run_skip hrest hskip
      | broken defect =>
        rw [Template.scan_of_broken hfront]
        exact run_reject hrest hskip
      | construct construct rest =>
        have hadvance := front_advances hfront
        rw [← hrest] at hadvance
        cases construct with
        | closer name =>
          by_cases hclose : name = ifName ∧ 0 < st.stack.length
          · -- The closing tag of an open conditional: the call returns.
            obtain ⟨rfl, hdepth⟩ := hclose
            rw [Template.scan_of_closer hfront hdepth, pure_bind, ← hrest]
            exact run_leave hadvance.1 hdepth
          · rw [Template.scan_of_strayCloser hfront hclose]
            show st.leave settings.strict name rest >>= _ = _
            rw [leave_of_stray hclose]
            exact run_reject hrest hskip
        | interpolation path name =>
          -- The same transform is found or missed on either side.
          rw [Template.scan_of_interpolation hfront, bind_assoc, bind_assoc, ← hrest]
          refine Run.bind_congr fun transform _ => ?_
          rw [pure_bind]
          exact run_add hadvance.1 (ih _ hadvance.2)
        | opener condition =>
          by_cases hdepth : settings.maxDepth ≤ st.stack.length
          · rw [Template.scan_of_tooDeep hfront hdepth, Run.fail_bind]
            show st.enter settings.maxDepth condition rest >>= _ = _
            rw [State.enter, if_pos hdepth, Run.fail_bind]
          · have hdepth := Int.not_le.mp hdepth
            rw [Template.scan_of_opener hfront hdepth, ← hrest]
            exact run_enter hadvance.1 hadvance.2 ih hdepth

end Simulation

/-! ### Whole templates -/

/-- The tests of a step are the productions of the grammar. A closing tag
and an interpolation are read wherever they stand whole. An opening tag is
read where it stands whole and its condition is not nested too deep. What
may be rejected otherwise are the places where one of the two begins. -/
structure TestsGrammar : Prop where
  closer : ∀ s name rest : Text, closer? s = some (name, rest) ↔
    ∃ l : Lexeme.Closer, l.name = name ∧ s = l.text ++ rest
  header : ∀ (s rest : Text) (c : Condition), header? s = some (c, rest) ↔
    ∃ l : Lexeme.Opener,
      l.condition.nesting ≤ Condition.nestingLimit ∧ l.condition.value = c ∧ s = l.text ++ rest
  interpolation : ∀ (s rest : Text) (path : Path) (name : Option Text),
    interpolation? s = some ((path, name), rest) ↔
      ∃ l : Lexeme.Interpolation, l.path = path ∧ l.name = name ∧ s = l.text ++ rest
  begun : ∀ s : Text, (defect? s).isSome = true ↔ Begun s

/-- Reading a template is running the machine from its beginning. -/
theorem parse_eq (settings : Settings) (resolve : Text → Option τ) (s : Text) :
    Template.parse settings resolve s = run settings resolve (State.start s) := by
  have h : Agrees settings resolve (State.start s) := agrees _
  rw [Agrees] at h
  rw [h]
  rfl

/-- **Reading is one pass of the stack machine**: the same tree or the same
error and the same notices, and the tests of the machine are those of the
grammar. -/
theorem parse_eq_run (settings : Settings) (resolve : Text → Option τ) (s : Text) :
    TestsGrammar ∧ Template.parse settings resolve s = run settings resolve (State.start s) := by
  constructor
  · exact {
      closer := fun _ _ _ => closer?_eq_some_iff
      header := fun _ _ _ => header?_eq_some_iff
      interpolation := fun _ _ _ _ => interpolation?_eq_some_iff
      begun := fun _ => defect?_isSome_iff }
  · exact parse_eq settings resolve s

end Stencil.Machine
